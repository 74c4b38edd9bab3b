import VoipSwitch.Media.Exclusion

/-! The flows that are installed against the endpoints that have been learned. Flows are
computed before the lock is taken, so that what a call installs may be out of date, and a
removal that fails leaves the fast path active with what it could not take out. -/
namespace VoipSwitch.Media

open Transition

namespace MediaSockets

variable {sockets : MediaSockets} {endpoints endpoints' : MediaEndpoints}
  {flows flows' : List FastPathFlowSpec}

theorem eq_fastPathFlows (h : sockets.flows endpoints = some flows) :
    ∃ caller callee, flows = fastPathFlows caller callee := by
  unfold MediaSockets.flows at h
  split at h
  · simp only [bind, Option.bind_eq_some_iff, pure, Option.some.injEq] at h
    obtain ⟨_, -, _, -, _, -, _, -, rfl⟩ := h
    exact ⟨_, _, rfl⟩
  · cases h

/-- Two specifications' flows are the same if those of the one are among those of the other:
each media kind has one flow in each direction. -/
theorem flows_eq_of_subset (h : sockets.flows endpoints = some flows)
    (h' : sockets.flows endpoints' = some flows') (hSubset : flows ⊆ flows') : flows = flows' := by
  obtain ⟨caller, callee, rfl⟩ := eq_fastPathFlows h
  obtain ⟨caller', callee', rfl⟩ := eq_fastPathFlows h'
  simp only [fastPathFlows, List.cons_subset, List.mem_cons, List.not_mem_nil,
    FastPathFlowSpec.mk.injEq, reduceCtorEq, false_and, and_false, true_and, or_false, false_or,
    List.nil_subset, and_true] at hSubset
  simp only [fastPathFlows, List.cons.injEq, FastPathFlowSpec.mk.injEq, true_and, and_true]
  exact hSubset

end MediaSockets

namespace FastPathRuntime

variable {runtime runtime' : FastPathRuntime} {caller : FlowCaller}
  {flows : Option (List FastPathFlowSpec)} {demote : Except FastPathFailure FastPathStats}
  {promote : Except FastPathFailure Unit}

/-- These are the flows between the endpoints as they are now. -/
def upToDate (runtime : FastPathRuntime) (flows : List FastPathFlowSpec) : Bool :=
  runtime.currentFlows.any fun current => flows ⊆ current ∧ current ⊆ flows

/-- The call gets the controller to install the flows that it has. -/
def installs (runtime : FastPathRuntime) (caller : FlowCaller)
    (demote : Except FastPathFailure FastPathStats) (promote : Except FastPathFailure Unit) :
    Bool :=
  !runtime.state.stopped && !runtime.state.promotionBlocked && promote.isOk &&
    match caller with
    | .promote bridgeId =>
      runtime.state.activeGeneration.isNone && runtime.state.bridgeId.all (· = bridgeId)
    | .confirmRebind _ =>
      runtime.state.bridgeId.isSome && (runtime.state.activeGeneration.isNone || demote.isOk)

/-- What is in the map once the active rules, if there are any, have been taken out. -/
def cleared (runtime : FastPathRuntime) (demote : Except FastPathFailure FastPathStats) :
    List FastPathFlowSpec :=
  if runtime.state.activeGeneration.isSome then (runtime.removed demote).flows else runtime.flows

/-- The endpoints have changed since the call has read them, or flows that failures have left in
the map stay beside those that the call inserts. -/
def misplaces (runtime : FastPathRuntime) (endpoints : MediaEndpoints)
    (demote : Except FastPathFailure FastPathStats) : Bool :=
  match runtime.sockets.flows endpoints with
  | none => false
  | some flows =>
    runtime.currentFlows ≠ some flows ||
      (runtime.cleared demote).any fun flow => !flows.any flow.sameKey

/-- There are active rules, and the controller fails to take them out. -/
def fails (runtime : FastPathRuntime) (demote : Except FastPathFailure FastPathStats) : Bool :=
  runtime.state.activeGeneration.isSome && !demote.isOk

/-- The failure leaves something else than the flows between the endpoints. -/
def forsakes (runtime : FastPathRuntime) (demote : Except FastPathFailure FastPathStats) : Bool :=
  runtime.fails demote && !runtime.upToDate (runtime.removed demote).flows

/-- The health check gives the fast path up. -/
def fallsBack (snapshot : Except FastPathError FastPathStats) : Bool :=
  match snapshot with
  | .ok stats => fastPathRedirectErrorThreshold ≤ stats.maxRedirectErrors
  | .error _ => true

/-- An active fast path belongs to a bridge that runs. -/
structure Running (runtime : FastPathRuntime) : Prop where
  bound : runtime.Bound
  stopped : runtime.state.stopped = true → runtime.state.activeGeneration = none

/-- The fast path is active as it was, with these flows in the map. -/
structure Keeps (runtime runtime' : FastPathRuntime) (flows : List FastPathFlowSpec) : Prop where
  active : runtime'.state.activeGeneration = runtime.state.activeGeneration
  flows : runtime'.flows = flows

/-- The fast path is as it was, or inactive. -/
def Fewer (runtime runtime' : FastPathRuntime) : Prop :=
  runtime.Keeps runtime' runtime.flows ∨ runtime'.state.activeGeneration = none

theorem Fewer.refl : runtime.Fewer runtime := .inl ⟨rfl, rfl⟩

theorem not_stopped (h : runtime.Running) (hFails : runtime.fails demote = true) :
    runtime.state.stopped = false := by
  rw [← Bool.not_eq_true]
  intro hStopped
  rw [fails, h.stopped hStopped] at hFails
  cases hFails

/-- What a removal that fails belongs to. -/
theorem exists_of_fails (h : runtime.Running) (hFails : runtime.fails demote = true) :
    ∃ bridgeId generation failure, runtime.state.bridgeId = some bridgeId ∧
      runtime.state.activeGeneration = some generation ∧ demote = .error failure := by
  rw [fails, Bool.and_eq_true] at hFails
  obtain ⟨hActive, hDemote⟩ := hFails
  obtain ⟨bridgeId, hBridge⟩ := Option.isSome_iff_exists.mp (h.bound hActive)
  obtain ⟨generation, hGeneration⟩ := Option.isSome_iff_exists.mp hActive
  cases demote with
  | ok stats => cases hDemote
  | error failure => exact ⟨bridgeId, generation, failure, hBridge, hGeneration, rfl⟩

/-- What no call touches under the lock. -/
def frame (runtime : FastPathRuntime) : MediaSockets × MediaEndpoints × Bool :=
  (runtime.sockets, runtime.endpoints, runtime.state.stopped)

theorem promoteLocked_frame {flows : List FastPathFlowSpec} :
    (runtime.promoteLocked flows promote).frame = runtime.frame := by
  rw [promoteLocked]
  split
  · rfl
  · split
    · rfl
    · split
      · rfl
      · rfl

theorem promoteKnown_frame : (runtime.promoteKnown flows promote).frame = runtime.frame := by
  cases flows with
  | none => rfl
  | some flows => exact promoteLocked_frame

theorem promoteWith_frame {bridgeId : String} :
    (runtime.promoteWith bridgeId flows promote).frame = runtime.frame := by
  unfold promoteWith
  split
  · rfl
  · split
    · rfl
    · split
      · split
        · rfl
        · exact promoteLocked_frame
      · exact promoteLocked_frame

theorem confirmRebindWith_frame {slot : RemoteEndpointSlot} :
    (runtime.confirmRebindWith slot flows demote promote).frame = runtime.frame := by
  unfold confirmRebindWith
  split
  · rfl
  · split
    · rfl
    · exact promoteKnown_frame
    · simp only
      split
      · rfl
      · exact promoteKnown_frame

theorem demoteAndBlockLocked_frame {generation : Nat} :
    (runtime.demoteAndBlockLocked generation demote).frame = runtime.frame := by
  unfold demoteAndBlockLocked
  split
  · rfl
  · cases demote with
    | error failure => rfl
    | ok stats => rfl

theorem checkRedirectHealth_frame {snapshot : Except FastPathError FastPathStats} :
    (runtime.checkRedirectHealth snapshot demote).frame = runtime.frame := by
  rw [checkRedirectHealth]
  split
  · rfl
  · split
    · split
      · split
        · exact demoteAndBlockLocked_frame
        · rfl
      · exact demoteAndBlockLocked_frame
    · rfl

theorem block_frame : (runtime.blockForUserspaceCapability demote).2.frame = runtime.frame := by
  rw [blockForUserspaceCapability]
  split
  · rfl
  · simp only
    split
    · split
      · rfl
      · rfl
    · rfl

/-- The fast path is active with these flows in the map. -/
def Installed (runtime : FastPathRuntime) (flows : List FastPathFlowSpec) : Prop :=
  runtime.state.activeGeneration.isSome ∧ runtime.flows = flows

theorem promoteLocked_installed {flows : List FastPathFlowSpec}
    (hBlocked : runtime.state.promotionBlocked = false) (hBridge : runtime.state.bridgeId.isSome)
    (hPromote : promote.isOk = true) :
    (runtime.promoteLocked flows promote).Installed (insertFlows runtime.flows flows) := by
  obtain ⟨bridgeId, hBridge⟩ := Option.isSome_iff_exists.mp hBridge
  cases promote with
  | error failure => cases hPromote
  | ok u =>
      rw [promoteLocked, hBlocked, if_neg Bool.false_ne_true, hBridge]
      exact ⟨rfl, rfl⟩

/-- A promotion that is refused activates nothing. -/
theorem promoteLocked_refused {flows : List FastPathFlowSpec}
    (h : runtime.state.promotionBlocked = true ∨ promote.isOk = false) :
    (runtime.promoteLocked flows promote).state.activeGeneration =
      runtime.state.activeGeneration := by
  rw [promoteLocked]
  split
  · rfl
  · next hBlocked =>
      rcases h with hBlock | hPromote
      · exact (hBlocked hBlock).elim
      · split
        · rfl
        · cases promote with
          | error failure => rfl
          | ok u => cases hPromote

theorem promoteKnown_refused
    (h : flows = none ∨ runtime.state.promotionBlocked = true ∨ promote.isOk = false) :
    (runtime.promoteKnown flows promote).state.activeGeneration =
      runtime.state.activeGeneration := by
  cases flows with
  | none => rfl
  | some flows =>
      rcases h with hNone | hRefused
      · cases hNone
      · exact promoteLocked_refused hRefused

theorem demoteAndBlockLocked_ok {generation : Nat} {stats : FastPathStats} :
    runtime.Fewer (runtime.demoteAndBlockLocked generation (.ok stats)) := by
  unfold demoteAndBlockLocked
  split
  · exact .refl
  · exact .inr rfl

theorem demoteAndBlockLocked_failed {generation : Nat} {failure : FastPathFailure}
    (h : runtime.state.activeGeneration = some generation) :
    runtime.Keeps (runtime.demoteAndBlockLocked generation (.error failure))
      (runtime.removed (.error failure)).flows := by
  rw [demoteAndBlockLocked, if_neg (not_not.mpr h)]
  exact ⟨rfl, rfl⟩

theorem checkRedirectHealth_fewer {snapshot : Except FastPathError FastPathStats}
    (h : (fallsBack snapshot && runtime.fails demote) = false) :
    runtime.Fewer (runtime.checkRedirectHealth snapshot demote) := by
  rw [checkRedirectHealth]
  split
  · exact .refl
  · split
    · next bridgeId generation hBridge hActive =>
        cases demote with
        | error failure =>
            rw [fails, hActive] at h
            cases snapshot with
            | ok stats =>
                simp only
                rw [if_neg (of_decide_eq_false ((Bool.and_true _).symm.trans h))]
                exact .refl
            | error error => cases h
        | ok stats =>
            split
            · split
              · exact demoteAndBlockLocked_ok
              · exact .refl
            · exact demoteAndBlockLocked_ok
    · exact .refl

theorem checkRedirectHealth_failed {snapshot : Except FastPathError FastPathStats}
    (hRunning : runtime.Running) (hFallsBack : fallsBack snapshot = true)
    (hFails : runtime.fails demote = true) :
    runtime.Keeps (runtime.checkRedirectHealth snapshot demote)
      (runtime.removed demote).flows := by
  obtain ⟨bridgeId, generation, failure, hBridge, hActive, rfl⟩ := exists_of_fails hRunning hFails
  rw [checkRedirectHealth, hBridge, hActive, not_stopped hRunning hFails, if_neg (by simp)]
  cases snapshot with
  | ok stats =>
      simp only
      rw [if_pos (of_decide_eq_true hFallsBack)]
      exact demoteAndBlockLocked_failed hActive
  | error error => exact demoteAndBlockLocked_failed hActive

theorem block_fewer (h : runtime.fails demote = false) :
    runtime.Fewer (runtime.blockForUserspaceCapability demote).2 := by
  rw [blockForUserspaceCapability]
  split
  · exact .refl
  · simp only
    split
    · next hActive =>
        cases demote with
        | error failure =>
            simp only [blockPromotion] at hActive
            rw [fails, hActive] at h
            cases h
        | ok stats => exact .inr rfl
    · exact .inl ⟨rfl, rfl⟩

theorem block_failed (hRunning : runtime.Running) (hFails : runtime.fails demote = true) :
    runtime.Keeps (runtime.blockForUserspaceCapability demote).2
      (runtime.removed demote).flows := by
  obtain ⟨bridgeId, generation, failure, hBridge, hActive, rfl⟩ := exists_of_fails hRunning hFails
  rw [blockForUserspaceCapability, not_stopped hRunning hFails, if_neg Bool.false_ne_true]
  simp only [blockPromotion, hBridge, hActive]
  exact ⟨hActive.symm, rfl⟩

theorem currentFlows_of_frame (h : runtime'.frame = runtime.frame) :
    runtime'.currentFlows = runtime.currentFlows := by
  obtain ⟨hSockets, hRest⟩ := Prod.ext_iff.mp h
  obtain ⟨hEndpoints, -⟩ := Prod.ext_iff.mp hRest
  rw [currentFlows, currentFlows]
  exact congr (congrArg MediaSockets.flows hSockets) hEndpoints

theorem upToDate_congr {flows : List FastPathFlowSpec} (hFrame : runtime'.frame = runtime.frame) :
    runtime'.upToDate flows = runtime.upToDate flows := by
  rw [upToDate, upToDate, currentFlows_of_frame hFrame]

/-- What a call inserts, with what stays in the map, is up to date unless the call misplaces it. -/
theorem upToDate_insertFlows {endpoints : MediaEndpoints} {flows : List FastPathFlowSpec}
    (hFlows : runtime.sockets.flows endpoints = some flows) :
    runtime.upToDate (insertFlows (runtime.cleared demote) flows) =
      !runtime.misplaces endpoints demote := by
  rw [misplaces, hFlows, Bool.eq_iff_iff]
  simp only [upToDate, Option.any_eq_true, decide_eq_true_eq, Bool.not_eq_true',
    Bool.or_eq_false_iff, decide_eq_false_iff_not, not_not, List.any_eq_false]
  constructor
  · rintro ⟨current, hCurrent, hInserted, -⟩
    rw [insertFlows, List.append_subset] at hInserted
    obtain rfl := MediaSockets.flows_eq_of_subset hFlows hCurrent hInserted.1
    refine ⟨hCurrent, fun flow hFlow hOther => ?_⟩
    have hKept : (!flows.any flow.sameKey) = true := by
      rw [Bool.not_eq_true', List.any_eq_false]
      exact hOther
    exact hOther flow (hInserted.2 (List.mem_filter.mpr ⟨hFlow, hKept⟩)) (decide_eq_true ⟨rfl, rfl⟩)
  · rintro ⟨hCurrent, hNone⟩
    have hFilter : (runtime.cleared demote).filter (fun flow => !flows.any flow.sameKey) = [] := by
      rw [List.filter_eq_nil_iff]
      intro flow hFlow
      rw [Bool.not_eq_true', List.any_eq_false]
      exact hNone flow hFlow
    refine ⟨flows, hCurrent, ?_⟩
    rw [insertFlows, hFilter, List.append_nil]
    exact ⟨List.Subset.refl _, List.Subset.refl _⟩

end FastPathRuntime

namespace FastPath

open FastPathRuntime

variable {s t : FastPath} {step : FastPathStep} {caller : FlowCaller} {endpoints : MediaEndpoints}
  {flows : List FastPathFlowSpec} {demote : Except FastPathFailure FastPathStats}
  {promote : Except FastPathFailure Unit}

theorem locked_installed (hInstalls : s.runtime.installs caller demote promote = true)
    (hFlows : s.runtime.sockets.flows endpoints = some flows) :
    (s.locked caller endpoints demote promote).Installed
      (insertFlows (s.runtime.cleared demote) flows) := by
  unfold installs at hInstalls
  rw [Bool.and_eq_true, Bool.and_eq_true, Bool.and_eq_true, Bool.not_eq_true',
    Bool.not_eq_true'] at hInstalls
  obtain ⟨⟨⟨hStopped, hBlocked⟩, hPromote⟩, hCaller⟩ := hInstalls
  cases caller with
  | promote bridgeId =>
      rw [Bool.and_eq_true, Option.isNone_iff_eq_none] at hCaller
      obtain ⟨hInactive, hBridge⟩ := hCaller
      rw [locked, hFlows, cleared, hInactive, if_neg (by decide)]
      simp only [promoteWith]
      rw [hStopped, hBlocked, hInactive, if_neg (by decide)]
      cases hCurrent : s.runtime.state.bridgeId with
      | none => exact promoteLocked_installed rfl rfl hPromote
      | some current =>
          rw [hCurrent, Option.all_some, decide_eq_true_eq] at hBridge
          simp only [hBridge, ne_eq, not_true_eq_false, if_false]
          exact promoteLocked_installed hBlocked (by rw [hCurrent]; rfl) hPromote
  | confirmRebind slot =>
      rw [Bool.and_eq_true] at hCaller
      obtain ⟨hBridge, hDemote⟩ := hCaller
      obtain ⟨bridgeId, hCurrent⟩ := Option.isSome_iff_exists.mp hBridge
      rw [locked, hFlows, cleared]
      simp only [confirmRebindWith, promoteKnown]
      rw [hStopped, if_neg Bool.false_ne_true, hCurrent]
      cases hActive : s.runtime.state.activeGeneration with
      | none => exact promoteLocked_installed hBlocked hBridge hPromote
      | some generation =>
          cases demote with
          | error failure =>
              rw [hActive] at hDemote
              cases hDemote
          | ok stats => exact promoteLocked_installed hBlocked hBridge hPromote

/-- A rebind that cannot get the active rules taken out stays active with what is left. -/
theorem locked_failed (hRunning : s.runtime.Running) (hRebind : caller.isRebind = true)
    (hFails : s.runtime.fails demote = true) :
    s.runtime.Keeps (s.locked caller endpoints demote promote)
      (s.runtime.removed demote).flows := by
  obtain ⟨bridgeId, generation, failure, hBridge, hActive, rfl⟩ := exists_of_fails hRunning hFails
  cases caller with
  | promote bridgeId => cases hRebind
  | confirmRebind slot =>
      rw [locked]
      simp only [confirmRebindWith]
      rw [not_stopped hRunning hFails, if_neg Bool.false_ne_true, hBridge, hActive]
      exact ⟨rfl, rfl⟩

/-- A promotion of an active fast path changes nothing. -/
theorem locked_active {bridgeId : String} (h : s.runtime.state.activeGeneration.isSome) :
    s.locked (.promote bridgeId) endpoints demote promote = s.runtime := by
  simp only [locked, promoteWith]
  split
  · rfl
  · exact if_pos (.inr (.inr h))

/-- A promotion that installs nothing does not activate the fast path. -/
theorem promote_inactive {bridgeId : String} (hInactive : s.runtime.state.activeGeneration = none)
    (hInstalls : s.runtime.installs (.promote bridgeId) demote promote = true →
      s.runtime.sockets.flows endpoints = none) :
    (s.locked (.promote bridgeId) endpoints demote promote).state.activeGeneration = none := by
  simp only [locked, promoteWith]
  split
  · exact hInactive
  · next flows hFlows =>
      split
      · exact hInactive
      · next hFree =>
          have hNot : s.runtime.installs (.promote bridgeId) demote promote = false := by
            rw [← Bool.not_eq_true]
            intro hYes
            rw [hInstalls hYes] at hFlows
            cases hFlows
          simp only [not_or, Bool.not_eq_true, Option.isSome_eq_false_iff] at hFree
          simp only [installs, hFree, Bool.not_false, Bool.true_and, Bool.and_eq_false_iff]
            at hNot
          split
          · next current hCurrent =>
              split
              · exact hInactive
              · next hSame =>
                  rw [hCurrent, Option.all_some, decide_eq_false_iff_not] at hNot
                  have hRefused := hNot.resolve_right hSame
                  exact (promoteLocked_refused (.inr hRefused)).trans hInactive
          · next hCurrent =>
              rw [hCurrent, Option.all_none] at hNot
              have hRefused := hNot.resolve_right Bool.true_eq_false.mp
              exact (promoteLocked_refused (.inr hRefused)).trans hInactive

/-- A rebind that installs nothing leaves the fast path inactive, unless it fails to take the
active rules out. -/
theorem rebind_inactive {slot : RemoteEndpointSlot} (hRunning : s.runtime.Running)
    (hInstalls : s.runtime.installs (.confirmRebind slot) demote promote = true →
      s.runtime.sockets.flows endpoints = none)
    (hFails : s.runtime.fails demote = false) :
    (s.locked (.confirmRebind slot) endpoints demote promote).state.activeGeneration = none := by
  simp only [locked, confirmRebindWith]
  split
  · next hStopped => exact hRunning.stopped hStopped
  · next hFree =>
      rw [Bool.not_eq_true] at hFree
      have hWhy (hReady : s.runtime.state.bridgeId.isSome)
          (hDemote : s.runtime.state.activeGeneration.isNone || demote.isOk) :
          s.runtime.sockets.flows endpoints = none ∨
            s.runtime.state.promotionBlocked = true ∨ promote.isOk = false := by
        simp only [installs, hFree, hReady, hDemote, Bool.not_false, Bool.true_and,
          Bool.and_true, Bool.and_eq_true, Bool.not_eq_true'] at hInstalls
        cases hBlocked : s.runtime.state.promotionBlocked with
        | true => exact .inr (.inl rfl)
        | false =>
            cases hPromote : promote.isOk with
            | true => exact .inl (hInstalls ⟨hBlocked, hPromote⟩)
            | false => exact .inr (.inr rfl)
      split
      · next hBridge =>
          rw [← Option.not_isSome_iff_eq_none]
          intro hActive
          have hBound := hRunning.bound hActive
          rw [hBridge] at hBound
          cases hBound
      · next bridgeId hBridge hActive =>
          exact (promoteKnown_refused (hWhy (by rw [hBridge]; rfl) (by rw [hActive]; rfl))).trans
            hActive
      · next bridgeId generation hBridge hActive =>
          split
          · rw [fails, hActive] at hFails
            cases hFails
          · next stats =>
              exact promoteKnown_refused (hWhy (by rw [hBridge]; rfl) (Bool.or_true _))

/-- Under the lock nothing is done for a stopped bridge. -/
theorem locked_stopped (h : s.runtime.state.stopped = true) :
    s.locked caller endpoints demote promote = s.runtime := by
  cases caller with
  | promote bridgeId =>
      simp only [locked, promoteWith]
      split
      · rfl
      · exact if_pos (.inl h)
  | confirmRebind slot =>
      simp only [locked, confirmRebindWith]
      exact if_pos h

theorem locked_frame : (s.locked caller endpoints demote promote).frame = s.runtime.frame := by
  cases caller with
  | promote bridgeId => exact promoteWith_frame
  | confirmRebind slot => exact confirmRebindWith_frame

/-- A rebind is between the write of its endpoint and its lock. -/
def rebinding (s : FastPath) : Bool := s.calls.any FlowCall.isRebind

/-- While no other rebind is in progress, a call misplaces the flows that it installs, or a
removal of the active rules fails and leaves something else than the flows between the
endpoints. -/
def misses (s : FastPath) : FastPathStep → Bool
  | .finish i demote promote =>
    match s.calls[i]? with
    | some ⟨caller, .all endpoints⟩ =>
      !(s.calls.eraseIdx i).any FlowCall.isRebind &&
        (s.runtime.installs caller demote promote && s.runtime.misplaces endpoints demote ||
          caller.isRebind && s.runtime.forsakes demote)
    | _ => false
  | .checkRedirectHealth snapshot demote =>
    !s.rebinding && fallsBack snapshot && s.runtime.forsakes demote
  | .block demote => !s.rebinding && s.runtime.forsakes demote
  | _ => false

/-- When no call is in progress, the flows of an active fast path are those between the
endpoints as they are. -/
def Matches (s : FastPath) : Prop :=
  s.calls = [] → s.runtime.state.activeGeneration.isSome →
    ∃ flows, s.runtime.currentFlows = some flows ∧
      ∀ flow, flow ∈ s.runtime.flows ↔ flow ∈ flows

/-- Flows that are out of date are about to be replaced. -/
structure Current (s : FastPath) : Prop where
  running : s.runtime.Running
  current : s.runtime.state.activeGeneration.isSome →
    s.runtime.upToDate s.runtime.flows = true ∨ s.rebinding = true

theorem matches_iff :
    s.Matches ↔ (s.calls = [] → s.runtime.state.activeGeneration.isSome →
      s.runtime.upToDate s.runtime.flows = true) := by
  rw [Matches, upToDate]
  apply imp_congr_right
  intro _
  apply imp_congr_right
  intro _
  rw [Option.any_eq_true]
  apply exists_congr
  intro flows
  rw [decide_eq_true_eq]
  constructor
  · rintro ⟨hCurrent, hSame⟩
    exact ⟨hCurrent, fun _ => (hSame _).mp, fun _ => (hSame _).mpr⟩
  · rintro ⟨hCurrent, hSubset, hSuperset⟩
    exact ⟨hCurrent, fun _ => ⟨fun hFlow => hSubset hFlow, fun hFlow => hSuperset hFlow⟩⟩

theorem Current.matches (h : s.Current) : s.Matches := by
  rw [matches_iff]
  intro hCalls hActive
  rcases h.current hActive with hDate | hPending
  · exact hDate
  · rw [rebinding, hCalls] at hPending
    cases hPending

/-- A step that leaves an active fast path with flows that are up to date, or about to be
replaced. -/
theorem Current.keeps {runtime : FastPathRuntime} (h : s.Current) (hBound : runtime.Bound)
    (hFrame : runtime.frame = s.runtime.frame)
    (hKeeps : s.runtime.Keeps runtime flows ∨ runtime.state.activeGeneration = none)
    (hFlows : s.runtime.state.activeGeneration.isSome →
      s.runtime.upToDate flows = true ∨ s.rebinding = true) :
    Current { s with runtime } where
  running :=
    { bound := hBound
      stopped := by
        intro hStopped
        obtain ⟨-, hRest⟩ := Prod.ext_iff.mp hFrame
        obtain ⟨-, hSame⟩ := Prod.ext_iff.mp hRest
        rcases hKeeps with hKept | hNone
        · exact hKept.active.trans (h.running.stopped (hSame.symm.trans hStopped))
        · exact hNone }
  current := by
    intro hActive
    rcases hKeeps with hKept | hNone
    · simp only [hKept.flows, upToDate_congr hFrame]
      apply hFlows
      rw [← hKept.active]
      exact hActive
    · rw [hNone] at hActive
      cases hActive

/-- The flows that a failed removal leaves, where no step misses. -/
theorem forsakes_eq_false {pending : Bool} (hFails : s.runtime.fails demote = true)
    (h : (!pending && s.runtime.forsakes demote) = false) :
    s.runtime.upToDate (s.runtime.removed demote).flows = true ∨ pending = true := by
  rw [forsakes, hFails, Bool.true_and, Bool.and_eq_false_iff, Bool.not_eq_false',
    Bool.not_eq_false'] at h
  exact h.symm

theorem any_read {calls : List FlowCall} {i : Nat} {call : FlowCall} (h : calls[i]? = some call)
    (reads : FlowReads) :
    (calls.set i { call with reads }).any FlowCall.isRebind = calls.any FlowCall.isRebind := by
  induction calls generalizing i with
  | nil => rfl
  | cons first rest ih =>
      cases i with
      | zero =>
          obtain rfl := Option.some.inj h
          rfl
      | succ i =>
          rw [List.set_cons_succ, List.any_cons, List.any_cons, ih h]

theorem any_eraseIdx {calls : List FlowCall} {i : Nat} {call : FlowCall}
    (h : calls[i]? = some call) :
    calls.any FlowCall.isRebind = (call.isRebind || (calls.eraseIdx i).any FlowCall.isRebind) := by
  induction calls generalizing i with
  | nil => cases h
  | cons first rest ih =>
      cases i with
      | zero =>
          obtain rfl := Option.some.inj h
          rfl
      | succ i =>
          rw [List.eraseIdx_cons_succ, List.any_cons, List.any_cons, ih h, Bool.or_left_comm]

/-- What a call installs is up to date unless the call misplaces it. -/
theorem installed_upToDate (hInstalls : s.runtime.installs caller demote promote = true)
    (hFlows : s.runtime.sockets.flows endpoints = some flows) :
    let runtime := s.locked caller endpoints demote promote
    runtime.upToDate runtime.flows = !s.runtime.misplaces endpoints demote := by
  simp only [(locked_installed hInstalls hFlows).2, upToDate_congr locked_frame]
  exact upToDate_insertFlows hFlows

/-- Where the last rebind ends, or a promotion ends while none is in progress, the flows of an
active fast path are up to date. -/
theorem Current.locked (h : s.Current)
    (hOld : caller.isRebind = false → s.runtime.state.activeGeneration.isSome →
      s.runtime.upToDate s.runtime.flows = true)
    (hInstalls : (s.runtime.installs caller demote promote &&
      s.runtime.misplaces endpoints demote) = false)
    (hForsakes : (caller.isRebind && s.runtime.forsakes demote) = false)
    (hActive : (s.locked caller endpoints demote promote).state.activeGeneration.isSome) :
    let runtime := s.locked caller endpoints demote promote
    runtime.upToDate runtime.flows = true := by
  by_cases hNone : s.runtime.installs caller demote promote = true →
      s.runtime.sockets.flows endpoints = none
  · cases caller with
    | promote bridgeId =>
        cases hBefore : s.runtime.state.activeGeneration with
        | none =>
            rw [promote_inactive hBefore hNone] at hActive
            cases hActive
        | some generation =>
            have hSome : s.runtime.state.activeGeneration.isSome := by rw [hBefore]; rfl
            simp only [locked_active hSome]
            exact hOld rfl hSome
    | confirmRebind slot =>
        cases hFails : s.runtime.fails demote with
        | true =>
            have hKept := @locked_failed s (.confirmRebind slot) endpoints demote promote
              h.running rfl hFails
            simp only [hKept.flows, upToDate_congr locked_frame]
            exact (@forsakes_eq_false s demote false hFails hForsakes).resolve_right
              Bool.false_ne_true
        | false =>
            rw [rebind_inactive h.running hNone hFails] at hActive
            cases hActive
  · push Not at hNone
    obtain ⟨hReady, hKnown⟩ := hNone
    obtain ⟨flows, hFlows⟩ := Option.ne_none_iff_exists'.mp hKnown
    rw [hReady, Bool.true_and] at hInstalls
    have hDate := installed_upToDate hReady hFlows
    rw [hInstalls] at hDate
    exact hDate

theorem Current.finish {i : Nat} (h : s.Current)
    (hCall : s.calls[i]? = some ⟨caller, .all endpoints⟩)
    (hMisses : s.misses (.finish i demote promote) = false)
    (hBound : (s.locked caller endpoints demote promote).Bound) :
    Current
      { s with
        runtime := s.locked caller endpoints demote promote
        calls := s.calls.eraseIdx i } where
  running :=
    { bound := hBound
      stopped := by
        intro hStopped
        obtain ⟨-, hRest⟩ := Prod.ext_iff.mp (@locked_frame s caller endpoints demote promote)
        obtain ⟨-, hSame⟩ := Prod.ext_iff.mp hRest
        have hBefore : s.runtime.state.stopped = true := hSame.symm.trans hStopped
        simp only [locked_stopped hBefore]
        exact h.running.stopped hBefore }
  current := by
    intro hActive
    rw [rebinding]
    cases hPending : (s.calls.eraseIdx i).any FlowCall.isRebind with
    | true => exact .inr rfl
    | false =>
        left
        simp only [misses, hCall, hPending, Bool.not_false, Bool.true_and,
          Bool.or_eq_false_iff] at hMisses
        refine h.locked (fun hPromote hBefore => ?_) hMisses.1 hMisses.2 hActive
        have hRebinding := any_eraseIdx hCall
        rw [hPending, Bool.or_false, FlowCall.isRebind, hPromote] at hRebinding
        have hSettled : s.rebinding = false := hRebinding
        rw [← Bool.not_eq_true] at hSettled
        exact (h.current hBefore).resolve_right hSettled

/-- A step that misses no address leaves the flows up to date, or a rebind about to replace them. -/
theorem Current.next (h : s.Current) (hMisses : s.misses step = false)
    (hStep : s.step step = some t) : t.Current := by
  have hBound := bound_step hStep h.running.bound
  cases step with
  | promote bridgeId =>
      obtain rfl := Option.some.inj hStep
      split
      · refine ⟨h.running, fun hActive => ?_⟩
        rw [rebinding, List.any_append, Bool.or_eq_true]
        rcases h.current hActive with hDate | hPending
        · exact .inl hDate
        · exact .inr (.inl hPending)
      · exact h
  | confirmRebind slot source =>
      obtain rfl := Option.some.inj hStep
      split
      · exact h
      · refine ⟨⟨h.running.bound, h.running.stopped⟩, fun _ => .inr ?_⟩
        rw [rebinding, List.any_append, Bool.or_eq_true]
        exact .inr rfl
  | read i =>
      obtain ⟨call, hCall, rfl⟩ := Option.map_eq_some_iff.mp hStep
      refine ⟨h.running, fun hActive => ?_⟩
      rw [rebinding, any_read hCall]
      exact h.current hActive
  | finish i demote promote =>
      rw [FastPath.step] at hStep
      split at hStep
      · next caller endpoints hCall =>
          obtain rfl := Option.some.inj hStep
          exact h.finish hCall hMisses hBound
      · cases hStep
  | checkRedirectHealth snapshot demote =>
      obtain rfl := Option.some.inj hStep
      rw [misses, Bool.and_right_comm] at hMisses
      cases hFails : fallsBack snapshot && s.runtime.fails demote with
      | true =>
          rw [Bool.and_eq_true] at hFails
          rw [hFails.1, Bool.and_true] at hMisses
          exact h.keeps hBound checkRedirectHealth_frame
            (.inl (checkRedirectHealth_failed h.running hFails.1 hFails.2))
            fun _ => forsakes_eq_false hFails.2 hMisses
      | false =>
          exact h.keeps hBound checkRedirectHealth_frame (checkRedirectHealth_fewer hFails)
            h.current
  | block demote =>
      obtain rfl := Option.some.inj hStep
      cases hFails : s.runtime.fails demote with
      | true =>
          exact h.keeps hBound block_frame (.inl (block_failed h.running hFails))
            fun _ => forsakes_eq_false hFails hMisses
      | false => exact h.keeps hBound block_frame (block_fewer hFails) h.current
  | stop remove =>
      obtain rfl := Option.some.inj hStep
      have hInactive : (s.runtime.stop remove).state.activeGeneration = none := stop_inactive
      refine ⟨⟨hBound, fun _ => hInactive⟩, fun hActive => ?_⟩
      rw [hInactive] at hActive
      cases hActive

theorem Current.of_init (h : fastPath.init s) : s.Current := by
  obtain ⟨sockets, available, endpoints, rfl⟩ := h
  exact ⟨⟨.of_inactive rfl, fun _ => rfl⟩, fun hActive => (Bool.false_ne_true hActive).elim⟩

/-- The flows of an active fast path are out of date and nothing is about to replace them. -/
structure Stale (s : FastPath) : Prop where
  active : s.runtime.state.activeGeneration.isSome
  outdated : s.runtime.upToDate s.runtime.flows = false
  settled : s.rebinding = false

theorem Stale.not_matches (h : s.Stale) (hCalls : s.calls = []) : ¬ s.Matches := by
  rw [matches_iff]
  intro hMatches
  have hDate := h.outdated
  rw [hMatches hCalls h.active] at hDate
  cases hDate

/-- A removal that fails and leaves other flows. -/
theorem stale_of_forsakes {runtime : FastPathRuntime} {calls : List FlowCall}
    (hFails : s.runtime.forsakes demote = true) (hFrame : runtime.frame = s.runtime.frame)
    (hKept : s.runtime.fails demote = true →
      s.runtime.Keeps runtime (s.runtime.removed demote).flows)
    (hSettled : calls.any FlowCall.isRebind = false) : Stale ⟨runtime, calls⟩ := by
  rw [forsakes, Bool.and_eq_true, Bool.not_eq_true'] at hFails
  obtain ⟨hFails, hDate⟩ := hFails
  specialize hKept hFails
  refine ⟨?_, ?_, hSettled⟩
  · simp only [hKept.active]
    rw [fails, Bool.and_eq_true] at hFails
    exact hFails.1
  · simp only [hKept.flows, upToDate_congr hFrame]
    exact hDate

/-- A step that misses leaves flows that are out of date. -/
theorem stale_of_misses (hRunning : s.runtime.Running) (hMisses : s.misses step = true)
    (hStep : s.step step = some t) : t.Stale := by
  cases step with
  | finish i demote promote =>
      rw [FastPath.step] at hStep
      split at hStep
      · next caller endpoints hCall =>
          obtain rfl := Option.some.inj hStep
          simp only [misses, hCall, Bool.and_eq_true, Bool.or_eq_true, Bool.not_eq_true'] at hMisses
          obtain ⟨hPending, ⟨hInstalls, hMisplaces⟩ | ⟨hRebind, hForsakes⟩⟩ := hMisses
          · cases hFlows : s.runtime.sockets.flows endpoints with
            | none =>
                rw [misplaces, hFlows] at hMisplaces
                cases hMisplaces
            | some flows =>
                refine ⟨(locked_installed hInstalls hFlows).1, ?_, hPending⟩
                simp only [installed_upToDate hInstalls hFlows, hMisplaces]
                rfl
          · exact stale_of_forsakes hForsakes locked_frame (locked_failed hRunning hRebind) hPending
      · cases hStep
  | checkRedirectHealth snapshot demote =>
      obtain rfl := Option.some.inj hStep
      rw [misses, Bool.and_eq_true, Bool.and_eq_true, Bool.not_eq_true'] at hMisses
      obtain ⟨⟨hSettled, hFallsBack⟩, hForsakes⟩ := hMisses
      exact stale_of_forsakes hForsakes checkRedirectHealth_frame
        (checkRedirectHealth_failed hRunning hFallsBack) hSettled
  | block demote =>
      obtain rfl := Option.some.inj hStep
      rw [misses, Bool.and_eq_true, Bool.not_eq_true'] at hMisses
      exact stale_of_forsakes hMisses.2 block_frame (block_failed hRunning) hMisses.1
  | promote bridgeId => cases hMisses
  | confirmRebind slot source => cases hMisses
  | read i => cases hMisses
  | stop remove => cases hMisses

/-- The first call goes on reading. -/
theorem runs_reads {reads : FlowReads} {rest : List FlowCall}
    (h : s.calls = ⟨caller, reads⟩ :: rest)
    (n : Nat) :
    Runs fastPath s
      { s with calls := ⟨caller, (FlowReads.read s.runtime.endpoints)^[n] reads⟩ :: rest } := by
  induction n with
  | zero =>
      rw [Function.iterate_zero, id, ← h]
      exact .refl
  | succ n ih =>
      rw [Function.iterate_succ_apply']
      exact ih.step trivial (i := .read 0) rfl

theorem read_all (endpoints : MediaEndpoints) (reads : FlowReads) :
    ∃ values, (FlowReads.read endpoints)^[5] reads = .all values := by
  cases reads <;> exact ⟨_, rfl⟩

/-- The promotions in progress can end, and change nothing. -/
theorem Stale.drains {calls : List FlowCall} (h : s.Stale) (hCalls : s.calls = calls) :
    ∃ t, Runs fastPath s t ∧ t.Stale ∧ t.calls = [] := by
  induction calls generalizing s with
  | nil => exact ⟨s, .refl, h, hCalls⟩
  | cons call rest ih =>
      have hSettled := h.settled
      rw [rebinding, hCalls, List.any_cons, Bool.or_eq_false_iff] at hSettled
      obtain ⟨caller, reads⟩ := call
      cases caller with
      | confirmRebind slot => cases hSettled.1
      | promote bridgeId =>
          obtain ⟨values, hValues⟩ := read_all s.runtime.endpoints reads
          have hReads := runs_reads hCalls 5
          rw [hValues] at hReads
          have hFinish : fastPath.next
              { s with calls := ⟨.promote bridgeId, .all values⟩ :: rest }
              (.finish 0 (.ok {}) (.ok ())) { s with calls := rest } :=
            congrArg (fun runtime => some (FastPath.mk runtime rest)) (locked_active h.active)
          obtain ⟨t, run, hStale, hEnd⟩ := ih (s := { s with calls := rest })
            ⟨h.active, h.outdated, hSettled.2⟩ rfl
          exact ⟨t, (hReads.step trivial hFinish).trans run, hStale, hEnd⟩

end FastPath

/-- While no step misses, the flows of an active fast path match the endpoints whenever no call
is in progress. A step that misses leaves a state from which the calls in progress can end with
flows that do not match. -/
theorem installed_flows_match {s : FastPath}
    (h : ReachableWithin fastPath (fun s step => s.misses step = false) s) :
    s.Matches ∧
      ∀ step t, s.step step = some t → s.misses step = true →
        ∃ u, Runs fastPath t u ∧ u.calls = [] ∧ ¬ u.Matches := by
  have hCurrent : s.Current :=
    h.invariant (fun _ => .of_init) fun _ _ _ hInvariant hMisses hNext =>
      hInvariant.next hMisses hNext
  refine ⟨hCurrent.matches, fun step t hStep hMisses => ?_⟩
  have hStale := FastPath.stale_of_misses hCurrent.running hMisses hStep
  obtain ⟨u, run, hLater, hCalls⟩ := hStale.drains rfl
  exact ⟨u, run, hCalls, hLater.not_matches hCalls⟩

section Sample

/-- A bridge whose endpoints are all known. -/
def learnedPath : FastPath := sampleBridge.fastPath

def movedCaller : SocketAddr := .v4 ⟨⟨10, 0, 0, 9⟩, 5000⟩

def readsAll (call : Nat) : List FastPathStep := List.replicate 5 (.read call)

/-- The fast path is promoted, and then the caller's endpoint moves. -/
def promotedThenRebinds : List FastPathStep :=
  .promote "b" :: readsAll 0 ++ .finish 0 (.ok {}) (.ok ()) ::
    .confirmRebind .callerRtp movedCaller :: readsAll 0 ++ [.finish 0 (.ok {}) (.ok ())]

/-- A promotion has read the endpoints when the caller's moves. -/
def readsThenRebinds : List FastPathStep :=
  .promote "b" :: readsAll 0 ++ .confirmRebind .callerRtp movedCaller :: readsAll 1 ++
    [.finish 1 (.ok {}) (.ok ()), .finish 0 (.ok {}) (.ok ())]

/-- A step that does not miss. -/
def FastPath.hits (s : FastPath) (step : FastPathStep) : Option FastPath :=
  if s.misses step then none else s.step step

def reboundPath : FastPath :=
  (promotedThenRebinds.foldlM FastPath.hits learnedPath).getD learnedPath

def stalePath : FastPath := (readsThenRebinds.foldlM FastPath.step learnedPath).getD learnedPath

theorem learnedPath_init : fastPath.init learnedPath := ⟨_, _, _, rfl⟩

theorem FastPath.runsWithin_hits {s t : FastPath} {schedule : List FastPathStep}
    (h : schedule.foldlM FastPath.hits s = some t) :
    RunsWithin fastPath (fun s step => s.misses step = false) s t := by
  refine runsWithin_of_foldlM (fun s step t hStep => ?_) h
  rw [FastPath.hits] at hStep
  split at hStep
  · cases hStep
  · next hMisses => exact ⟨Bool.eq_false_iff.mpr hMisses, hStep⟩

/-- The caller moves after a promotion, and the flows follow. -/
theorem installed_flows_match_rebound :
    reboundPath.runtime.state.activeGeneration = some 2 ∧
      ∃ flows, reboundPath.runtime.currentFlows = some flows ∧
        ∀ flow, flow ∈ reboundPath.runtime.flows ↔ flow ∈ flows :=
  have hRun : promotedThenRebinds.foldlM FastPath.hits learnedPath = some reboundPath := by
    decide
  ⟨by decide,
   (installed_flows_match ⟨learnedPath, learnedPath_init, FastPath.runsWithin_hits hRun⟩).1
    (by decide) (by decide)⟩

/-- The promotion installs flows to the endpoint that the caller has left. -/
theorem installed_flows_stale : Reachable fastPath stalePath ∧ ¬ stalePath.Matches := by
  constructor
  · have hRun : readsThenRebinds.foldlM FastPath.step learnedPath = some stalePath := by
      decide
    exact ⟨learnedPath, learnedPath_init,
      runsWithin_of_foldlM (fun _ _ _ hStep => ⟨trivial, hStep⟩) hRun⟩
  · exact FastPath.Stale.not_matches ⟨by decide, by decide, by decide⟩
      (by decide)

end Sample

end VoipSwitch.Media
