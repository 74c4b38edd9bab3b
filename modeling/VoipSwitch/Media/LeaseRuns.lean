import VoipSwitch.Media.Leases

/-! Runs of the leases. Between operations the mode of each direction is the strongest that an
active lease asks for; leases are kept after their release, so that what has been answered once
is answered again in the same way. -/
namespace VoipSwitch.Media

open Keyed Transition

/-- The step takes part in an operation on the leases. -/
def MediaStep.onLeases : MediaStep → Bool
  | .acquire _ _ | .release _ | .proceed | .timeOut => true
  | _ => false

namespace CallMedia

/-- Operations on the leases wait for each other; everything else may come in between. -/
def mayTake (s : CallMedia) : MediaStep → Bool
  | .acquire _ _ | .release _ => s.operation.isNone
  | .proceed | .timeOut => s.operation.isSome
  | _ => true

end CallMedia

/-- The leases of a bridge, with preparations and relays at any time. -/
def leasing : System CallMedia MediaStep where
  init s := ∃ offered, s = { bridge := .new offered }
  next s step t := s.mayTake step = true ∧ t = s.step step

/-- The step leaves the requester's session where it is, and the bridge running. -/
def MediaStep.keepsBindings : MediaStep → Bool
  | .bind _ | .bindCallee _ | .stop => false
  | _ => true

namespace CallMedia

open MediaBridge

variable {s : CallMedia} {bridge bridge' : MediaBridge} {direction : DtmfRelayDirection}
variable {leaseId : MediaCapabilityLeaseId} {lease : DtmfCapabilityLease}
variable {request : DtmfCapabilityLeaseRequest} {generation : Nat}
variable {block : Except (String × String) Unit}

/-- What holds between the leases, the modes and the operation in progress. -/
structure Leased (s : CallMedia) : Prop where
  settled : ∀ direction, s.bridge.Settled direction ∨
    ∃ leaseId, s.operation = some (.draining leaseId direction)
  collector : s.bridge.OneCollector
  acquiring : ∀ request direction generation,
    s.operation = some (.acquiring request direction generation) →
    ∃ lease, s.bridge.leases.get request.leaseId = some lease ∧ lease.active = true ∧
      lease.direction = direction
  draining : ∀ leaseId direction, s.operation = some (.draining leaseId direction) →
    ∃ lease, s.bridge.leases.get leaseId = some lease ∧ lease.active = false ∧
      lease.direction = direction ∧ lease.releasedGeneration = none
  released : ∀ leaseId lease, s.bridge.leases.get leaseId = some lease → lease.active = false →
    lease.releasedGeneration.isSome ∨
      ∃ direction, s.operation = some (.draining leaseId direction)
  unreleased : ∀ leaseId lease, s.bridge.leases.get leaseId = some lease → lease.active = true →
    lease.releasedGeneration = none

/-- What a step that is no operation on the leases leaves as it is. -/
structure SameLeases (s t : CallMedia) : Prop where
  leases : t.bridge.leases = s.bridge.leases
  operation : t.operation = s.operation
  dtmfMode : ∀ direction, t.bridge.dtmfMode direction = s.bridge.dtmfMode direction

theorem SameLeases.activeModes {t : CallMedia} (h : SameLeases s t) :
    t.bridge.activeModes direction = s.bridge.activeModes direction := by
  rw [MediaBridge.activeModes, h.leases, MediaBridge.activeModes]

theorem Leased.same {t : CallMedia} (h : s.Leased) (hSame : SameLeases s t) : t.Leased := by
  constructor
  · intro direction
    rw [MediaBridge.Settled, hSame.dtmfMode, hSame.activeModes, hSame.operation]
    exact h.settled direction
  · rw [MediaBridge.OneCollector, hSame.leases]
    exact h.collector
  · rw [hSame.leases, hSame.operation]
    exact h.acquiring
  · rw [hSame.leases, hSame.operation]
    exact h.draining
  · rw [hSame.leases, hSame.operation]
    exact h.released
  · rw [hSame.leases]
    exact h.unreleased

theorem sameLeases_modifyPath (f : DigitPath → DigitPath) :
    SameLeases s (s.modifyPath direction f) := by
  cases direction <;> exact ⟨rfl, rfl, fun _ => rfl⟩

theorem sameLeases_modifyRelay {f : DtmfRelay → DtmfRelay}
    (h : ∀ relay, (f relay).config = relay.config) :
    SameLeases s { s with bridge := s.bridge.modifyRelay direction f } := by
  refine ⟨?_, rfl, ?_⟩
  · cases direction <;> rfl
  · intro direction'
    cases direction <;> cases direction' <;> simp [MediaBridge.dtmfMode, MediaBridge.modifyRelay,
      MediaBridge.relay, h]

theorem SameLeases.trans {t u : CallMedia} (first : SameLeases s t) (second : SameLeases t u) :
    SameLeases s u where
  leases := second.leases.trans first.leases
  operation := second.operation.trans first.operation
  dtmfMode direction := (second.dtmfMode direction).trans (first.dtmfMode direction)

theorem sameLeases_observed (out : List ParserObservation × Rfc4733Parser) :
    SameLeases s (s.observed direction out) := by
  rw [observed]
  apply SameLeases.trans (@sameLeases_modifyRelay _ direction
    (fun relay => { relay with parser := out.2 }) fun _ => rfl)
  exact sameLeases_modifyPath _

theorem sameLeases_deliver (now : Nat) : SameLeases s (s.deliver direction now) := by
  rw [deliver]
  split
  · exact ⟨rfl, rfl, fun _ => rfl⟩
  · split
    · exact sameLeases_modifyPath _
    · exact sameLeases_modifyPath _

theorem sameLeases_prepare (capability capability' : Option DtmfCapability)
    (generation lastGeneration : Nat) :
    SameLeases s { s with
      bridge := (s.bridge.configure .callerToCallee
        (updateDtmfNegotiation · capability generation)).configure .calleeToCaller
          (updateDtmfNegotiation · capability' generation)
      lastGeneration } := by
  refine ⟨?_, rfl, ?_⟩
  · simp only [MediaBridge.configure_leases]
  · intro direction
    simp only [MediaBridge.mode_negotiate]

theorem sameLeases_of_step {step : MediaStep} (h : step.onLeases = false) :
    SameLeases s (s.step step) := by
  cases step with
  | acquire => cases h
  | release => cases h
  | proceed => cases h
  | timeOut => cases h
  | prepareCallee generation parsed =>
      cases parsed with
      | error => exact ⟨rfl, rfl, fun _ => rfl⟩
      | ok telephoneEvent => exact sameLeases_prepare _ _ _ _
  | prepareCaller generation parsed =>
      cases parsed with
      | error => exact ⟨rfl, rfl, fun _ => rfl⟩
      | ok telephoneEvent => exact sameLeases_prepare _ _ _ _
  | prepareAiAgent generation parsed =>
      cases parsed with
      | error => exact ⟨rfl, rfl, fun _ => rfl⟩
      | ok telephoneEvent => exact sameLeases_prepare _ _ _ _
  | applyConfig direction => exact sameLeases_modifyRelay fun _ => rfl
  | packet direction packet now visit => exact sameLeases_observed _
  | expire direction now visit => exact sameLeases_observed _
  | lose direction i =>
      rw [CallMedia.step]
      exact sameLeases_modifyPath _
  | deliver direction now => exact sameLeases_deliver now
  | sipInfo direction event =>
      rw [CallMedia.step]
      exact sameLeases_modifyPath _
  | bind bindings => exact ⟨rfl, rfl, fun direction => by cases direction <;> rfl⟩
  | bindCallee sessionId => exact ⟨rfl, rfl, fun direction => by cases direction <;> rfl⟩
  | stop => exact ⟨rfl, rfl, fun direction => by cases direction <;> rfl⟩

theorem Leased.of_acquires (h : s.Leased) (hIdle : s.operation = none)
    (hAcquires : Acquires s.bridge request direction generation bridge') :
    Leased { s with
      bridge := bridge'
      operation := some (.acquiring request direction generation) } := by
  have hSettled : ∀ direction, s.bridge.Settled direction := by
    intro direction
    apply (h.settled direction).resolve_right
    rintro ⟨leaseId, hOperation⟩
    rw [hIdle] at hOperation
    cases hOperation
  constructor
  · intro direction'
    exact .inl (hAcquires.settled fun _ => hSettled direction')
  · exact hAcquires.oneCollector h.collector
  · intro request' direction' generation' hOperation
    cases hOperation
    exact ⟨_, hAcquires.get_self, rfl, rfl⟩
  · intro leaseId direction' hOperation
    cases hOperation
  · intro leaseId lease hGet hInactive
    rw [hAcquires.leases, Table.get_insert] at hGet
    split at hGet
    · cases hGet
      cases hInactive
    · rcases h.released leaseId lease hGet hInactive with hSome | ⟨direction', hOperation⟩
      · exact .inl hSome
      · rw [hIdle] at hOperation
        cases hOperation
  · intro leaseId lease hGet hActive
    rw [hAcquires.leases, Table.get_insert] at hGet
    split at hGet
    · cases hGet
      rfl
    · exact h.unreleased leaseId lease hGet hActive

theorem step_acquire_of_returned {result : Except String DtmfCapabilityReady}
    (h : s.bridge.acquireDtmfCapability request block = (.returned result, s.bridge)) :
    s.step (.acquire request block) = s := by
  rw [CallMedia.step, h]

theorem step_acquire_of_applies
    (h : s.bridge.acquireDtmfCapability request block = (.applies direction generation, bridge')) :
    s.step (.acquire request block) = { s with
      bridge := bridge', operation := some (.acquiring request direction generation) } := by
  rw [CallMedia.step, h]

/-- An active lease that has been made inactive; its direction drains. -/
theorem Leased.of_inactive (h : s.Leased) (hIdle : s.operation = none)
    (hGet : s.bridge.leases.get leaseId = some lease) (hActive : lease.active = true) :
    Leased { s with
      bridge := { s.bridge with
        leases := s.bridge.leases.insert leaseId { lease with active := false } }
      operation := some (.draining leaseId lease.direction) } := by
  have hRewrites : Rewrites s.bridge leaseId (some { lease with active := false })
      { s.bridge with
        leases := s.bridge.leases.insert leaseId { lease with active := false } } := by
    constructor
    · exact Table.get_insert_self
    · intro leaseId' hOther
      exact Table.get_insert_of_ne (Ne.symm hOther)
  constructor
  · intro direction'
    by_cases hSame : lease.direction = direction'
    · right
      exact ⟨leaseId, by rw [hSame]⟩
    · left
      have hSettled : s.bridge.Settled direction' := by
        apply (h.settled direction').resolve_right
        rintro ⟨other, hOperation⟩
        rw [hIdle] at hOperation
        cases hOperation
      apply settled_congr hSettled
      · cases direction' <;> rfl
      · intro mode
        exact hRewrites.mem_activeModes rfl hGet fun _ => hSame
  · exact hRewrites.oneCollector rfl h.collector
  · intro request direction' generation hOperation
    cases hOperation
  · intro leaseId' direction' hOperation
    cases hOperation
    exact ⟨_, hRewrites.self, rfl, rfl, h.unreleased leaseId lease hGet hActive⟩
  · intro other found hFound hInactive
    by_cases hSame : other = leaseId
    · right
      exact ⟨lease.direction, by rw [hSame]⟩
    · left
      have hOld := (hRewrites.others other hSame).symm.trans hFound
      apply (h.released other found hOld hInactive).resolve_right
      rintro ⟨direction', hOperation⟩
      rw [hIdle] at hOperation
      cases hOperation
  · intro other found hFound hActive'
    obtain ⟨-, hOld⟩ := hRewrites.active_of_inactive rfl hFound hActive'
    exact h.unreleased other found hOld hActive'

/-- After the drain the mode is settled again. -/
theorem Leased.of_drained (h : s.Leased)
    (hOperation : s.operation = some (.draining leaseId direction)) :
    ∃ lease generation bridge', s.bridge.leases.get leaseId = some lease ∧
      lease.active = false ∧
      s.bridge.releaseDrained leaseId direction = (.applies direction generation, bridge') ∧
      Rewrites s.bridge leaseId
        (some { lease with releasedGeneration := some generation }) bridge' ∧
      Leased { s with
        bridge := bridge', operation := some (.releasing direction generation) } := by
  obtain ⟨lease, hGet, hInactive, hDirection, -⟩ := h.draining leaseId direction hOperation
  obtain ⟨generation, bridge', hOut, hRewrites, hSettled, hModes⟩ :=
    @releaseDrained_eq _ direction _ _ hGet hInactive
  refine ⟨lease, generation, bridge', hGet, hInactive, hOut, hRewrites, ?_⟩
  constructor
  · intro direction'
    left
    by_cases hSame : direction' = direction
    · rw [hSame]
      exact hSettled
    · have hOld : s.bridge.Settled direction' := by
        apply (h.settled direction').resolve_right
        rintro ⟨other, hOther⟩
        rw [hOperation] at hOther
        cases hOther
        exact hSame rfl
      apply settled_congr hOld (hModes direction' hSame)
      intro mode
      apply hRewrites.mem_activeModes hInactive hGet
      intro hActive
      rw [hInactive] at hActive
      cases hActive
  · exact hRewrites.oneCollector hInactive h.collector
  · intro request direction' generation hOther
    cases hOther
  · intro leaseId' direction' hOther
    cases hOther
  · intro other found hFound hOff
    left
    by_cases hSame : other = leaseId
    · rw [hSame, hRewrites.self] at hFound
      cases hFound
      rfl
    · rw [hRewrites.others other hSame] at hFound
      apply (h.released other found hFound hOff).resolve_right
      rintro ⟨direction', hOther⟩
      rw [hOperation] at hOther
      cases hOther
      exact hSame rfl
  · intro other found hFound hActive
    obtain ⟨-, hOld⟩ := hRewrites.active_of_inactive hInactive hFound hActive
    exact h.unreleased other found hOld hActive

theorem Leased.finished (h : s.Leased)
    (hOperation : ∀ leaseId direction, s.operation ≠ some (.draining leaseId direction)) :
    Leased { s with operation := none } := by
  constructor
  · intro direction
    left
    apply (h.settled direction).resolve_right
    rintro ⟨leaseId, hDraining⟩
    exact hOperation leaseId direction hDraining
  · exact h.collector
  · intro request direction generation hOther
    cases hOther
  · intro leaseId direction hOther
    cases hOther
  · intro leaseId lease hGet hInactive
    left
    apply (h.released leaseId lease hGet hInactive).resolve_right
    rintro ⟨direction, hDraining⟩
    exact hOperation leaseId direction hDraining
  · exact h.unreleased

/-- A failed acquisition takes its lease back. -/
theorem Leased.timedOut (h : s.Leased)
    (hOperation : s.operation = some (.acquiring request direction generation)) :
    Leased { s with bridge := s.bridge.acquireTimedOut request direction, operation := none } := by
  obtain ⟨lease, hLease, hActive, hDirection⟩ := h.acquiring request direction generation hOperation
  have hLeases : (s.bridge.acquireTimedOut request direction).leases =
      s.bridge.leases.remove request.leaseId := by
    rw [acquireTimedOut]
    exact configure_leases _
  have hSub : ∀ other found,
      (s.bridge.acquireTimedOut request direction).leases.get other = some found →
      other ≠ request.leaseId ∧ s.bridge.leases.get other = some found := by
    intro other found hGet
    rw [hLeases, Table.get_remove] at hGet
    split at hGet
    · cases hGet
    · next hOther => exact ⟨Ne.symm hOther, hGet⟩
  constructor
  · intro direction'
    left
    by_cases hSame : direction' = direction
    · subst hSame
      have hMode := @mode_configure_self
        { s.bridge with leases := s.bridge.leases.remove request.leaseId } direction'
        fun current => setDtmfMode current (dominantMode
          (activeModes { s.bridge with leases := s.bridge.leases.remove request.leaseId }
            direction'))
      rw [setDtmfMode_mode] at hMode
      apply Eq.trans hMode
      apply dominantMode_congr
      intro mode
      rw [mem_activeModes, mem_activeModes, hLeases]
    · have hOld : s.bridge.Settled direction' := by
        apply (h.settled direction').resolve_right
        rintro ⟨other, hOther⟩
        rw [hOperation] at hOther
        cases hOther
      apply settled_congr hOld
      · exact mode_configure_of_ne _ hSame
      · intro mode
        rw [mem_activeModes, mem_activeModes]
        constructor
        · rintro ⟨other, found, hGet, hRest⟩
          exact ⟨other, found, (hSub other found hGet).2, hRest⟩
        · rintro ⟨other, found, hGet, hOn, hFound, hMode⟩
          refine ⟨other, found, ?_, hOn, hFound, hMode⟩
          rw [hLeases, Table.get_remove_of_ne]
          · exact hGet
          · intro hId
            rw [← hId, hLease] at hGet
            cases hGet
            exact hSame (hFound.symm.trans hDirection)
  · intro leaseId leaseId' lease lease' hGet hGet'
    exact h.collector leaseId leaseId' lease lease' (hSub _ _ hGet).2 (hSub _ _ hGet').2
  · intro request direction generation hOther
    cases hOther
  · intro leaseId direction hOther
    cases hOther
  · intro leaseId lease hGet hInactive
    left
    apply (h.released leaseId lease (hSub _ _ hGet).2 hInactive).resolve_right
    rintro ⟨direction, hDraining⟩
    rw [hOperation] at hDraining
    cases hDraining
  · intro leaseId lease hGet
    exact h.unreleased leaseId lease (hSub _ _ hGet).2

/-- What the steps of the operations on the leases can do. -/
inductive OnLeases (s : CallMedia) : MediaStep → CallMedia → Prop where
  | answered {step : MediaStep} : OnLeases s step s
  | acquires {request : DtmfCapabilityLeaseRequest} {block : Except (String × String) Unit}
      {direction : DtmfRelayDirection} {generation : Nat} {bridge' : MediaBridge}
      (hIdle : s.operation = none)
      (hAcquires : Acquires s.bridge request direction generation bridge') :
      OnLeases s (.acquire request block)
        { s with bridge := bridge', operation := some (.acquiring request direction generation) }
  | drains {leaseId : MediaCapabilityLeaseId} {lease : DtmfCapabilityLease}
      (hIdle : s.operation = none) (hGet : s.bridge.leases.get leaseId = some lease)
      (hActive : lease.active = true) :
      OnLeases s (.release leaseId) { s with
        bridge := { s.bridge with
          leases := s.bridge.leases.insert leaseId { lease with active := false } }
        operation := some (.draining leaseId lease.direction) }
  | releases {leaseId : MediaCapabilityLeaseId} {lease : DtmfCapabilityLease}
      {generation : Nat} {bridge' : MediaBridge}
      (hIdle : s.operation = none) (hGet : s.bridge.leases.get leaseId = some lease)
      (hActive : lease.active = true)
      (hRewrites : Rewrites s.bridge leaseId
        (some { lease with active := false, releasedGeneration := some generation }) bridge')
      (hLeased : s.Leased → Leased { s with
        bridge := bridge', operation := some (.releasing lease.direction generation) }) :
      OnLeases s (.release leaseId) { s with
        bridge := bridge', operation := some (.releasing lease.direction generation) }
  | drained {leaseId : MediaCapabilityLeaseId} {direction : DtmfRelayDirection}
      {lease : DtmfCapabilityLease} {generation : Nat} {bridge' : MediaBridge}
      (hOperation : s.operation = some (.draining leaseId direction))
      (hGet : s.bridge.leases.get leaseId = some lease)
      (hInactive : lease.active = false)
      (hRewrites : Rewrites s.bridge leaseId
        (some { lease with releasedGeneration := some generation }) bridge')
      (hLeased : s.Leased → Leased { s with
        bridge := bridge', operation := some (.releasing direction generation) }) :
      OnLeases s .proceed { s with
        bridge := bridge', operation := some (.releasing direction generation) }
  | finished {step : MediaStep}
      (hOperation : ∀ leaseId direction, s.operation ≠ some (.draining leaseId direction)) :
      OnLeases s step { s with operation := none }
  | timedOut {request : DtmfCapabilityLeaseRequest} {direction : DtmfRelayDirection}
      {generation : Nat}
      (hOperation : s.operation = some (.acquiring request direction generation)) :
      OnLeases s .timeOut
        { s with bridge := s.bridge.acquireTimedOut request direction, operation := none }

theorem release_onLeases (h : s.Leased) (hIdle : s.operation = none)
    (leaseId : MediaCapabilityLeaseId) :
    OnLeases s (.release leaseId) (s.step (.release leaseId)) := by
  rw [CallMedia.step]
  cases hGet : s.bridge.leases.get leaseId with
  | none =>
      rw [release_of_none hGet]
      exact .answered
  | some lease =>
      cases hActive : lease.active with
      | false =>
          rw [release_of_inactive hGet hActive]
          exact .answered
      | true =>
          rcases release_of_active hGet hActive with hOut | hOut
          · rw [hOut]
            exact .drains hIdle hGet hActive
          · obtain ⟨inactive, generation, bridge', hInactive, -, hDrained, hRewrites, hLeased⟩ :=
              (h.of_inactive hIdle hGet hActive).of_drained rfl
            rw [hOut, hDrained]
            simp only at hInactive
            rw [Table.get_insert_self] at hInactive
            cases hInactive
            apply OnLeases.releases hIdle hGet hActive _ fun _ => hLeased
            constructor
            · exact hRewrites.self
            · intro other hOther
              rw [hRewrites.others other hOther]
              exact Table.get_insert_of_ne (Ne.symm hOther)

/-- A step on the leases does what `OnLeases` says. -/
theorem step_onLeases (h : s.Leased) {step : MediaStep} (hMay : s.mayTake step = true)
    (hOn : step.onLeases = true) : OnLeases s step (s.step step) := by
  cases step with
  | acquire request block =>
      have hIdle : s.operation = none := Option.isNone_iff_eq_none.mp hMay
      rcases acquire_cases s.bridge request block with
        ⟨result, hOut⟩ | ⟨direction, generation, bridge', hOut, hAcquires⟩
      · rw [step_acquire_of_returned hOut]
        exact .answered
      · rw [step_acquire_of_applies hOut]
        exact .acquires hIdle hAcquires
  | release leaseId => exact release_onLeases h (Option.isNone_iff_eq_none.mp hMay) leaseId
  | proceed =>
      rw [CallMedia.step]
      cases hOperation : s.operation with
      | none =>
          rw [mayTake, hOperation] at hMay
          cases hMay
      | some operation =>
          cases operation with
          | acquiring request direction generation =>
              apply OnLeases.finished
              intro leaseId direction' hOther
              rw [hOperation] at hOther
              cases hOther
          | releasing direction generation =>
              apply OnLeases.finished
              intro leaseId direction' hOther
              rw [hOperation] at hOther
              cases hOther
          | draining leaseId direction =>
              obtain ⟨lease, generation, bridge', hGet, hInactive, hDrained, hRewrites, hLeased⟩ :=
                h.of_drained hOperation
              simp only
              rw [hDrained]
              exact .drained hOperation hGet hInactive hRewrites fun _ => hLeased
  | timeOut =>
      rw [CallMedia.step]
      cases hOperation : s.operation with
      | none =>
          rw [mayTake, hOperation] at hMay
          cases hMay
      | some operation =>
          cases operation with
          | acquiring request direction generation => exact .timedOut hOperation
          | releasing direction generation =>
              apply OnLeases.finished
              intro leaseId direction' hOther
              rw [hOperation] at hOther
              cases hOther
          | draining leaseId direction => exact .answered
  | _ => cases hOn

theorem Leased.step (h : s.Leased) {step : MediaStep} (hMay : s.mayTake step = true) :
    (s.step step).Leased := by
  cases hOn : step.onLeases with
  | false => exact h.same (sameLeases_of_step hOn)
  | true =>
      have hCases := step_onLeases h hMay hOn
      generalize s.step step = t at hCases
      cases hCases with
      | answered => exact h
      | acquires hIdle hAcquires => exact h.of_acquires hIdle hAcquires
      | drains hIdle hGet hActive => exact h.of_inactive hIdle hGet hActive
      | releases _ _ _ _ hLeased => exact hLeased h
      | drained _ _ _ _ hLeased => exact hLeased h
      | finished hOperation => exact h.finished hOperation
      | timedOut hOperation => exact h.timedOut hOperation

theorem leased_new (offered : Option DtmfCapability) :
    Leased { bridge := .new offered } := by
  constructor
  · intro direction
    left
    cases direction <;> rfl
  · intro leaseId leaseId' lease lease' hGet
    cases hGet
  · intro request direction generation hOperation
    cases hOperation
  · intro leaseId direction hOperation
    cases hOperation
  · intro leaseId lease hGet
    cases hGet
  · intro leaseId lease hGet
    cases hGet

theorem leased_of_reachable (h : Reachable leasing s) : s.Leased := by
  apply h.invariant
  · rintro s ⟨offered, rfl⟩
    exact leased_new offered
  · intro s step t hLeased hNext
    obtain ⟨hMay, rfl⟩ := hNext
    exact hLeased.step hMay

/-- A lease stays as it is unless it is released, has its release completed, or goes with the
acquisition that has failed. -/
theorem Leased.step_get (h : s.Leased) {step : MediaStep} (hMay : s.mayTake step = true)
    (hGet : s.bridge.leases.get leaseId = some lease) :
    (s.step step).bridge.leases.get leaseId = some lease ∨
    (step = .release leaseId ∧ lease.active = true) ∨
    (lease.active = false ∧ lease.releasedGeneration = none ∧
      ∃ lease', (s.step step).bridge.leases.get leaseId = some lease' ∧ lease'.active = false) ∨
    (step = .timeOut ∧ lease.active = true ∧ ∃ request direction generation,
      s.operation = some (.acquiring request direction generation) ∧
        request.leaseId = leaseId) := by
  cases hOn : step.onLeases with
  | false =>
      left
      rw [(sameLeases_of_step hOn).leases]
      exact hGet
  | true =>
      have hCases := step_onLeases h hMay hOn
      generalize s.step step = t at hCases
      cases hCases with
      | answered => exact .inl hGet
      | acquires hIdle hAcquires =>
          left
          rw [hAcquires.leases, Table.get_insert_of_ne]
          · exact hGet
          · intro hSame
            have hFresh := hAcquires.fresh
            rw [hSame, hGet] at hFresh
            cases hFresh
      | @drains other found _ hFound hActive =>
          by_cases hSame : leaseId = other
          · subst hSame
            rw [hGet] at hFound
            cases hFound
            exact .inr (.inl ⟨rfl, hActive⟩)
          · left
            exact (Table.get_insert_of_ne (Ne.symm hSame)).trans hGet
      | @releases other found _ _ _ hFound hActive hRewrites =>
          by_cases hSame : leaseId = other
          · subst hSame
            rw [hGet] at hFound
            cases hFound
            exact .inr (.inl ⟨rfl, hActive⟩)
          · left
            exact (hRewrites.others leaseId hSame).trans hGet
      | @drained other direction found _ _ hOperation hFound hInactive hRewrites =>
          by_cases hSame : leaseId = other
          · subst hSame
            rw [hGet] at hFound
            cases hFound
            obtain ⟨existing, hExisting, -, -, hNone⟩ := h.draining leaseId direction hOperation
            rw [hGet] at hExisting
            cases hExisting
            exact .inr (.inr (.inl ⟨hInactive, hNone, _, hRewrites.self, hInactive⟩))
          · left
            exact (hRewrites.others leaseId hSame).trans hGet
      | finished => exact .inl hGet
      | @timedOut request direction generation hOperation =>
          obtain ⟨existing, hExisting, hActive, -⟩ :=
            h.acquiring request direction generation hOperation
          by_cases hSame : request.leaseId = leaseId
          · right; right; right
            rw [hSame, hGet] at hExisting
            cases hExisting
            exact ⟨rfl, hActive, request, direction, generation, hOperation, hSame⟩
          · left
            simp only [acquireTimedOut, configure_leases]
            rw [Table.get_remove_of_ne hSame]
            exact hGet

theorem inactive_of_runs {t : CallMedia} (run : Runs leasing s t) (h : s.Leased)
    (hGet : s.bridge.leases.get leaseId = some lease) (hInactive : lease.active = false) :
    t.Leased ∧ ∃ lease', t.bridge.leases.get leaseId = some lease' ∧ lease'.active = false := by
  apply run.invariant (P := fun t => t.Leased ∧
    ∃ lease', t.bridge.leases.get leaseId = some lease' ∧ lease'.active = false)
  · exact ⟨h, lease, hGet, hInactive⟩
  · rintro u step v ⟨hLeased, lease', hGet', hInactive'⟩ - ⟨hMay, rfl⟩
    refine ⟨hLeased.step hMay, ?_⟩
    rcases hLeased.step_get hMay hGet' with hSame | ⟨-, hActive⟩ | ⟨-, -, hLater⟩ | ⟨-, hActive, -⟩
    · exact ⟨lease', hSame, hInactive'⟩
    · rw [hInactive'] at hActive
      cases hActive
    · exact hLater
    · rw [hInactive'] at hActive
      cases hActive

/-- A lease whose release has been given a generation keeps it. -/
theorem released_of_runs {t : CallMedia} (run : Runs leasing s t) (h : s.Leased)
    (hGet : s.bridge.leases.get leaseId = some lease) (hInactive : lease.active = false)
    {generation : Nat} (hReleased : lease.releasedGeneration = some generation) :
    t.bridge.leases.get leaseId = some lease := by
  have hAll := run.invariant (P := fun t => t.Leased ∧
    t.bridge.leases.get leaseId = some lease) ⟨h, hGet⟩ (by
      rintro u step v ⟨hLeased, hGet'⟩ - ⟨hMay, rfl⟩
      refine ⟨hLeased.step hMay, ?_⟩
      rcases hLeased.step_get hMay hGet' with hSame | ⟨-, hActive⟩ | ⟨-, hNone, -⟩ | ⟨-, hActive, -⟩
      · exact hSame
      · rw [hInactive] at hActive
        cases hActive
      · rw [hReleased] at hNone
        cases hNone
      · rw [hInactive] at hActive
        cases hActive)
  exact hAll.2

/-- The request can be asked for: the bridge runs, and the session is one of its sides. -/
def Accepts (bridge : MediaBridge) (request : DtmfCapabilityLeaseRequest) : Prop :=
  bridge.stopped = false ∧ request.mode ≠ .transparent ∧
    ∃ direction, bridge.dtmfDirection request.sourceSessionId = .ok direction

/-- The acquisition has returned the generation, or returns it once the relay has applied the
mode. -/
def AcquiresAt (s : CallMedia) (request : DtmfCapabilityLeaseRequest)
    (block : Except (String × String) Unit) (generation : Nat) : Prop :=
  (∃ ready, (s.bridge.acquireDtmfCapability request block).1 = .returned (.ok ready) ∧
    ready.mediaGeneration = generation) ∨
  ∃ direction, (s.bridge.acquireDtmfCapability request block).1 = .applies direction generation

/-- The step is the one of a release whose answer is the generation. -/
def ReleasesAt (s : CallMedia) (leaseId : MediaCapabilityLeaseId) (generation : Nat) :
    MediaStep → Prop
  | .release leaseId' => leaseId' = leaseId ∧
      ((s.bridge.releaseDtmfCapability leaseId).1 = .returned (.ok generation) ∨
        ∃ direction, (s.bridge.releaseDtmfCapability leaseId).1 = .applies direction generation)
  | .proceed => ∃ direction direction', s.operation = some (.draining leaseId direction) ∧
      (s.bridge.releaseDrained leaseId direction).1 = .applies direction' generation
  | _ => False

/-- A step after which a lease is still held under the same bindings. -/
def Holds (leaseId : MediaCapabilityLeaseId) (s : CallMedia) (step : MediaStep) : Prop :=
  step ≠ .release leaseId ∧ step.keepsBindings = true ∧
    ∀ request direction generation, step = .timeOut →
      s.operation = some (.acquiring request direction generation) → request.leaseId ≠ leaseId

/-- The lease that the request has been given is active. -/
def Held (bridge : MediaBridge) (request : DtmfCapabilityLeaseRequest) (generation : Nat) : Prop :=
  ∃ lease, bridge.leases.get request.leaseId = some lease ∧ lease.request = request ∧
    lease.active = true ∧ lease.readyGeneration = generation

/-- What an acquisition that does not fail has checked and found. -/
theorem acquire_checks (h : s.AcquiresAt request block generation) :
    Accepts s.bridge request ∧
      ((∃ ready, (s.bridge.acquireDtmfCapability request block).1 = .returned (.ok ready)) →
        Held s.bridge request generation) := by
  rw [AcquiresAt, acquireDtmfCapability] at h
  rw [Accepts, acquireDtmfCapability]
  split at h
  · simp at h
  next hRunning =>
    rw [if_neg hRunning]
    split at h
    · simp at h
    next hMode =>
      rw [if_neg hMode]
      split at h
      · simp at h
      next direction hDirection =>
        refine ⟨⟨Bool.not_eq_true _ ▸ hRunning, hMode, direction, hDirection⟩, ?_⟩
        split at h
        · next lease hGet =>
            split at h
            · simp at h
            next hSame =>
              split at h
              · simp at h
              next hActive =>
                rcases h with ⟨ready, hReady, hGeneration⟩ | ⟨direction', hApplies⟩
                · intro _
                  cases hReady
                  exact ⟨lease, hGet, Decidable.not_not.mp hSame, Decidable.not_not.mp hActive,
                    hGeneration⟩
                · cases hApplies
        · next hFresh =>
            rintro ⟨ready, hReady⟩
            simp only at hReady
            split at hReady
            · cases hReady
            split at hReady
            · cases hReady
            split at hReady
            · cases hReady
            split at hReady <;> cases hReady

/-- A request for a lease that is held is answered as before, and changes nothing. -/
theorem acquire_of_held {bridge : MediaBridge} (hAccepts : Accepts bridge request)
    (hHeld : Held bridge request generation) :
    bridge.acquireDtmfCapability request block =
      (.returned (.ok ⟨request.leaseId, request.sourceSessionId, request.mode, generation⟩),
        bridge) := by
  obtain ⟨hRunning, hMode, direction, hDirection⟩ := hAccepts
  obtain ⟨lease, hGet, hSame, hActive, rfl⟩ := hHeld
  have hStopped : ¬ bridge.stopped = true := by
    rw [hRunning]
    exact Bool.false_ne_true
  rw [acquireDtmfCapability, if_neg hStopped, if_neg hMode, hDirection]
  simp only
  rw [hGet]
  simp only [hSame, hActive, ne_eq, not_true_eq_false, if_false]

theorem sameSides_modifyPath (f : DigitPath → DigitPath) :
    (s.modifyPath direction f).bridge = s.bridge := by
  cases direction <;> rfl

theorem sameSides_step {step : MediaStep} (hKeeps : step.keepsBindings = true) :
    SameSides s.bridge (s.step step).bridge := by
  cases step with
  | bind => cases hKeeps
  | bindCallee => cases hKeeps
  | stop => cases hKeeps
  | acquire request block =>
      have hSides := sameSides_acquire s.bridge request block
      rw [CallMedia.step]
      split <;> next hOut => rw [hOut] at hSides; exact hSides
  | release leaseId =>
      have hSides := sameSides_release s.bridge leaseId
      rw [CallMedia.step]
      split <;> next hOut => rw [hOut] at hSides; exact hSides
  | proceed =>
      rw [CallMedia.step]
      split
      · next leaseId direction _ =>
          have hSides := sameSides_releaseDrained s.bridge leaseId direction
          split <;> next hOut => rw [hOut] at hSides; exact hSides
      · exact ⟨rfl, rfl⟩
  | timeOut =>
      rw [CallMedia.step]
      split
      · exact @sameSides_configure { s.bridge with leases := _ } _ _
      · exact ⟨rfl, rfl⟩
      · exact ⟨rfl, rfl⟩
  | prepareCallee generation parsed => cases parsed <;> exact ⟨rfl, rfl⟩
  | prepareCaller generation parsed => cases parsed <;> exact ⟨rfl, rfl⟩
  | prepareAiAgent generation parsed => cases parsed <;> exact ⟨rfl, rfl⟩
  | applyConfig direction => exact sameSides_modifyRelay _
  | packet direction packet now visit =>
      rw [CallMedia.step, observed, sameSides_modifyPath]
      exact sameSides_modifyRelay _
  | expire direction now visit =>
      rw [CallMedia.step, observed, sameSides_modifyPath]
      exact sameSides_modifyRelay _
  | lose direction i =>
      rw [CallMedia.step, sameSides_modifyPath]
      exact ⟨rfl, rfl⟩
  | deliver direction now =>
      rw [CallMedia.step, CallMedia.deliver]
      split
      · exact ⟨rfl, rfl⟩
      · split <;> rw [sameSides_modifyPath] <;> exact ⟨rfl, rfl⟩
  | sipInfo direction event =>
      rw [CallMedia.step, sameSides_modifyPath]
      exact ⟨rfl, rfl⟩

theorem Accepts.of_sameSides {bridge' : MediaBridge} (h : Accepts bridge request)
    (hSides : SameSides bridge bridge') : Accepts bridge' request := by
  obtain ⟨hRunning, hMode, direction, hDirection⟩ := h
  refine ⟨hSides.2.trans hRunning, hMode, direction, ?_⟩
  rw [dtmfDirection, hSides.1]
  exact hDirection

/-- After an acquisition that does not fail the lease is held. -/
theorem held_of_acquiresAt (h : s.AcquiresAt request block generation) :
    Held (s.step (.acquire request block)).bridge request generation := by
  rcases acquire_cases s.bridge request block with
    ⟨result, hOut⟩ | ⟨direction, generation', bridge', hOut, hAcquires⟩
  · rw [step_acquire_of_returned hOut]
    apply (acquire_checks h).2
    rw [AcquiresAt, hOut] at h
    rcases h with ⟨ready, hReady, -⟩ | ⟨direction, hApplies⟩
    · rw [hOut]
      exact ⟨ready, hReady⟩
    · cases hApplies
  · rw [step_acquire_of_applies hOut]
    rw [AcquiresAt, hOut] at h
    rcases h with ⟨ready, hReady, -⟩ | ⟨direction', hApplies⟩
    · cases hReady
    · cases hApplies
      exact ⟨_, hAcquires.get_self, rfl, rfl, rfl⟩

/-- A lease is held for as long as it is not released and its acquisition has not failed. -/
theorem held_of_runs {t : CallMedia} (run : RunsWithin leasing (Holds request.leaseId) s t)
    (h : s.Leased) (hAccepts : Accepts s.bridge request)
    (hHeld : Held s.bridge request generation) :
    t.Leased ∧ Accepts t.bridge request ∧ Held t.bridge request generation := by
  apply run.invariant (P := fun t =>
    t.Leased ∧ Accepts t.bridge request ∧ Held t.bridge request generation)
  · exact ⟨h, hAccepts, hHeld⟩
  · rintro u step v ⟨hLeased, hAccepts, lease, hGet, hSame, hActive, hGeneration⟩
      ⟨hNotReleased, hKeeps, hNotFailed⟩ ⟨hMay, rfl⟩
    refine ⟨hLeased.step hMay, hAccepts.of_sameSides (sameSides_step hKeeps), lease, ?_, hSame,
      hActive, hGeneration⟩
    rcases hLeased.step_get hMay hGet with
      hSame | ⟨hReleased, -⟩ | ⟨hInactive, -⟩ | ⟨hTimeOut, -, other, direction, g, hOperation, hId⟩
    · exact hSame
    · exact absurd hReleased hNotReleased
    · rw [hActive] at hInactive
      cases hInactive
    · exact absurd hId (hNotFailed other direction g hTimeOut hOperation)

/-- After the step of a release the lease has the generation that the release is answered
with. -/
theorem released_of_releasesAt (h : s.Leased) {step : MediaStep}
    (hMay : s.mayTake step = true) (hReleases : s.ReleasesAt leaseId generation step) :
    ∃ lease, (s.step step).bridge.leases.get leaseId = some lease ∧ lease.active = false ∧
      lease.releasedGeneration = some generation := by
  cases step with
  | release leaseId' =>
      obtain ⟨rfl, hOut⟩ := hReleases
      have hIdle : s.operation = none := Option.isNone_iff_eq_none.mp hMay
      cases hGet : s.bridge.leases.get leaseId' with
      | none =>
          rw [release_of_none hGet] at hOut
          rcases hOut with hOut | ⟨direction, hOut⟩ <;> cases hOut
      | some lease =>
          cases hActive : lease.active with
          | false =>
              have hSome : lease.releasedGeneration.isSome := by
                apply (h.released leaseId' lease hGet hActive).resolve_right
                rintro ⟨direction, hOperation⟩
                rw [hIdle] at hOperation
                cases hOperation
              obtain ⟨released, hReleased⟩ := Option.isSome_iff_exists.mp hSome
              have hRelease := release_of_inactive hGet hActive
              rw [CallMedia.step]
              rw [hRelease] at hOut ⊢
              rcases hOut with hOut | ⟨direction, hOut⟩
              · rw [hReleased, Option.getD_some] at hOut
                cases hOut
                exact ⟨lease, hGet, hActive, hReleased⟩
              · cases hOut
          | true =>
              rcases release_of_active hGet hActive with hRelease | hRelease
              · rw [hRelease] at hOut
                rcases hOut with hOut | ⟨direction, hOut⟩ <;> cases hOut
              · obtain ⟨inactive, generation', bridge', -, hInactive, hDrained, hRewrites, -⟩ :=
                  (h.of_inactive hIdle hGet hActive).of_drained rfl
                rw [CallMedia.step]
                rw [hRelease, hDrained] at hOut ⊢
                rcases hOut with hOut | ⟨direction, hOut⟩ <;> cases hOut
                exact ⟨_, hRewrites.self, hInactive, rfl⟩
  | proceed =>
      obtain ⟨direction, direction', hOperation, hOut⟩ := hReleases
      obtain ⟨lease, generation', bridge', -, hInactive, hDrained, hRewrites, -⟩ :=
        h.of_drained hOperation
      rw [CallMedia.step, hOperation]
      simp only
      rw [hDrained] at hOut ⊢
      cases hOut
      exact ⟨_, hRewrites.self, hInactive, rfl⟩
  | _ => exact hReleases.elim

/-- Between operations the mode of a direction is the strongest that an active lease asks for.
There is one active lease at most to collect the digits of a direction, and a lease that has
been released stays so. An acquisition that has succeeded is answered with the same generation
while its lease is held, and a release that has succeeded at any later time, and neither changes
anything then. -/
theorem leases_determine_mode (h : Reachable leasing s) :
    (s.operation = none → ∀ direction,
      (∀ leaseId lease, s.bridge.leases.get leaseId = some lease → lease.active = true →
        lease.direction = direction → dtmfModePriority lease.request.mode ≤
          dtmfModePriority (s.bridge.relay direction).config.mode) ∧
      ((s.bridge.relay direction).config.mode = .transparent ∨
        ∃ leaseId lease, s.bridge.leases.get leaseId = some lease ∧ lease.active = true ∧
          lease.direction = direction ∧
            lease.request.mode = (s.bridge.relay direction).config.mode)) ∧
    s.bridge.OneCollector ∧
    (∀ t, Runs leasing s t → ∀ leaseId lease, s.bridge.leases.get leaseId = some lease →
      lease.active = false →
      ∃ lease', t.bridge.leases.get leaseId = some lease' ∧ lease'.active = false) ∧
    (∀ request block generation t, s.operation = none → s.AcquiresAt request block generation →
      RunsWithin leasing (Holds request.leaseId) (s.step (.acquire request block)) t →
      ∀ block', t.bridge.acquireDtmfCapability request block' =
        (.returned (.ok ⟨request.leaseId, request.sourceSessionId, request.mode, generation⟩),
          t.bridge)) ∧
    (∀ step leaseId generation t, s.mayTake step = true → s.ReleasesAt leaseId generation step →
      Runs leasing (s.step step) t →
      t.bridge.releaseDtmfCapability leaseId = (.returned (.ok generation), t.bridge)) := by
  have hLeased := leased_of_reachable h
  refine ⟨?_, hLeased.collector, ?_, ?_, ?_⟩
  · intro hIdle direction
    have hSettled : s.bridge.Settled direction := by
      apply (hLeased.settled direction).resolve_right
      rintro ⟨leaseId, hOperation⟩
      rw [hIdle] at hOperation
      cases hOperation
    change (s.bridge.relay direction).config.mode = _ at hSettled
    rw [hSettled]
    constructor
    · intro leaseId lease hGet hActive hDirection
      apply priority_le_dominantMode
      exact mem_activeModes.mpr ⟨leaseId, lease, hGet, hActive, hDirection, rfl⟩
    · rcases @dominantMode_mem (s.bridge.activeModes direction) with hNone | hMem
      · exact .inl hNone
      · exact .inr (mem_activeModes.mp hMem)
  · intro t run leaseId lease hGet hInactive
    exact (inactive_of_runs run hLeased hGet hInactive).2
  · intro request block generation t hIdle hAcquires run block'
    have hMay : s.mayTake (.acquire request block) = true := by
      rw [mayTake, hIdle]
      rfl
    have hAccepts := (acquire_checks hAcquires).1.of_sameSides
      (@sameSides_step _ (.acquire request block) rfl)
    obtain ⟨-, hLater, hHeld⟩ :=
      held_of_runs run (hLeased.step hMay) hAccepts (held_of_acquiresAt hAcquires)
    exact acquire_of_held hLater hHeld
  · intro step leaseId generation t hMay hReleases run
    obtain ⟨lease, hGet, hInactive, hReleased⟩ := released_of_releasesAt hLeased hMay hReleases
    have hLater := released_of_runs run (hLeased.step hMay) hGet hInactive hReleased
    rw [release_of_inactive hLater hInactive, hReleased, Option.getD_some]

/-- A bridge to which the caller has offered digits. -/
def digitsOffered : CallMedia where
  bridge := .new (some
    { payloadType := 101, clockRate := 8000, events := [0, 1, 2], detectable := true })

def digitsBound : CallMedia := digitsOffered.step (.bind ⟨"domain", "call", "caller", "callee"⟩)

def observeRequested : CallMedia :=
  digitsBound.step (.acquire ⟨"lease", "owner", "caller", .observe, 0⟩ (.ok ()))

/-- The caller's digits are observed. -/
def observing : CallMedia := observeRequested.step .proceed

theorem observing_reachable : Reachable leasing observing := by
  refine ⟨digitsOffered, ⟨_, rfl⟩, ?_⟩
  have hBound : Runs leasing digitsOffered digitsBound := .step .refl trivial ⟨rfl, rfl⟩
  have hRequested : Runs leasing digitsOffered observeRequested := hBound.step trivial ⟨rfl, rfl⟩
  exact hRequested.step trivial ⟨rfl, rfl⟩

def collectRequest : DtmfCapabilityLeaseRequest := ⟨"collect", "owner", "caller", .collect, 0⟩

def collectRequested : CallMedia := observing.step (.acquire collectRequest (.ok ()))

/-- A collector behind the observer. -/
def collecting : CallMedia := collectRequested.step .proceed

def draining : CallMedia := collecting.step (.release "collect")

/-- The drain is over, and the relay has applied what is left. -/
def observingAgain : CallMedia := (draining.step .proceed).step .proceed

theorem draining_reachable : Reachable leasing draining := by
  obtain ⟨start, hStart, run⟩ := observing_reachable
  have hRequested : Runs leasing start collectRequested := run.step trivial ⟨rfl, rfl⟩
  have hCollecting : Runs leasing start collecting := hRequested.step trivial ⟨rfl, rfl⟩
  exact ⟨start, hStart, hCollecting.step trivial ⟨rfl, rfl⟩⟩

/-- The collector's mode wins while its lease is active. Its acquisition and its release give the
same answer when they are repeated. -/
theorem leases_determine_mode_observing :
    (observing.bridge.relay .callerToCallee).config.mode = .observe ∧
      observing.bridge.releaseDtmfCapability "other" =
        (.returned (.error "media_capability_lease_not_found"), observing.bridge) ∧
      observing.bridge.OneCollector ∧
      (collecting.bridge.relay .callerToCallee).config.mode = .collect ∧
      (∀ block, collecting.bridge.acquireDtmfCapability collectRequest block =
        (.returned (.ok ⟨"collect", "caller", .collect, 2⟩), collecting.bridge)) ∧
      (observingAgain.bridge.relay .callerToCallee).config.mode = .observe ∧
      observingAgain.bridge.releaseDtmfCapability "collect" =
        (.returned (.ok 3), observingAgain.bridge) := by
  have hAcquires : RunsWithin leasing (Holds "collect") collectRequested collecting := by
    refine .step .refl ⟨?_, rfl, ?_⟩ ⟨rfl, rfl⟩
    · intro hRelease
      cases hRelease
    · intro _ _ _ hTimeOut
      cases hTimeOut
  have hReleases : Runs leasing (draining.step .proceed) observingAgain :=
    .step .refl trivial ⟨rfl, rfl⟩
  have hObserving := leases_determine_mode observing_reachable
  have hDraining := leases_determine_mode draining_reachable
  exact ⟨rfl, rfl, hObserving.2.1, rfl,
    hObserving.2.2.2.1 collectRequest (.ok ()) 2 collecting rfl (.inr ⟨.callerToCallee, rfl⟩)
      hAcquires,
    rfl, hDraining.2.2.2.2 .proceed "collect" 3 observingAgain rfl
      ⟨.callerToCallee, .callerToCallee, rfl, rfl⟩ hReleases⟩

end CallMedia

end VoipSwitch.Media
