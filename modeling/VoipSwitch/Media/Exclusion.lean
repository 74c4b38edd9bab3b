import VoipSwitch.Media.Capability
import VoipSwitch.Media.FastPath

/-! Capabilities that need the media in user space keep the fast path off: once one has been
granted, no rules are installed for the bridge any more. -/
namespace VoipSwitch.Media

open Keyed Transition

namespace FastPathRuntime

variable {runtime : FastPathRuntime} {flows : Option (List FastPathFlowSpec)}
  {demote : Except FastPathFailure FastPathStats} {promote : Except FastPathFailure Unit}

/-- The media stay in user space. -/
structure Excluded (runtime : FastPathRuntime) : Prop where
  blocked : runtime.state.promotionBlocked = true
  inactive : runtime.state.activeGeneration = none

/-- An active fast path belongs to a bridge. -/
def Bound (runtime : FastPathRuntime) : Prop :=
  runtime.state.activeGeneration.isSome → runtime.state.bridgeId.isSome

theorem promoteLocked_of_blocked {flows : List FastPathFlowSpec}
    (h : runtime.state.promotionBlocked = true) :
    runtime.promoteLocked flows promote = runtime := by
  rw [promoteLocked, if_pos h]

theorem promoteKnown_of_blocked (h : runtime.state.promotionBlocked = true) :
    runtime.promoteKnown flows promote = runtime := by
  cases flows with
  | none => rfl
  | some flows => exact promoteLocked_of_blocked h

theorem Excluded.promoteWith (h : runtime.Excluded) {bridgeId : String} :
    runtime.promoteWith bridgeId flows promote = runtime := by
  cases flows with
  | none => rfl
  | some flows =>
      rw [FastPathRuntime.promoteWith]
      exact if_pos (.inr (.inl h.blocked))

theorem Excluded.confirmRebindWith (h : runtime.Excluded) {slot : RemoteEndpointSlot} :
    runtime.confirmRebindWith slot flows demote promote = runtime := by
  unfold FastPathRuntime.confirmRebindWith
  rw [h.inactive]
  split
  · rfl
  · split
    · rfl
    · exact promoteKnown_of_blocked h.blocked
    · next hActive => cases hActive

theorem Excluded.checkRedirectHealth (h : runtime.Excluded)
    {snapshot : Except FastPathError FastPathStats} :
    runtime.checkRedirectHealth snapshot demote = runtime := by
  rw [FastPathRuntime.checkRedirectHealth]
  apply if_pos
  right
  exact ⟨h.blocked, by rw [h.inactive]; rfl⟩

theorem Excluded.stop (h : runtime.Excluded) {remove : Except FastPathFailure FastPathStats} :
    (runtime.stop remove).Excluded ∧ (runtime.stop remove).promotions = runtime.promotions := by
  unfold FastPathRuntime.stop
  rw [h.inactive]
  split
  · next hActive => cases hActive
  · exact ⟨⟨h.blocked, rfl⟩, rfl⟩

theorem Excluded.block (h : runtime.Excluded) :
    (runtime.blockForUserspaceCapability demote).2.Excluded ∧
      (runtime.blockForUserspaceCapability demote).2.promotions = runtime.promotions := by
  rw [blockForUserspaceCapability]
  split
  · exact ⟨h, rfl⟩
  · simp only [blockPromotion, h.inactive]
    split
    · next hActive => cases hActive
    · exact ⟨⟨rfl, rfl⟩, rfl⟩

/-- A block that succeeds excludes the fast path. -/
theorem excluded_of_block (hBound : runtime.Bound)
    (h : (runtime.blockForUserspaceCapability demote).1 = .ok ()) :
    (runtime.blockForUserspaceCapability demote).2.Excluded := by
  rw [blockForUserspaceCapability] at h ⊢
  split at h
  · cases h
  · next hStopped =>
      rw [if_neg hStopped]
      simp only [blockPromotion] at h ⊢
      split at h
      · next hBridge hActive =>
          cases demote with
          | error error => cases h
          | ok stats => exact ⟨rfl, rfl⟩
      · next hNone =>
          have hInactive : runtime.state.activeGeneration = none := by
            cases hActive : runtime.state.activeGeneration with
            | none => rfl
            | some generation =>
                have hSome : runtime.state.activeGeneration.isSome := by rw [hActive]; rfl
                obtain ⟨bridgeId, hBridge⟩ := Option.isSome_iff_exists.mp (hBound hSome)
                exact (hNone bridgeId generation hBridge hActive).elim
          exact ⟨rfl, hInactive⟩

theorem Bound.promoteLocked (h : runtime.Bound) {flows : List FastPathFlowSpec} :
    (runtime.promoteLocked flows promote).Bound := by
  rw [FastPathRuntime.promoteLocked]
  split
  · exact h
  · split
    · exact h
    · next hBridge =>
        cases promote with
        | error error => exact h
        | ok u =>
            intro hActive
            simp only [hBridge, Option.isSome_some]

theorem Bound.promoteKnown (h : runtime.Bound) : (runtime.promoteKnown flows promote).Bound := by
  cases flows with
  | none => exact h
  | some flows => exact h.promoteLocked

theorem Bound.of_inactive (h : runtime.state.activeGeneration = none) : runtime.Bound := by
  intro hActive
  rw [h] at hActive
  cases hActive

theorem Bound.promoteWith (h : runtime.Bound) {bridgeId : String} :
    (runtime.promoteWith bridgeId flows promote).Bound := by
  unfold FastPathRuntime.promoteWith
  split
  · exact h
  · split
    · exact h
    · split
      · split
        · exact h
        · exact h.promoteLocked
      · exact Bound.promoteLocked fun _ => rfl

theorem Bound.confirmRebindWith (h : runtime.Bound) {slot : RemoteEndpointSlot} :
    (runtime.confirmRebindWith slot flows demote promote).Bound := by
  unfold FastPathRuntime.confirmRebindWith
  split
  · exact h
  · split
    · exact h
    · exact h.promoteKnown
    · split
      · exact h
      · exact Bound.promoteKnown (.of_inactive rfl)

theorem Bound.demoteAndBlockLocked (h : runtime.Bound) {generation : Nat} :
    (runtime.demoteAndBlockLocked generation demote).Bound := by
  unfold FastPathRuntime.demoteAndBlockLocked
  split
  · exact h
  · cases demote with
    | error error => exact h
    | ok stats => exact .of_inactive rfl

theorem Bound.checkRedirectHealth (h : runtime.Bound)
    {snapshot : Except FastPathError FastPathStats} :
    (runtime.checkRedirectHealth snapshot demote).Bound := by
  rw [FastPathRuntime.checkRedirectHealth]
  split
  · exact h
  · split
    · split
      · split
        · exact h.demoteAndBlockLocked
        · exact h
      · exact h.demoteAndBlockLocked
    · exact h

theorem Bound.block (h : runtime.Bound) :
    (runtime.blockForUserspaceCapability demote).2.Bound := by
  rw [blockForUserspaceCapability]
  split
  · exact h
  · simp only
    split
    · split
      · exact h
      · exact .of_inactive rfl
    · exact h

/-- What a block comes to. -/
structure Blocks (runtime : FastPathRuntime)
    (blocked : Except FastPathError Unit × FastPathRuntime) : Prop where
  bound : blocked.2.Bound
  keeps : runtime.Excluded → blocked.2.Excluded
  excludes : blocked.1 = .ok () → blocked.2.Excluded

theorem blocks (demote : Except FastPathFailure FastPathStats) (h : runtime.Bound) :
    runtime.Blocks (runtime.blockForUserspaceCapability demote) where
  bound := h.block
  keeps hExcluded := hExcluded.block.1
  excludes := excluded_of_block h

theorem stop_inactive {remove : Except FastPathFailure FastPathStats} :
    (runtime.stop remove).state.activeGeneration = none := by
  unfold stop
  split
  · split
    · rfl
    · rfl
  · rfl

end FastPathRuntime

namespace FastPath

variable {s t : FastPath} {step : FastPathStep}

theorem bound_step (hStep : s.step step = some t) (h : s.runtime.Bound) : t.runtime.Bound := by
  cases step with
  | promote bridgeId =>
      obtain rfl := Option.some.inj hStep
      split
      · exact h
      · exact h
  | confirmRebind slot source =>
      obtain rfl := Option.some.inj hStep
      split
      · exact h
      · exact h
  | read i =>
      obtain ⟨call, -, rfl⟩ := Option.map_eq_some_iff.mp hStep
      exact h
  | finish i demote promote =>
      rw [FastPath.step] at hStep
      split at hStep
      · next caller endpoints hCall =>
          obtain rfl := Option.some.inj hStep
          cases caller with
          | promote bridgeId => exact h.promoteWith
          | confirmRebind slot => exact h.confirmRebindWith
      · cases hStep
  | checkRedirectHealth snapshot demote =>
      obtain rfl := Option.some.inj hStep
      exact h.checkRedirectHealth
  | block demote =>
      obtain rfl := Option.some.inj hStep
      exact h.block
  | stop remove =>
      obtain rfl := Option.some.inj hStep
      exact .of_inactive FastPathRuntime.stop_inactive

/-- While the fast path is excluded no step hands the controller a specification. -/
theorem excluded_step (hStep : s.step step = some t) (h : s.runtime.Excluded) :
    t.runtime.Excluded ∧ t.runtime.promotions = s.runtime.promotions := by
  cases step with
  | promote bridgeId =>
      obtain rfl := Option.some.inj hStep
      split
      · exact ⟨h, rfl⟩
      · exact ⟨h, rfl⟩
  | confirmRebind slot source =>
      obtain rfl := Option.some.inj hStep
      split
      · exact ⟨h, rfl⟩
      · exact ⟨⟨h.blocked, h.inactive⟩, rfl⟩
  | read i =>
      obtain ⟨call, -, rfl⟩ := Option.map_eq_some_iff.mp hStep
      exact ⟨h, rfl⟩
  | finish i demote promote =>
      rw [FastPath.step] at hStep
      split at hStep
      · next caller endpoints hCall =>
          obtain rfl := Option.some.inj hStep
          cases caller with
          | promote bridgeId =>
              rw [locked, h.promoteWith]
              exact ⟨h, rfl⟩
          | confirmRebind slot =>
              rw [locked, h.confirmRebindWith]
              exact ⟨h, rfl⟩
      · cases hStep
  | checkRedirectHealth snapshot demote =>
      obtain rfl := Option.some.inj hStep
      rw [h.checkRedirectHealth]
      exact ⟨h, rfl⟩
  | block demote =>
      obtain rfl := Option.some.inj hStep
      exact h.block
  | stop remove =>
      obtain rfl := Option.some.inj hStep
      exact h.stop

end FastPath

/-- What a bridge has granted. -/
inductive Grant where
  | dtmf (ready : DtmfCapabilityReady)
  | aiTap
deriving DecidableEq

/-- An `enable_ai_tap` between its first step and its last. -/
inductive TapCall where
  | running
  | blocked
deriving DecidableEq

/-- A media bridge: its fast path, its leases and its AI tap. The flag that stops it is
`stopped`; `media` holds the leases and the direction's configurations. -/
structure CapableBridge where
  fastPath : FastPath
  media : CallMedia
  stopped : Bool := false
  acquiring : Option DtmfCapabilityLeaseRequest := none
  tapCalls : List TapCall := []
  aiTap : Bool := false
  granted : List Grant := []
deriving DecidableEq

inductive BridgeStep where
  /-- A step of `promote`, `confirm_rebind` or `check_redirect_health`. -/
  | fastPath (step : FastPathStep)
  /-- `acquire_dtmf_capability` has the turn and looks whether the bridge is stopped. -/
  | acquire (request : DtmfCapabilityLeaseRequest)
  /-- It goes on as far as its wait for the relay. -/
  | acquireLocked (demote : Except FastPathFailure FastPathStats)
  /-- The relays and the waiting lease operation go on, or a lease is released. -/
  | serve (step : MediaStep)
  | enableAiTap
  | blockForAiTap (call : Nat) (demote : Except FastPathFailure FastPathStats)
  | takeAiTap (call : Nat)
  | stop
  | stopFastPath (remove : Except FastPathFailure FastPathStats)
  | closeAiTap

def FastPathStep.isRuntimeCall : FastPathStep → Bool
  | .block _ | .stop _ => false
  | _ => true

/-- The steps that serve leases once they have been asked for. A release needs the turn. -/
def MediaStep.servesLeases (turnTaken : Bool) : MediaStep → Bool
  | .release _ => !turnTaken
  | .proceed | .timeOut | .applyConfig _ => true
  | _ => false

namespace CapableBridge

def acquireLocked (s : CapableBridge) (request : DtmfCapabilityLeaseRequest)
    (demote : Except FastPathFailure FastPathStats) : CapableBridge :=
  match (s.media.bridge.acquireDtmfCapability request (.ok ())).1 with
  | .returned (.ok ready) => { s with acquiring := none, granted := .dtmf ready :: s.granted }
  | .applies _ _ =>
    let blocked := s.fastPath.runtime.blockForUserspaceCapability demote
    { s with
      acquiring := none
      fastPath := { s.fastPath with runtime := blocked.2 }
      media := s.media.step (.acquire request
        (blocked.1.mapError fun error => (error.code, error.message))) }
  | _ => { s with acquiring := none }

/-- What a step of the lease operations grants: an acquisition returns when the relay has
applied its mode. -/
def grants (media : CallMedia) : MediaStep → List Grant
  | .proceed =>
    match media.operation with
    | some (.acquiring request _ generation) =>
      [.dtmf ⟨request.leaseId, request.sourceSessionId, request.mode, generation⟩]
    | _ => []
  | _ => []

def step (s : CapableBridge) : BridgeStep → Option CapableBridge
  | .fastPath step =>
    if step.isRuntimeCall then (s.fastPath.step step).map fun fastPath => { s with fastPath }
    else none
  | .acquire request =>
    if s.acquiring.isSome ∨ s.media.operation.isSome then none
    else some (if s.stopped then s else { s with acquiring := some request })
  | .acquireLocked demote => s.acquiring.map fun request => s.acquireLocked request demote
  | .serve step =>
    if step.servesLeases s.acquiring.isSome ∧ s.media.enabled step then
      some { s with media := s.media.step step, granted := grants s.media step ++ s.granted }
    else none
  | .enableAiTap => some (if s.stopped then s else { s with tapCalls := s.tapCalls ++ [.running] })
  | .blockForAiTap i demote =>
    match s.tapCalls[i]? with
    | some .running =>
      let blocked := s.fastPath.runtime.blockForUserspaceCapability demote
      some { s with
        fastPath := { s.fastPath with runtime := blocked.2 }
        tapCalls :=
          match blocked.1 with
          | .ok _ => s.tapCalls.set i .blocked
          | .error _ => s.tapCalls.eraseIdx i }
    | _ => none
  | .takeAiTap i =>
    match s.tapCalls[i]? with
    | some .blocked =>
      some
        (if s.aiTap then { s with tapCalls := s.tapCalls.eraseIdx i }
          else
            { s with
              tapCalls := s.tapCalls.eraseIdx i, aiTap := true, granted := .aiTap :: s.granted })
    | _ => none
  | .stop => some { s with stopped := true }
  | .stopFastPath remove =>
    if s.stopped then
      some { s with fastPath := { s.fastPath with runtime := s.fastPath.runtime.stop remove } }
    else none
  | .closeAiTap => if s.stopped then some { s with aiTap := false } else none

end CapableBridge

/-- A media bridge on which no capability has been asked for yet. -/
def capableBridge : System CapableBridge BridgeStep where
  init s :=
    ∃ path media, Media.fastPath.init path ∧ media.bridge.leases = .empty ∧
      media.bridge.stopped = false ∧ media.operation = none ∧ s = { fastPath := path, media }
  next s step t := s.step step = some t

namespace MediaBridge

variable {bridge : MediaBridge} {request : DtmfCapabilityLeaseRequest}
  {leaseId : MediaCapabilityLeaseId} {direction : DtmfRelayDirection}

/-- The bridge holds a lease, active or not. -/
def Leased (bridge : MediaBridge) : Prop := ∃ id lease, bridge.leases.get id = some lease

theorem leases_configure {f : ParserConfig → ParserConfig} :
    (bridge.configure direction f).leases = bridge.leases := by
  cases direction
  · rfl
  · rfl

theorem leased_of_releaseDrained (h : (bridge.releaseDrained leaseId direction).2.Leased) :
    bridge.Leased := by
  rw [releaseDrained] at h
  simp only at h
  split at h
  · next lease hLease =>
      rw [leases_configure] at hLease
      exact ⟨leaseId, lease, hLease⟩
  · rw [Leased, leases_configure] at h
    exact h

theorem leased_of_release (h : (bridge.releaseDtmfCapability leaseId).2.Leased) :
    bridge.Leased := by
  rw [releaseDtmfCapability] at h
  split at h
  · exact h
  · next existing hExisting => exact ⟨leaseId, existing, hExisting⟩

theorem leased_of_acquireTimedOut (h : (bridge.acquireTimedOut request direction).Leased) :
    bridge.Leased := by
  rw [acquireTimedOut, Leased, leases_configure] at h
  obtain ⟨id, lease, hLease⟩ := h
  rw [Table.get_remove] at hLease
  split at hLease
  · cases hLease
  · exact ⟨id, lease, hLease⟩

/-- An acquisition that returns at once has found its lease. -/
theorem leased_of_returned {ready : DtmfCapabilityReady}
    {block : Except (String × String) Unit}
    (h : (bridge.acquireDtmfCapability request block).1 = .returned (.ok ready)) :
    bridge.Leased := by
  rw [acquireDtmfCapability] at h
  split at h
  · cases h
  split at h
  · cases h
  split at h
  · cases h
  split at h
  · next existing hExisting => exact ⟨_, existing, hExisting⟩
  · simp only at h
    split at h
    · cases h
    split at h
    · cases h
    split at h
    · cases h
    · cases block with
      | error error => cases h
      | ok u => cases h

/-- An acquisition that cannot block the fast path leaves the bridge as it is. -/
theorem acquire_of_unblocked {error : String × String} :
    (bridge.acquireDtmfCapability request (.error error)).2 = bridge ∧
      ∀ direction generation,
        (bridge.acquireDtmfCapability request (.error error)).1 ≠ .applies direction
          generation := by
  rw [acquireDtmfCapability]
  split
  · exact ⟨rfl, fun _ _ h => by cases h⟩
  split
  · exact ⟨rfl, fun _ _ h => by cases h⟩
  split
  · exact ⟨rfl, fun _ _ h => by cases h⟩
  split
  · split
    · exact ⟨rfl, fun _ _ h => by cases h⟩
    split
    · exact ⟨rfl, fun _ _ h => by cases h⟩
    · exact ⟨rfl, fun _ _ h => by cases h⟩
  simp only
  split
  · exact ⟨rfl, fun _ _ h => by cases h⟩
  split
  · exact ⟨rfl, fun _ _ h => by cases h⟩
  split
  · exact ⟨rfl, fun _ _ h => by cases h⟩
  · exact ⟨rfl, fun _ _ h => by cases h⟩

end MediaBridge

namespace CallMedia

variable {media : CallMedia} {step : MediaStep} {turnTaken : Bool}

/-- A lease is held or about to be confirmed. -/
def Claimed (media : CallMedia) : Prop :=
  media.bridge.Leased ∨
    ∃ request direction generation, media.operation = some (.acquiring request direction generation)

/-- Serving leases claims nothing new. -/
theorem claimed_of_served (hStep : step.servesLeases turnTaken = true)
    (h : (media.step step).Claimed) : media.Claimed := by
  cases step with
  | release leaseId =>
      have hRelease := @MediaBridge.leased_of_release media.bridge leaseId
      simp only [CallMedia.step] at h
      split at h
      · next hOut =>
          rw [hOut] at hRelease
          rcases h with hLeased | ⟨_, _, _, hOperation⟩
          · exact .inl (hRelease hLeased)
          · cases hOperation
      · next hOut =>
          rw [hOut] at hRelease
          rcases h with hLeased | ⟨_, _, _, hOperation⟩
          · exact .inl (hRelease hLeased)
          · cases hOperation
      · next hOut =>
          rw [hOut] at hRelease
          rcases h with hLeased | hOperation
          · exact .inl (hRelease hLeased)
          · exact .inr hOperation
  | proceed =>
      simp only [CallMedia.step] at h
      split at h
      · next leaseId direction hOperation =>
          have hDrained := @MediaBridge.leased_of_releaseDrained media.bridge leaseId direction
          split at h
          · next hOut =>
              rw [hOut] at hDrained
              rcases h with hLeased | ⟨_, _, _, hOperation⟩
              · exact .inl (hDrained hLeased)
              · cases hOperation
          · next hOut =>
              rw [hOut] at hDrained
              rcases h with hLeased | ⟨_, _, _, hOperation⟩
              · exact .inl (hDrained hLeased)
              · cases hOperation
      · rcases h with hLeased | ⟨_, _, _, hOperation⟩
        · exact .inl hLeased
        · cases hOperation
  | timeOut =>
      simp only [CallMedia.step] at h
      split at h
      · rcases h with hLeased | ⟨_, _, _, hOperation⟩
        · exact .inl (MediaBridge.leased_of_acquireTimedOut hLeased)
        · cases hOperation
      · exact h
      · rcases h with hLeased | ⟨_, _, _, hOperation⟩
        · exact .inl hLeased
        · cases hOperation
  | applyConfig direction =>
      rcases h with ⟨id, lease, hLease⟩ | hOperation
      · left
        cases direction
        · exact ⟨id, lease, hLease⟩
        · exact ⟨id, lease, hLease⟩
      · exact .inr hOperation
  | _ => cases hStep

/-- An acquisition whose block fails claims nothing new. -/
theorem claimed_of_unblocked {request : DtmfCapabilityLeaseRequest} {error : String × String}
    (h : (media.step (.acquire request (.error error))).Claimed) : media.Claimed := by
  have hSame := @MediaBridge.acquire_of_unblocked media.bridge request error
  simp only [CallMedia.step] at h
  split at h
  · next hOut => exact (hSame.2 _ _ (by rw [hOut])).elim
  · next hOut =>
      rw [hOut] at hSame
      obtain ⟨rfl, -⟩ := hSame
      exact h

end CallMedia

namespace CapableBridge

variable {s t : CapableBridge} {step : BridgeStep}

/-- Whatever has claimed the media for user space has excluded the fast path. -/
structure Exclusive (s : CapableBridge) : Prop where
  bound : s.fastPath.runtime.Bound
  claimed : s.media.Claimed → s.fastPath.runtime.Excluded
  tapped : .blocked ∈ s.tapCalls → s.fastPath.runtime.Excluded
  granted : s.granted ≠ [] → s.fastPath.runtime.Excluded

theorem Exclusive.of_excluded (hBound : s.fastPath.runtime.Bound)
    (h : s.fastPath.runtime.Excluded) : s.Exclusive where
  bound := hBound
  claimed _ := h
  tapped _ := h
  granted _ := h

/-- A step that leaves what is excluded excluded, and claims nothing new. -/
theorem Exclusive.frame (h : s.Exclusive) (hBound : t.fastPath.runtime.Bound)
    (hKeeps : s.fastPath.runtime.Excluded → t.fastPath.runtime.Excluded)
    (hMedia : t.media.Claimed → s.media.Claimed)
    (hTaps : .blocked ∈ t.tapCalls → .blocked ∈ s.tapCalls)
    (hGranted : t.granted ≠ [] → s.granted ≠ [] ∨ s.media.Claimed ∨ .blocked ∈ s.tapCalls) :
    t.Exclusive where
  bound := hBound
  claimed hClaimed := hKeeps (h.claimed (hMedia hClaimed))
  tapped hTapped := hKeeps (h.tapped (hTaps hTapped))
  granted hGrants := by
    apply hKeeps
    rcases hGranted hGrants with hOld | hClaimed | hTapped
    · exact h.granted hOld
    · exact h.claimed hClaimed
    · exact h.tapped hTapped

theorem Exclusive.acquireLocked (h : s.Exclusive) (request : DtmfCapabilityLeaseRequest)
    (demote : Except FastPathFailure FastPathStats) :
    (s.acquireLocked request demote).Exclusive := by
  unfold CapableBridge.acquireLocked
  split
  · next hReturned =>
      exact h.frame h.bound id id id fun _ =>
        .inr (.inl (.inl (MediaBridge.leased_of_returned hReturned)))
  · have hBlocked := FastPathRuntime.blocks demote h.bound
    generalize s.fastPath.runtime.blockForUserspaceCapability demote = blocked at *
    obtain ⟨result, runtime⟩ := blocked
    cases result with
    | ok u => exact .of_excluded hBlocked.bound (hBlocked.excludes rfl)
    | error error =>
        exact h.frame hBlocked.bound hBlocked.keeps CallMedia.claimed_of_unblocked id .inl
  · exact h.frame h.bound id id id .inl

theorem claimed_of_grants {media : CallMedia} {step : MediaStep} (h : grants media step ≠ []) :
    media.Claimed := by
  cases step with
  | proceed =>
      rw [grants] at h
      split at h
      · next hOperation => exact .inr ⟨_, _, _, hOperation⟩
      · exact (h rfl).elim
  | _ => exact (h rfl).elim

/-- No step of the bridge, late ones of its fast path included, gives up an exclusion that is
claimed. -/
theorem Exclusive.next (h : s.Exclusive) (hStep : s.step step = some t) : t.Exclusive := by
  cases step with
  | fastPath step =>
      rw [CapableBridge.step] at hStep
      split at hStep
      · obtain ⟨path, hPath, rfl⟩ := Option.map_eq_some_iff.mp hStep
        exact h.frame (FastPath.bound_step hPath h.bound)
          (fun hExcluded => (FastPath.excluded_step hPath hExcluded).1) id id .inl
      · cases hStep
  | acquire request =>
      rw [CapableBridge.step] at hStep
      split at hStep
      · cases hStep
      · obtain rfl := Option.some.inj hStep
        split
        · exact h
        · exact h.frame h.bound id id id .inl
  | acquireLocked demote =>
      obtain ⟨request, -, rfl⟩ := Option.map_eq_some_iff.mp hStep
      exact h.acquireLocked request demote
  | serve step =>
      rw [CapableBridge.step] at hStep
      split at hStep
      · next hServed =>
          obtain rfl := Option.some.inj hStep
          refine h.frame h.bound id (CallMedia.claimed_of_served hServed.1) id ?_
          intro hGranted
          by_cases hGrants : grants s.media step = []
          · rw [hGrants] at hGranted
            exact .inl hGranted
          · exact .inr (.inl (claimed_of_grants hGrants))
      · cases hStep
  | enableAiTap =>
      obtain rfl := Option.some.inj hStep
      split
      · exact h
      · refine h.frame h.bound id id ?_ .inl
        intro hTapped
        rw [List.mem_append, List.mem_singleton] at hTapped
        rcases hTapped with hOld | hNew
        · exact hOld
        · cases hNew
  | blockForAiTap i demote =>
      rw [CapableBridge.step] at hStep
      split at hStep
      · obtain rfl := Option.some.inj hStep
        have hBlocked := FastPathRuntime.blocks demote h.bound
        generalize s.fastPath.runtime.blockForUserspaceCapability demote = blocked at *
        obtain ⟨result, runtime⟩ := blocked
        cases result with
        | ok u => exact .of_excluded hBlocked.bound (hBlocked.excludes rfl)
        | error error =>
            exact h.frame hBlocked.bound hBlocked.keeps id List.mem_of_mem_eraseIdx .inl
      · cases hStep
  | takeAiTap i =>
      rw [CapableBridge.step] at hStep
      split at hStep
      · next hTap =>
          obtain rfl := Option.some.inj hStep
          split
          · exact h.frame h.bound id id List.mem_of_mem_eraseIdx .inl
          · exact h.frame h.bound id id List.mem_of_mem_eraseIdx fun _ =>
              .inr (.inr (List.mem_of_getElem? hTap))
      · cases hStep
  | stop =>
      obtain rfl := Option.some.inj hStep
      exact h.frame h.bound id id id .inl
  | stopFastPath remove =>
      rw [CapableBridge.step] at hStep
      split at hStep
      · obtain rfl := Option.some.inj hStep
        exact h.frame (.of_inactive FastPathRuntime.stop_inactive)
          (fun hExcluded => hExcluded.stop.1) id id .inl
      · cases hStep
  | closeAiTap =>
      rw [CapableBridge.step] at hStep
      split at hStep
      · obtain rfl := Option.some.inj hStep
        exact h.frame h.bound id id id .inl
      · cases hStep

theorem Exclusive.of_init (h : capableBridge.init s) : s.Exclusive := by
  obtain ⟨path, media, ⟨sockets, available, endpoints, rfl⟩, hLeases, -, hOperation, rfl⟩ := h
  exact
    { bound := .of_inactive rfl
      claimed := by
        intro hClaimed
        rcases hClaimed with ⟨id, lease, hLease⟩ | ⟨_, _, _, hAcquiring⟩
        · rw [hLeases] at hLease
          cases hLease
        · rw [hOperation] at hAcquiring
          cases hAcquiring
      tapped := fun hTapped => (List.not_mem_nil hTapped).elim
      granted := fun hGranted => (hGranted rfl).elim }

theorem acquireLocked_fastPath (request : DtmfCapabilityLeaseRequest)
    (demote : Except FastPathFailure FastPathStats) :
    (s.acquireLocked request demote).fastPath = s.fastPath ∨
      s.fastPath.step (.block demote) = some (s.acquireLocked request demote).fastPath := by
  unfold CapableBridge.acquireLocked
  split
  · exact .inl rfl
  · exact .inr rfl
  · exact .inl rfl

/-- A step of the bridge takes at most one step of its fast path. -/
theorem fastPath_next (hStep : s.step step = some t) :
    t.fastPath = s.fastPath ∨ ∃ step, s.fastPath.step step = some t.fastPath := by
  cases step with
  | fastPath step =>
      rw [CapableBridge.step] at hStep
      split at hStep
      · obtain ⟨path, hPath, rfl⟩ := Option.map_eq_some_iff.mp hStep
        exact .inr ⟨step, hPath⟩
      · cases hStep
  | acquire request =>
      rw [CapableBridge.step] at hStep
      split at hStep
      · cases hStep
      · obtain rfl := Option.some.inj hStep
        split
        · exact .inl rfl
        · exact .inl rfl
  | acquireLocked demote =>
      obtain ⟨request, -, rfl⟩ := Option.map_eq_some_iff.mp hStep
      rcases acquireLocked_fastPath request demote with hSame | hBlock
      · exact .inl hSame
      · exact .inr ⟨.block demote, hBlock⟩
  | serve step =>
      rw [CapableBridge.step] at hStep
      split at hStep
      · obtain rfl := Option.some.inj hStep
        exact .inl rfl
      · cases hStep
  | enableAiTap =>
      obtain rfl := Option.some.inj hStep
      split
      · exact .inl rfl
      · exact .inl rfl
  | blockForAiTap i demote =>
      rw [CapableBridge.step] at hStep
      split at hStep
      · obtain rfl := Option.some.inj hStep
        exact .inr ⟨.block demote, rfl⟩
      · cases hStep
  | takeAiTap i =>
      rw [CapableBridge.step] at hStep
      split at hStep
      · obtain rfl := Option.some.inj hStep
        split
        · exact .inl rfl
        · exact .inl rfl
      · cases hStep
  | stop =>
      obtain rfl := Option.some.inj hStep
      exact .inl rfl
  | stopFastPath remove =>
      rw [CapableBridge.step] at hStep
      split at hStep
      · obtain rfl := Option.some.inj hStep
        exact .inr ⟨.stop remove, rfl⟩
      · cases hStep
  | closeAiTap =>
      rw [CapableBridge.step] at hStep
      split at hStep
      · obtain rfl := Option.some.inj hStep
        exact .inl rfl
      · cases hStep

/-- An excluded fast path stays excluded, and the controller is handed nothing. -/
theorem excluded_next (hStep : s.step step = some t) (h : s.fastPath.runtime.Excluded) :
    t.fastPath.runtime.Excluded ∧
      t.fastPath.runtime.promotions = s.fastPath.runtime.promotions := by
  rcases fastPath_next hStep with hSame | ⟨inner, hInner⟩
  · rw [hSame]
    exact ⟨h, rfl⟩
  · exact FastPath.excluded_step hInner h

end CapableBridge

/-- Once an acquisition or an AI tap has been granted, promotion is blocked and the fast path
is inactive in every later state, and no specification is handed to the controller. -/
theorem userspace_capability_excludes_fast_path {s t : CapableBridge}
    (h : Reachable capableBridge s) (hGranted : s.granted ≠ []) (run : Runs capableBridge s t) :
    t.fastPath.runtime.state.promotionBlocked = true ∧
      t.fastPath.runtime.state.activeGeneration = none ∧
      t.fastPath.runtime.promotions = s.fastPath.runtime.promotions := by
  have hExclusive : s.Exclusive :=
    h.invariant (fun _ => .of_init) fun _ _ _ hInvariant hNext => hInvariant.next hNext
  have hLater : t.fastPath.runtime.Excluded ∧
      t.fastPath.runtime.promotions = s.fastPath.runtime.promotions := by
    apply run.invariant (P := fun t => t.fastPath.runtime.Excluded ∧
      t.fastPath.runtime.promotions = s.fastPath.runtime.promotions)
    · exact ⟨hExclusive.granted hGranted, rfl⟩
    · intro u step v ⟨hExcluded, hSame⟩ _ hNext
      obtain ⟨hKept, hNone⟩ := CapableBridge.excluded_next hNext hExcluded
      exact ⟨hKept, hNone.trans hSame⟩
  exact ⟨hLater.1.blocked, hLater.1.inactive, hLater.2⟩

section Sample

/-- A bridge on which the caller has offered telephone events. -/
def sampleBridge : CapableBridge where
  fastPath :=
    { runtime :=
        { sockets := ⟨.v4 ⟨10, 0, 0, 1⟩, some 4000, some 4001, some 4002, some 4003⟩
          available := true
          endpoints :=
            ⟨.v4 ⟨10, 0, 0, 1⟩, some (.v4 ⟨⟨10, 0, 0, 2⟩, 5000⟩), some (.v4 ⟨⟨10, 0, 0, 2⟩, 5001⟩),
             some (.v4 ⟨⟨10, 0, 0, 3⟩, 6000⟩), some (.v4 ⟨⟨10, 0, 0, 3⟩, 6001⟩)⟩ } }
  media :=
    { bridge :=
        { MediaBridge.new (some ⟨101, 8000, [], true⟩) with
          dispatch := some ⟨"d", "c", "caller", "callee"⟩ } }

/-- The fast path is promoted, and then the caller's digits are asked for. -/
def promotedThenCollects : List BridgeStep :=
  [.fastPath (.promote "b"), .fastPath (.read 0), .fastPath (.read 0), .fastPath (.read 0),
   .fastPath (.read 0), .fastPath (.read 0), .fastPath (.finish 0 (.ok {}) (.ok ())),
   .acquire ⟨"lease", "agent", "caller", .collect, 0⟩, .acquireLocked (.ok {}),
   .serve (.applyConfig .callerToCallee), .serve .proceed]

/-- A promotion and a rebind that are in progress when the digits are granted. -/
def promotesLate : List BridgeStep :=
  [.fastPath (.confirmRebind .callerRtp (.v4 ⟨⟨10, 0, 0, 9⟩, 5000⟩)), .fastPath (.read 0),
   .fastPath (.read 0), .fastPath (.read 0), .fastPath (.read 0), .fastPath (.read 0),
   .fastPath (.finish 0 (.ok {}) (.ok ()))]

/-- The bridge after a schedule, if all of its steps can be taken. -/
def CapableBridge.after (s : CapableBridge) (schedule : List BridgeStep) : CapableBridge :=
  (schedule.foldlM CapableBridge.step s).getD s

theorem CapableBridge.runs_after {s : CapableBridge} {schedule : List BridgeStep}
    (h : (schedule.foldlM CapableBridge.step s).isSome) :
    Runs capableBridge s (s.after schedule) := by
  obtain ⟨t, hRun⟩ := Option.isSome_iff_exists.mp h
  rw [after, hRun]
  exact runsWithin_of_foldlM (fun _ _ _ hStep => ⟨trivial, hStep⟩) hRun

theorem sampleBridge_init : capableBridge.init sampleBridge :=
  ⟨_, _, ⟨_, _, _, rfl⟩, rfl, rfl, rfl, rfl⟩

theorem userspace_capability_excludes_late_promotion :
    let s := sampleBridge.after promotedThenCollects
    let t := s.after promotesLate
    t.fastPath.runtime.state.promotionBlocked = true ∧
      t.fastPath.runtime.state.activeGeneration = none ∧
      t.fastPath.runtime.promotions = s.fastPath.runtime.promotions :=
  userspace_capability_excludes_fast_path
    ⟨sampleBridge, sampleBridge_init, CapableBridge.runs_after (by decide)⟩
    (by decide) (CapableBridge.runs_after (by decide))

end Sample

end VoipSwitch.Media
