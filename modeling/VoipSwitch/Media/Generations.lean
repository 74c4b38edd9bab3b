import VoipSwitch.Media.Capability

/-! Generations of the digit parsers. A direction's generations, from the one its source is
locked to over the digits in flight to the configuration last written, ascend as long as no
preparation falls behind the generations that mode changes have reached. -/
namespace VoipSwitch

open Transition

namespace DtmfSourceState

variable {state : DtmfSourceState} {event : DigitEvent}

theorem admitDigit_sourceLock : (state.admitDigit event).2.sourceLock = state.sourceLock := by
  rw [admitDigit]
  split <;> simp

theorem admitDigit_decision : (state.admitDigit event).1 ≠ .staleGeneration := by
  rw [admitDigit]
  split <;> simp

/-- An event leaves the lock as it is or moves it to its own generation. -/
theorem accept_sourceLock (state : DtmfSourceState) (event : DigitEvent) :
    (state.accept event).2.sourceLock = state.sourceLock ∨
      eventSourceLock event = some (state.accept event).2.sourceLock := by
  rw [accept]
  split
  · exact .inl rfl
  · split
    · exact .inl rfl
    · next lock hLock =>
        split
        · exact .inl rfl
        · split
          · right
            rw [admitDigit_sourceLock]
            exact hLock
          · right
            rw [admitDigit_sourceLock]
            exact hLock
          · left
            rw [admitDigit_sourceLock]
          · exact .inl rfl
          · exact .inl rfl

/-- Stale is what lies behind the lock. -/
theorem older_of_stale (h : (state.accept event).1 = .staleGeneration) :
    ∃ lock, eventSourceLock event = some lock ∧
      generationOrder state.sourceLock lock = .older := by
  rw [accept] at h
  split at h
  · simp at h
  · split at h
    · simp at h
    · next lock hLock =>
        split at h
        · simp at h
        · split at h
          · exact absurd h admitDigit_decision
          · exact absurd h admitDigit_decision
          · exact absurd h admitDigit_decision
          · simp at h
          · next hOlder => exact ⟨lock, hLock, hOlder⟩

end DtmfSourceState

/-- The media generation that a lock holds a source to. -/
def DtmfSourceLock.generations : DtmfSourceLock → List Nat
  | .rfc4733 generation => [generation]
  | _ => []

namespace Media

theorem eventSourceLock_digitEvent (bindings : DtmfDispatchBindings)
    (direction : DtmfRelayDirection) (completed : Rfc4733DigitCompleted) (now : Nat) :
    eventSourceLock (digitEvent bindings direction completed now) =
      some (.rfc4733 completed.generation) := rfl

theorem generations_of_otherTransport {event : DigitEvent} {lock : DtmfSourceLock}
    (hTransport : event.transport ≠ .rfc4733) (h : eventSourceLock event = some lock) :
    lock.generations = [] := by
  rw [eventSourceLock] at h
  split at h
  · contradiction
  · cases h
    rfl
  · cases h
    rfl
  · cases h

section Configurations

variable {bridge bridge' : MediaBridge} {direction : DtmfRelayDirection}
variable {generation : Option Nat} {request : DtmfCapabilityLeaseRequest}
variable {leaseId : MediaCapabilityLeaseId} {parsed : Except String (Option DtmfCapability)}

/-- What an operation of the media worker does to the relays: their parsers stay, and a
configuration's generation is the one prepared or, with none prepared, stays or counts one
mode change. -/
def Configures (generation : Option Nat) (bridge bridge' : MediaBridge) : Prop :=
  ∀ direction, (bridge'.relay direction).parser = (bridge.relay direction).parser ∧
    match generation with
    | some generation => (bridge'.relay direction).config.generation = generation
    | none =>
      (bridge'.relay direction).config.generation = (bridge.relay direction).config.generation ∨
        (bridge'.relay direction).config.generation =
          satSucc64 (bridge.relay direction).config.generation

theorem Configures.refl (bridge : MediaBridge) : Configures none bridge bridge :=
  fun _ => ⟨rfl, .inl rfl⟩

/-- The leases and the bindings are not the relays'. -/
theorem Configures.congr {bridge'' : MediaBridge} (h : Configures generation bridge bridge')
    (hRelay : bridge''.relay = bridge'.relay) : Configures generation bridge bridge'' := by
  intro direction
  rw [hRelay]
  exact h direction

theorem setDtmfMode_generation (current : ParserConfig) (mode : DtmfMediaMode) :
    (setDtmfMode current mode).generation = current.generation ∨
      (setDtmfMode current mode).generation = satSucc64 current.generation := by
  rw [setDtmfMode]
  split
  · exact .inl rfl
  · exact .inr rfl

namespace MediaBridge

@[simp] theorem relay_configure_self (f : ParserConfig → ParserConfig) :
    (bridge.configure direction f).relay direction =
      { bridge.relay direction with config := f (bridge.relay direction).config } := by
  cases direction <;> rfl

theorem relay_configure_of_ne {direction' : DtmfRelayDirection}
    (f : ParserConfig → ParserConfig) (h : direction' ≠ direction) :
    (bridge.configure direction f).relay direction' = bridge.relay direction' := by
  cases direction <;> cases direction' <;> first | rfl | exact absurd rfl h

/-- To set a mode is to write what `setDtmfMode` makes of the configuration. -/
theorem configure_mode {f : ParserConfig → ParserConfig} {mode : DtmfMediaMode}
    (h : f (bridge.relay direction).config = setDtmfMode (bridge.relay direction).config mode) :
    Configures none bridge (bridge.configure direction f) := by
  intro direction'
  by_cases hSame : direction' = direction
  · subst hSame
    simp [h, setDtmfMode_generation]
  · rw [relay_configure_of_ne _ hSame]
    exact ⟨rfl, .inl rfl⟩

theorem acquire_configures (bridge : MediaBridge) (request : DtmfCapabilityLeaseRequest)
    (block : Except (String × String) Unit) :
    Configures none bridge (bridge.acquireDtmfCapability request block).2 := by
  rw [acquireDtmfCapability]
  split
  · exact .refl bridge
  split
  · exact .refl bridge
  split
  · exact .refl bridge
  split
  · split
    · exact .refl bridge
    split
    · exact .refl bridge
    · exact .refl bridge
  simp only
  split
  · exact .refl bridge
  split
  · exact .refl bridge
  split
  · exact .refl bridge
  split
  · exact .refl bridge
  · exact (configure_mode rfl).congr rfl

theorem acquireTimedOut_configures :
    Configures none bridge (bridge.acquireTimedOut request direction) := by
  have hMode : Configures none { bridge with leases := bridge.leases.remove request.leaseId }
      (bridge.acquireTimedOut request direction) := configure_mode rfl
  exact hMode

theorem releaseDrained_configures (bridge : MediaBridge) (leaseId : MediaCapabilityLeaseId)
    (direction : DtmfRelayDirection) :
    Configures none bridge (bridge.releaseDrained leaseId direction).2 := by
  rw [releaseDrained]
  simp only
  split
  · exact (configure_mode rfl).congr rfl
  · exact configure_mode rfl

theorem release_configures (bridge : MediaBridge) (leaseId : MediaCapabilityLeaseId) :
    Configures none bridge (bridge.releaseDtmfCapability leaseId).2 := by
  rw [releaseDtmfCapability]
  split
  · exact .refl bridge
  · split
    · exact .refl bridge
    · simp only
      split
      · exact (Configures.refl bridge).congr rfl
      · exact releaseDrained_configures _ leaseId _

theorem prepareCallee_configures {telephoneEvent : Option DtmfCapability} {generation : Nat} :
    Configures (some generation) bridge
      (bridge.prepareCalleeSdp (.ok telephoneEvent) generation) := by
  intro direction
  cases direction <;> exact ⟨rfl, rfl⟩

theorem prepareCaller_configures {telephoneEvent : Option DtmfCapability} {generation : Nat}
    {updateCalleeRemote : Bool} :
    Configures (some generation) bridge
      (bridge.prepareCallerSdpInternal (.ok telephoneEvent) generation updateCalleeRemote) := by
  intro direction
  cases direction <;> exact ⟨rfl, rfl⟩

end MediaBridge

end Configurations

/-- The generation that a step writes into both configurations. -/
def MediaStep.prepared : MediaStep → Option Nat
  | .prepareCallee generation (.ok _) | .prepareCaller generation (.ok _)
  | .prepareAiAgent generation (.ok _) => some generation
  | _ => none

/-- The step is one of the media worker. -/
def MediaStep.isOperation : MediaStep → Bool
  | .prepareCallee _ _ | .prepareCaller _ _ | .prepareAiAgent _ _ => true
  | .acquire _ _ | .release _ | .proceed | .timeOut => true
  | _ => false

namespace CallMedia

/-- The step prepares with a generation that mode changes have overtaken. -/
def rewinds (s : CallMedia) (step : MediaStep) : Bool :=
  match step.prepared with
  | some generation =>
    generation < s.bridge.caller.config.generation ||
      generation < s.bridge.callee.config.generation
  | none => false

/-- A direction's generations in the order in which they reach its source. -/
def trail (s : CallMedia) (direction : DtmfRelayDirection) : List Nat :=
  (s.path direction).source.sourceLock.generations ++
    ((s.path direction).inFlight.map (·.generation) ++
      [(s.bridge.relay direction).parser.config.generation,
        (s.bridge.relay direction).config.generation])

structure Ascending (s : CallMedia) : Prop where
  trail : ∀ direction, (s.trail direction).Pairwise (· ≤ ·)
  bounded : ∀ direction, (s.bridge.relay direction).config.generation ≤ u64Max

end CallMedia

section Steps

variable {s t : CallMedia} {step : MediaStep} {direction direction' : DtmfRelayDirection}

open CallMedia

theorem relay_modifyRelay {bridge : MediaBridge} (f : DtmfRelay → DtmfRelay) :
    (bridge.modifyRelay direction f).relay direction' =
      if direction' = direction then f (bridge.relay direction') else bridge.relay direction' := by
  cases direction <;> cases direction' <;> rfl

theorem path_modifyPath (f : DigitPath → DigitPath) :
    (s.modifyPath direction f).path direction' =
      if direction' = direction then f (s.path direction') else s.path direction' := by
  cases direction <;> cases direction' <;> rfl

@[simp] theorem bridge_modifyPath (f : DigitPath → DigitPath) :
    (s.modifyPath direction f).bridge = s.bridge := by
  cases direction <;> rfl

@[simp] theorem path_of_bridge (bridge : MediaBridge) :
    ({ s with bridge } : CallMedia).path direction = s.path direction := by
  cases direction <;> rfl

/-- An operation configures the relays by what it has prepared, and leaves the fast path. -/
theorem operation_configures (h : step.isOperation = true) :
    Configures step.prepared s.bridge (s.step step).bridge ∧ (s.step step).path = s.path := by
  cases step with
  | prepareCallee generation parsed =>
      cases parsed with
      | error error => exact ⟨.refl _, rfl⟩
      | ok telephoneEvent => exact ⟨MediaBridge.prepareCallee_configures, rfl⟩
  | prepareCaller generation parsed =>
      cases parsed with
      | error error => exact ⟨.refl _, rfl⟩
      | ok telephoneEvent => exact ⟨MediaBridge.prepareCaller_configures, rfl⟩
  | prepareAiAgent generation parsed =>
      cases parsed with
      | error error => exact ⟨.refl _, rfl⟩
      | ok telephoneEvent => exact ⟨MediaBridge.prepareCaller_configures, rfl⟩
  | acquire request block =>
      have hAcquire := MediaBridge.acquire_configures s.bridge request block
      simp only [CallMedia.step]
      split
      · next hOut =>
          rw [hOut] at hAcquire
          exact ⟨hAcquire, rfl⟩
      · next hOut =>
          rw [hOut] at hAcquire
          exact ⟨hAcquire, rfl⟩
  | release leaseId =>
      have hRelease := MediaBridge.release_configures s.bridge leaseId
      simp only [CallMedia.step]
      split
      · next hOut =>
          rw [hOut] at hRelease
          exact ⟨hRelease, rfl⟩
      · next hOut =>
          rw [hOut] at hRelease
          exact ⟨hRelease, rfl⟩
      · next hOut =>
          rw [hOut] at hRelease
          exact ⟨hRelease, rfl⟩
  | proceed =>
      simp only [CallMedia.step]
      split
      · next leaseId direction hOperation =>
          have hDrained := MediaBridge.releaseDrained_configures s.bridge leaseId direction
          split
          · next hOut =>
              rw [hOut] at hDrained
              exact ⟨hDrained, rfl⟩
          · next hOut =>
              rw [hOut] at hDrained
              exact ⟨hDrained, rfl⟩
      · exact ⟨.refl _, rfl⟩
  | timeOut =>
      simp only [CallMedia.step]
      split
      · exact ⟨MediaBridge.acquireTimedOut_configures, rfl⟩
      · exact ⟨.refl _, rfl⟩
      · exact ⟨.refl _, rfl⟩
  | _ => cases h

theorem updateConfig_config (parser : Rfc4733Parser) (config : ParserConfig) :
    (parser.updateConfig config).config = config := by
  rw [Rfc4733Parser.updateConfig]
  split
  · rfl
  · next hSame => exact not_not.mp hSame

/-- Only the media worker writes configurations. -/
theorem config_step (h : step.isOperation = false) :
    ((s.step step).bridge.relay direction).config = (s.bridge.relay direction).config := by
  cases step with
  | applyConfig direction' => cases direction <;> cases direction' <;> rfl
  | packet direction' packet now visit => cases direction <;> cases direction' <;> rfl
  | expire direction' now visit => cases direction <;> cases direction' <;> rfl
  | lose direction' i => cases direction' <;> rfl
  | deliver direction' now =>
      simp only [CallMedia.step, CallMedia.deliver]
      split
      · rfl
      · split <;> rw [bridge_modifyPath]
  | sipInfo direction' event => cases direction' <;> rfl
  | bind bindings => cases direction <;> rfl
  | bindCallee sessionId => cases direction <;> rfl
  | stop => cases direction <;> rfl
  | _ => cases h

theorem prepared_of_not_operation (h : step.isOperation = false) : step.prepared = none := by
  cases step <;> first | rfl | cases h

theorem pairwise_concat_mono {xs : List Nat} {a b : Nat} (h : (xs ++ [a]).Pairwise (· ≤ ·))
    (hGrows : a ≤ b) : (xs ++ [b]).Pairwise (· ≤ ·) := by
  rw [List.pairwise_append] at h ⊢
  obtain ⟨hFirst, -, hLast⟩ := h
  refine ⟨hFirst, List.pairwise_singleton _ b, ?_⟩
  intro x hx y hy
  simp only [List.mem_singleton] at hy
  have hLe : x ≤ a := hLast x hx a (List.mem_singleton_self a)
  omega

theorem trail_split (xs ys : List Nat) (a b : Nat) :
    xs ++ (ys ++ [a, b]) = (xs ++ (ys ++ [a])) ++ [b] := by
  simp only [List.append_assoc, List.cons_append, List.nil_append]

/-- Copies of an element may stand before it. -/
theorem pairwise_copies {xs zs : List Nat} {a : Nat} (ys : List Nat)
    (h : (xs ++ (a :: zs)).Pairwise (· ≤ ·)) (hCopies : ∀ y ∈ ys, y = a) :
    (xs ++ (ys ++ (a :: zs))).Pairwise (· ≤ ·) := by
  induction ys with
  | nil => exact h
  | cons y ys ih =>
      obtain rfl : y = a := hCopies y List.mem_cons_self
      have hRest := ih fun z hz => hCopies z (List.mem_cons_of_mem y hz)
      rw [List.pairwise_append] at hRest ⊢
      obtain ⟨hFirst, hSecond, hAcross⟩ := hRest
      refine ⟨hFirst, ?_, ?_⟩
      · rw [List.cons_append, List.pairwise_cons]
        refine ⟨?_, hSecond⟩
        intro z hz
        rcases List.mem_append.mp hz with hCopy | hTail
        · exact le_of_eq (hCopies z (List.mem_cons_of_mem y hCopy)).symm
        · rcases List.mem_cons.mp hTail with rfl | hTail
          · exact le_refl z
          · have hOld := (List.pairwise_append.mp h).2.1
            exact (List.pairwise_cons.mp hOld).1 z hTail
      · intro x hx z hz
        rcases List.mem_cons.mp hz with rfl | hz
        · exact hAcross x hx z (List.mem_append_right ys List.mem_cons_self)
        · exact hAcross x hx z hz

theorem le_satSucc64 {n : Nat} (h : n ≤ u64Max) : n ≤ satSucc64 n ∧ satSucc64 n ≤ u64Max := by
  rw [satSucc64]
  omega

/-- What an operation leaves in a configuration is bounded and not below what was there,
unless it rewinds. -/
theorem grows_of_operation (h : s.Ascending) (hEnabled : s.enabled step = true)
    (hOperation : step.isOperation = true) (hForward : s.rewinds step = false) :
    (s.bridge.relay direction).config.generation ≤
        ((s.step step).bridge.relay direction).config.generation ∧
      ((s.step step).bridge.relay direction).config.generation ≤ u64Max := by
  have hBound : (s.bridge.relay direction).config.generation ≤ u64Max := h.bounded direction
  obtain ⟨-, hWritten⟩ := (operation_configures (s := s) hOperation).1 direction
  cases hPrepared : step.prepared with
  | none =>
      simp only [hPrepared] at hWritten
      have hSucc := le_satSucc64 hBound
      rcases hWritten with hSame | hCounted
      · omega
      · omega
  | some generation =>
      simp only [hPrepared] at hWritten
      simp only [rewinds, hPrepared, Bool.or_eq_false_iff, decide_eq_false_iff_not, not_lt]
        at hForward
      have hU64 : generation ≤ u64Max := by
        cases step with
        | prepareCallee g parsed =>
            cases parsed <;> cases hPrepared
            exact of_decide_eq_true (Bool.and_eq_true_iff.mp hEnabled).2
        | prepareCaller g parsed =>
            cases parsed <;> cases hPrepared
            exact of_decide_eq_true (Bool.and_eq_true_iff.mp hEnabled).2
        | prepareAiAgent g parsed =>
            cases parsed <;> cases hPrepared
            exact of_decide_eq_true (Bool.and_eq_true_iff.mp hEnabled).2
        | _ => cases hPrepared
      have hAhead : (s.bridge.relay direction).config.generation ≤ generation := by
        cases direction with
        | callerToCallee => exact hForward.1
        | calleeToCaller => exact hForward.2
      omega

theorem CallMedia.Ascending.operation (h : s.Ascending) (hEnabled : s.enabled step = true)
    (hOperation : step.isOperation = true) (hForward : s.rewinds step = false) :
    (s.step step).Ascending := by
  obtain ⟨hConfigures, hPath⟩ := operation_configures (s := s) hOperation
  constructor
  · intro direction
    have hOld := h.trail direction
    have hGrows : (s.bridge.relay direction).config.generation ≤
        ((s.step step).bridge.relay direction).config.generation :=
      (grows_of_operation h hEnabled hOperation hForward).1
    rw [CallMedia.trail, hPath, (hConfigures direction).1]
    rw [CallMedia.trail] at hOld
    rw [trail_split] at hOld ⊢
    exact pairwise_concat_mono hOld hGrows
  · intro direction
    exact (grows_of_operation h hEnabled hOperation hForward).2

/-- Steps other than the media worker's keep the trail's order if they only take
generations out of it. -/
theorem CallMedia.Ascending.other (h : s.Ascending) (hOperation : step.isOperation = false)
    (hTrail : ∀ direction, ((s.step step).trail direction).Pairwise (· ≤ ·)) :
    (s.step step).Ascending := by
  constructor
  · exact hTrail
  · intro direction
    rw [config_step hOperation]
    exact h.bounded direction

/-- A relay that has applied the configuration is no further behind than before. -/
theorem trail_applyConfig (h : (s.trail direction').Pairwise (· ≤ ·)) :
    ((s.step (.applyConfig direction)).trail direction').Pairwise (· ≤ ·) := by
  rw [trail] at h ⊢
  simp only [CallMedia.step, MediaBridge.applyConfig, relay_modifyRelay]
  split
  · rw [updateConfig_config]
    rw [trail_split] at h ⊢
    have hOwn : (s.bridge.relay direction').parser.config.generation ≤
        (s.bridge.relay direction').config.generation := by
      rw [List.pairwise_append] at h
      apply h.2.2
      · simp
      · simp
    have hFirst : (((s.path direction').source.sourceLock.generations ++
        ((s.path direction').inFlight.map (·.generation) ++
          [(s.bridge.relay direction').parser.config.generation]))).Pairwise (· ≤ ·) :=
      (List.pairwise_append.mp h).1
    rw [← List.append_assoc] at hFirst
    have hRaised := pairwise_concat_mono hFirst hOwn
    have hTwice := pairwise_copies [(s.bridge.relay direction').config.generation] hRaised
      fun _ hMem => List.mem_singleton.mp hMem
    simpa only [path_of_bridge, List.append_assoc, List.cons_append, List.nil_append] using hTwice
  · exact h

/-- A relay reports digits of its parser's generation. -/
theorem trail_observed {out : List ParserObservation × Rfc4733Parser}
    (hOut : Rfc4733Parser.Faithful (s.bridge.relay direction).parser.config out)
    (h : (s.trail direction').Pairwise (· ≤ ·)) :
    ((s.observed direction out).trail direction').Pairwise (· ≤ ·) := by
  rw [trail] at h ⊢
  rw [observed, path_modifyPath, bridge_modifyPath]
  simp only [relay_modifyRelay]
  split
  · next hSame =>
      subst hSame
      have hCopies : ∀ generation ∈ (completions out.1).map (·.generation),
          generation = (s.bridge.relay direction').parser.config.generation := by
        intro generation hMem
        obtain ⟨digit, hDigit, rfl⟩ := List.mem_map.mp hMem
        rw [completions, List.mem_filterMap] at hDigit
        obtain ⟨observation, hObserved, hCompleted⟩ := hDigit
        cases observation with
        | completed _ =>
            cases hCompleted
            exact hOut.generation_eq digit hObserved
        | invalid => cases hCompleted
      rw [← List.append_assoc] at h
      have hMore := pairwise_copies _ h hCopies
      simpa only [path_of_bridge, List.map_append, List.append_assoc, hOut.config_eq] using hMore
  · exact h

/-- A digit that is delivered takes a generation out of the trail. -/
theorem trail_deliver (now : Nat) :
    ((s.deliver direction now).trail direction').Sublist (s.trail direction') := by
  rw [CallMedia.deliver]
  split
  · exact .refl _
  · next completed rest hFlight =>
      split
      · rw [trail, trail, path_modifyPath, bridge_modifyPath]
        split
        · next hSame =>
            subst hSame
            rw [hFlight]
            apply List.Sublist.append_left
            simp
        · exact .refl _
      · next decision source hDecision =>
          rw [trail, trail, path_modifyPath, bridge_modifyPath]
          split
          · next hSame =>
              subst hSame
              rw [hFlight]
              rw [CallMedia.decision] at hDecision
              obtain ⟨bindings, -, hAccept⟩ := Option.map_eq_some_iff.mp hDecision
              have hLock := DtmfSourceState.accept_sourceLock (s.path direction').source
                (digitEvent bindings direction' completed now)
              rw [hAccept, eventSourceLock_digitEvent] at hLock
              rcases hLock with hKept | hMoved
              · simp only at hKept
                rw [hKept]
                apply List.Sublist.append_left
                simp
              · have hMovedTo : source.sourceLock = .rfc4733 completed.generation :=
                  (Option.some.inj hMoved).symm
                rw [hMovedTo]
                apply List.sublist_append_right
          · exact .refl _

/-- Digits of other transports lock a source to no media generation. -/
theorem trail_sipInfo {event : DigitEvent} (hTransport : event.transport ≠ .rfc4733) :
    ((s.step (.sipInfo direction event)).trail direction').Sublist (s.trail direction') := by
  rw [trail, trail]
  simp only [CallMedia.step, path_modifyPath, bridge_modifyPath]
  split
  · apply List.Sublist.append_right
    rcases DtmfSourceState.accept_sourceLock (s.path direction').source event with hKept | hMoved
    · rw [hKept]
    · rw [generations_of_otherTransport hTransport hMoved]
      exact List.nil_sublist _
  · exact .refl _

theorem CallMedia.Ascending.next (h : s.Ascending) (hEnabled : s.enabled step = true)
    (hForward : s.rewinds step = false) : (s.step step).Ascending := by
  cases hOperation : step.isOperation with
  | true => exact h.operation hEnabled hOperation hForward
  | false =>
      apply h.other hOperation
      intro direction'
      have hOld := h.trail direction'
      cases step with
      | applyConfig direction => exact trail_applyConfig hOld
      | packet direction packet now visit =>
          exact trail_observed Rfc4733Parser.observePacket_faithful hOld
      | expire direction now visit => exact trail_observed Rfc4733Parser.expire_faithful hOld
      | lose direction i =>
          apply List.Pairwise.sublist _ hOld
          rw [CallMedia.trail, CallMedia.trail]
          simp only [CallMedia.step, path_modifyPath, bridge_modifyPath]
          split
          · apply List.Sublist.append_left
            apply List.Sublist.append_right
            exact (List.eraseIdx_sublist _ i).map _
          · exact .refl _
      | deliver direction now => exact List.Pairwise.sublist (trail_deliver now) hOld
      | sipInfo direction event =>
          exact List.Pairwise.sublist (trail_sipInfo (of_decide_eq_true hEnabled)) hOld
      | bind bindings => exact hOld
      | bindCallee sessionId =>
          apply List.Pairwise.sublist _ hOld
          cases direction' with
          | callerToCallee => exact .refl _
          | calleeToCaller => exact List.sublist_append_right _ _
      | stop => exact hOld
      | _ => cases hOperation

theorem CallMedia.Ascending.of_init (h : callMedia.init s) : s.Ascending := by
  obtain ⟨offered, rfl⟩ := h
  constructor
  · intro direction
    cases direction <;> simp [CallMedia.trail, MediaBridge.new, MediaBridge.relay, CallMedia.path,
      DtmfSourceLock.generations, ParserConfig.transparent, ParserConfig.disabled]
  · intro direction
    cases direction <;> simp [MediaBridge.new, MediaBridge.relay, ParserConfig.transparent,
      ParserConfig.disabled]

theorem ascending_of_reachable
    (h : ReachableWithin callMedia (fun s step => s.rewinds step = false) s) : s.Ascending := by
  apply h.invariant
  · intro s hInit
    exact .of_init hInit
  · rintro s step t hs hForward ⟨hEnabled, rfl⟩
    exact hs.next hEnabled hForward

/-- A source behind a digit does not find it stale. -/
theorem decision_of_le {completed : Rfc4733DigitCompleted} {now : Nat}
    {decision : DtmfSourceDecision} {source : DtmfSourceState}
    (hLock : ∀ generation ∈ (s.path direction).source.sourceLock.generations,
      generation ≤ completed.generation)
    (h : s.decision direction completed now = some (decision, source)) :
    decision ≠ .staleGeneration := by
  rintro rfl
  obtain ⟨bindings, -, hAccept⟩ := Option.map_eq_some_iff.mp h
  obtain ⟨lock, hOwn, hOlder⟩ :=
    @DtmfSourceState.older_of_stale (s.path direction).source _ (by rw [hAccept])
  rw [eventSourceLock_digitEvent] at hOwn
  cases hOwn
  cases hCurrent : (s.path direction).source.sourceLock with
  | unset =>
      rw [hCurrent] at hOlder
      cases hOlder
  | sipInfo dialogGeneration =>
      rw [hCurrent] at hOlder
      cases hOlder
  | rfc4733 generation =>
      have hLe : generation ≤ completed.generation := by
        apply hLock
        simp [hCurrent, DtmfSourceLock.generations]
      rw [hCurrent, generationOrder, compareGeneration, if_neg (by omega)] at hOlder
      split at hOlder <;> cases hOlder

/-- The digits that the current parser of a direction could complete next. -/
def CallMedia.completes (s : CallMedia) (direction : DtmfRelayDirection)
    (completed : Rfc4733DigitCompleted) : Prop :=
  ∃ now visit, (∃ packet, .completed completed ∈
      ((s.bridge.relay direction).parser.observePacket visit packet now).1) ∨
    .completed completed ∈ ((s.bridge.relay direction).parser.expire visit now).1

/-- As long as no preparation falls behind the generations that mode changes have reached,
the generations of both directions grow at every step that does not fall behind either, and
no digit in flight or of the current parser is stale to its source. -/
theorem generations_ascend
    (h : ReachableWithin callMedia (fun s step => s.rewinds step = false) s) :
    (∀ step t, callMedia.next s step t →
      ((∀ direction, (s.bridge.relay direction).config.generation ≤
        (t.bridge.relay direction).config.generation) ↔ s.rewinds step = false)) ∧
    ∀ direction completed now decision source,
      completed ∈ (s.path direction).inFlight ∨ s.completes direction completed →
      s.decision direction completed now = some (decision, source) →
      decision ≠ .staleGeneration := by
  have hAscending : s.Ascending := ascending_of_reachable h
  constructor
  · rintro step t ⟨hEnabled, rfl⟩
    cases hOperation : step.isOperation with
    | false =>
        have hPrepared := prepared_of_not_operation hOperation
        simp [config_step hOperation, rewinds, hPrepared]
    | true =>
        constructor
        · intro hGrows
          by_contra hRewinds
          obtain ⟨hConfigures, -⟩ := operation_configures (s := s) hOperation
          cases hPrepared : step.prepared with
          | none => simp [rewinds, hPrepared] at hRewinds
          | some generation =>
              have hCaller := (hConfigures .callerToCallee).2
              have hCallee := (hConfigures .calleeToCaller).2
              simp only [hPrepared] at hCaller hCallee
              have hCallerGrows := hGrows .callerToCallee
              have hCalleeGrows := hGrows .calleeToCaller
              rw [hCaller] at hCallerGrows
              rw [hCallee] at hCalleeGrows
              simp only [MediaBridge.relay] at hCallerGrows hCalleeGrows
              simp only [rewinds, hPrepared, Bool.not_eq_false, Bool.or_eq_true,
                decide_eq_true_eq] at hRewinds
              omega
        · intro hForward direction
          exact (grows_of_operation hAscending hEnabled hOperation hForward).1
  · intro direction completed now decision source hDigit
    have hTrail := hAscending.trail direction
    rw [trail, List.pairwise_append] at hTrail
    apply decision_of_le
    intro generation hLock
    apply hTrail.2.2 generation hLock
    rcases hDigit with hFlight | ⟨now, visit, ⟨packet, hCompleted⟩ | hCompleted⟩
    · apply List.mem_append_left
      exact List.mem_map_of_mem hFlight
    · rw [Rfc4733Parser.observePacket_faithful.generation_eq completed hCompleted]
      simp
    · rw [Rfc4733Parser.expire_faithful.generation_eq completed hCompleted]
      simp

/-- The caller's telephone events in the samples. -/
def sampleEvents : DtmfCapability where
  payloadType := 101
  clockRate := 8000
  events := [5]
  detectable := true

def sampleBindings : DtmfDispatchBindings := ⟨"d", "c", "caller", "callee"⟩

/-- A collector's request for the digits of the caller. -/
def collectRequest (leaseId : String) : DtmfCapabilityLeaseRequest :=
  ⟨leaseId, "op", "caller", .collect, 0⟩

/-- The last packet of a press of the digit five. -/
def sampleDigit : MediaStep :=
  .packet .callerToCallee [0x80, 101, 0, 3, 0, 0, 0, 42, 0, 0, 0, 7, 5, 0x80, 0, 240] 0 id

/-- A collection from the acquisition of its lease to the first digit. -/
def collects (leaseId : String) : List MediaStep :=
  [.acquire (collectRequest leaseId) (.ok ()), .applyConfig .callerToCallee, .proceed, sampleDigit]

/-- Its end with that digit. -/
def releases (leaseId : String) : List MediaStep :=
  [.deliver .callerToCallee 0, .release leaseId, .proceed, .applyConfig .callerToCallee, .proceed]

def sampleMedia : CallMedia := { bridge := .new (some sampleEvents) }

/-- The preparation of an answer. -/
def answered (generation : Nat) : MediaStep := .prepareCaller generation (.ok (some sampleEvents))

def twoCollections : List MediaStep :=
  [.bind sampleBindings, .prepareCallee 1 (.ok (some sampleEvents))] ++
    collects "l" ++ releases "l" ++ collects "m" ++ releases "m"

/-- A third collection has a digit in flight, and an answer of its generation is prepared. -/
theorem generations_ascend_collecting :
    ∃ s, ReachableWithin callMedia (fun s step => s.rewinds step = false) s ∧
      s.bridge.caller.config.generation = 6 ∧
      (∀ direction, (s.bridge.relay direction).config.generation ≤
        ((s.step (answered 6)).bridge.relay direction).config.generation) ∧
      ∃ completed ∈ s.caller.inFlight, ∃ decision source,
        s.decision .callerToCallee completed 0 = some (decision, source) ∧
          decision ≠ .staleGeneration := by
  have hRun : ((follow (fun s step => s.enabled step && !s.rewinds step) CallMedia.step
      (twoCollections ++ collects "n") sampleMedia).any fun s =>
      decide (s.bridge.caller.config.generation = 6) && s.enabled (answered 6) &&
        !s.rewinds (answered 6) && s.caller.inFlight.any fun completed =>
          (s.decision .callerToCallee completed 0).isSome) = true := by
    decide
  obtain ⟨s, hs, hHolds⟩ := (Option.any_eq_true ..).mp hRun
  simp only [Bool.and_eq_true, Bool.not_eq_true', decide_eq_true_eq] at hHolds
  obtain ⟨⟨⟨hGeneration, hEnabled⟩, hForward⟩, hDigits⟩ := hHolds
  obtain ⟨completed, hFlight, hSome⟩ := List.any_eq_true.mp hDigits
  obtain ⟨⟨decision, source⟩, hDecision⟩ := Option.isSome_iff_exists.mp hSome
  have hReachable : ReachableWithin callMedia (fun s step => s.rewinds step = false) s := by
    refine ⟨sampleMedia, ⟨_, rfl⟩, follow_runsWithin ?_ hs⟩
    intro s step hAllowed
    rw [Bool.and_eq_true, Bool.not_eq_true'] at hAllowed
    exact ⟨hAllowed.2, hAllowed.1, rfl⟩
  have hAscends := generations_ascend hReachable
  exact ⟨s, hReachable, hGeneration, (hAscends.1 (answered 6) _ ⟨hEnabled, rfl⟩).mpr hForward,
    completed, hFlight, decision, source, hDecision,
    hAscends.2 .callerToCallee completed 0 decision source (.inl hFlight) hDecision⟩

/-- Two collections leave the parser at generation five. The answer's preparation takes it
back to two, and the digits of the next collection are stale to the caller's session. -/
theorem generation_rewound :
    ∃ s t u, Reachable callMedia s ∧
      callMedia.next s (answered 2) t ∧
      t.bridge.caller.config.generation < s.bridge.caller.config.generation ∧
      Runs callMedia t u ∧
      ∃ completed ∈ u.caller.inFlight,
        completed.generation = u.bridge.caller.parser.config.generation ∧
        (u.decision .callerToCallee completed 0).map Prod.fst = some .staleGeneration := by
  have hRun : ((follow CallMedia.enabled CallMedia.step twoCollections sampleMedia).any fun s =>
      s.enabled (answered 2) &&
        decide ((s.step (answered 2)).bridge.caller.config.generation <
          s.bridge.caller.config.generation) &&
        (follow CallMedia.enabled CallMedia.step (collects "n") (s.step (answered 2))).any fun u =>
          u.caller.inFlight.any fun completed =>
            decide (completed.generation = u.bridge.caller.parser.config.generation) &&
              decide ((u.decision .callerToCallee completed 0).map Prod.fst =
                some .staleGeneration)) = true := by
    decide
  obtain ⟨s, hs, hHolds⟩ := (Option.any_eq_true ..).mp hRun
  simp only [Bool.and_eq_true, decide_eq_true_eq] at hHolds
  obtain ⟨⟨hEnabled, hFalls⟩, hRest⟩ := hHolds
  obtain ⟨u, hu, hDigits⟩ := (Option.any_eq_true ..).mp hRest
  obtain ⟨completed, hFlight, hStale⟩ := List.any_eq_true.mp hDigits
  simp only [Bool.and_eq_true, decide_eq_true_eq] at hStale
  have hAllowed : ∀ s step, CallMedia.enabled s step = true →
      True ∧ callMedia.next s step (s.step step) := fun _ _ h => ⟨trivial, h, rfl⟩
  refine ⟨s, s.step (answered 2), u, ⟨sampleMedia, ⟨_, rfl⟩, ?_⟩, ⟨hEnabled, rfl⟩,
    hFalls, ?_, completed,
    hFlight, hStale⟩
  · exact follow_runsWithin hAllowed hs
  · exact follow_runsWithin hAllowed hu

end Steps

end Media

end VoipSwitch
