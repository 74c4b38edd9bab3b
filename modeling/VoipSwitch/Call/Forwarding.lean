import VoipSwitch.Call.Conformance
import VoipSwitch.Call.Desk
import VoipSwitch.Call.Operations
import VoipSwitch.Call.Replay

/-! The SIP INFO requests that the digits of a call make its coordinator submit. The digits of the
coordinator's own leg and those that the actors of the other legs pass on come in any order. -/
namespace VoipSwitch

open Stateful Keyed Proc

/-- The identity of a SIP INFO request. -/
def Entry.infoIdentity : Entry → Option ActionIdentity
  | .submitted action =>
    if action.identity.actionKind = .sendDtmfInfo then some action.identity else none
  | _ => none

/-- The digit that a message brings. -/
def ControlMessage.digit? : ControlMessage → Option DigitEvent
  | .mediaDtmfObserved event | .sipDtmfReceived event | .peerDigitEvent event => some event
  | _ => none

/-- The digit that the actor of another leg passes on. -/
def Coordinator.Input.peerDigit? : Coordinator.Input → Option DigitEvent
  | .control _ (.peerDigitEvent digit) => some digit
  | _ => none

/-- The dialog generation and the sequence number of the SIP INFO request that brought a digit. -/
def DtmfEventId.place : DtmfEventId → Option (Nat × Nat)
  | .sipInfo dialogGeneration _ cseq => some (dialogGeneration, cseq)
  | .rfc4733 _ _ _ _ _ => none

def infoActionId (callId : CallId) (dialogGeneration cseq : Nat) : String :=
  s!"dtmf-info-{callId}-{dialogGeneration}-{cseq}"

/-- The request of one call's digit names its place. -/
theorem infoActionId_inj {callId : CallId} {a b c d : Nat}
    (h : infoActionId callId a b = infoActionId callId c d) : a = c ∧ b = d := by
  have hChars (dialogGeneration cseq : Nat) : (infoActionId callId dialogGeneration cseq).toList =
      ("dtmf-info-" ++ callId ++ "-").toList ++
        (dialogGeneration.repr.toList ++ '-' :: cseq.repr.toList) := by
    simp [infoActionId, toString]
  have hLists := congrArg String.toList h
  rw [hChars, hChars] at hLists
  have hTail := List.append_cancel_left hLists
  have hParts := (List.append_cons_inj_of_notMem (dash_not_mem_repr a) (dash_not_mem_repr b)
    ).mp hTail
  have hRead : ∀ {m n : Nat}, m.repr.toList = n.repr.toList → m = n := by
    intro m n hDigits
    rw [Nat.toList_repr, Nat.toList_repr] at hDigits
    simpa using congrArg (fun digits => Nat.ofDigitChars 10 digits 0) hDigits
  exact ⟨hRead hParts.1, hRead hParts.2.2⟩

/-- A SIP INFO request that was submitted for a digit. -/
structure Relay where
  event : DigitEvent
  /-- The action generation of the coordinator when the digit came. -/
  generation : Nat
  identity : ActionIdentity

namespace Relay

/-- The request is the one that the call's coordinator makes for the digit. -/
def Made (callId : CallId) (relay : Relay) : Prop :=
  relay.identity.generation = relay.generation ∧
    ∃ dialogGeneration cseq,
      relay.event.eventId = .sipInfo dialogGeneration relay.event.sourceSessionId cseq ∧
      relay.identity.actionId = infoActionId callId dialogGeneration cseq

variable {callId : CallId} {r r' : Relay}

/-- Two requests of a call share their key if and only if the digits share generation and place. -/
theorem Made.key_eq_iff (h : r.Made callId) (h' : r'.Made callId) :
    r.identity.key = r'.identity.key ↔
      r.generation = r'.generation ∧ r.event.eventId.place = r'.event.eventId.place := by
  obtain ⟨hGeneration, a, b, hEvent, hAction⟩ := h
  obtain ⟨hGeneration', c, d, hEvent', hAction'⟩ := h'
  simp only [ActionIdentity.key, Prod.mk.injEq, hGeneration, hGeneration', hAction, hAction',
    hEvent, hEvent', DtmfEventId.place, Option.some.injEq]
  constructor
  · rintro ⟨hIds, hSame⟩
    exact ⟨hSame, infoActionId_inj hIds⟩
  · rintro ⟨hSame, rfl, rfl⟩
    exact ⟨rfl, hSame⟩

/-- Different digits of the same place come from different sessions. -/
theorem Made.eventId_eq_iff (h : r.Made callId) (h' : r'.Made callId) :
    r.event.eventId = r'.event.eventId ↔
      r.event.sourceSessionId = r'.event.sourceSessionId ∧
        r.event.eventId.place = r'.event.eventId.place := by
  obtain ⟨_, a, b, hEvent, _⟩ := h
  obtain ⟨_, c, d, hEvent', _⟩ := h'
  simp only [hEvent, hEvent', DtmfEventId.place, DtmfEventId.sipInfo.injEq, Option.some.injEq,
    Prod.mk.injEq]
  tauto

/-- The requests of different digits are told apart by their keys. -/
def Distinguishable (r r' : Relay) : Prop :=
  r.event.eventId ≠ r'.event.eventId → r.identity.key ≠ r'.identity.key

/-- Digits of different sessions do not share a place in one generation of actions. -/
def Apart (r r' : Relay) : Prop :=
  r.event.sourceSessionId ≠ r'.event.sourceSessionId → r.generation = r'.generation →
    r.event.eventId.place ≠ r'.event.eventId.place

instance decidableDistinguishable (r r' : Relay) : Decidable (r.Distinguishable r') :=
  inferInstanceAs (Decidable (_ → _))

instance decidableApart (r r' : Relay) : Decidable (r.Apart r') :=
  inferInstanceAs (Decidable (_ → _))

theorem Made.distinguishable_iff (h : r.Made callId) (h' : r'.Made callId) :
    r.Distinguishable r' ↔ r.Apart r' := by
  rw [Distinguishable, Apart, Ne, Ne, h.key_eq_iff h', h.eventId_eq_iff h']
  tauto

end Relay

namespace Coordinator

/-- The requests among the entries that were made since. -/
def newRelays (event : DigitEvent) (s t : Coordinator) : List Relay :=
  ((t.journal.take (t.journal.length - s.journal.length)).filterMap Entry.infoIdentity).map
    fun identity => { event, generation := s.actionGeneration, identity }

/-- The requests that the handler of an input submits for the digit that it brings. -/
def relays (env : Env) (s : Coordinator) : Input → List Relay
  | .control source message =>
    match message.digit? with
    | some event =>
      if s.finalizationStarted then []
      else newRelays event s ((dispatch source s message).final env s)
    | none => []
  | _ => []

section Requests

variable {env : Env} {s t : Coordinator} {event : DigitEvent}

/-- From `s` on nothing was submitted but, maybe, the request for a digit. -/
def Requested (event : DigitEvent) (s t : Coordinator) : Prop :=
  t.journal = s.journal ∨ ∃ action, t.journal = .submitted action :: s.journal ∧
    Relay.Made s.call.callId
      { event, generation := s.actionGeneration, identity := action.identity }

theorem Still.requested (h : Still s t) : Requested event s t := .inl h.journal

theorem Requested.of_still {u : Coordinator} (hStill : Still s t) (h : Requested event t u) :
    Requested event s u := by
  rw [Requested, hStill.journal, hStill.call, hStill.generation] at h
  exact h

/-- All requests that are new after a digit are the ones that it asks for. -/
theorem Requested.newRelays (h : Requested event s t) :
    ∀ r ∈ newRelays event s t, r.Made s.call.callId := by
  intro r hMem
  simp only [Coordinator.newRelays, List.mem_map] at hMem
  obtain ⟨identity, hNew, rfl⟩ := hMem
  rcases h with hNone | ⟨action, hOne, hMade⟩
  · simp [hNone] at hNew
  · simp [hOne, Entry.infoIdentity] at hNew
    rw [← hNew.2]
    exact hMade

theorem relayDigit_requested (peerSessionId : SessionId) (hEvent : event.identityIsConsistent) :
    Post (relayDigit event peerSessionId) env s (fun _ => Requested event s)
      (Requested event s) := by
  rw [relayDigit, post_bind, post_get]
  split
  · next dialogGeneration session cseq hId =>
      apply post_submitCaller
      · right
        refine ⟨_, rfl, rfl, dialogGeneration, cseq, ?_, rfl⟩
        have hSource : session = event.sourceSessionId := by
          rw [DigitEvent.identityIsConsistent, hId] at hEvent
          split at hEvent <;> simp_all
        rw [← hSource]
        exact hId
      · exact .inl rfl
  · exact .inl rfl

theorem routeDigit_requested (hEvent : event.identityIsConsistent) :
    Post (routeDigit event) env s (fun _ => Requested event s) (Requested event s) := by
  rw [routeDigit]
  apply (collectDigit_still event).post_bind
  intro consumed t hStill
  rw [post_ite]
  split
  · exact hStill.requested
  · rw [post_bind, post_get]
    simp only [post_bind, post_updateDtmf]
    split
    · rw [post_ite]
      split
      · apply (relayDigit_requested _ hEvent).mono
        · exact fun _ _ h => h.of_still (IsStill.trans _ _ _ hStill ⟨rfl, rfl, rfl, rfl, rfl⟩)
        · exact fun _ h => h.of_still (IsStill.trans _ _ _ hStill ⟨rfl, rfl, rfl, rfl, rfl⟩)
      · exact hStill.requested
    · exact hStill.requested

theorem handleSourceDigit_requested :
    Post (handleSourceDigit event) env s (fun _ => Requested event s) (Requested event s) := by
  rw [handleSourceDigit, post_bind, post_get, post_ite]
  split
  · exact .inl rfl
  · next hValid =>
      have hEvent : event.identityIsConsistent := by
        simp only [validSourceEvent, Bool.and_eq_true, not_not] at hValid
        exact hValid.1.1.1
      simp only [post_bind, post_updateDtmf, post_ite]
      split
      · apply (routeDigit_requested hEvent).mono
        · exact fun _ _ h => h.of_still ⟨rfl, rfl, rfl, rfl, rfl⟩
        · exact fun _ h => h.of_still ⟨rfl, rfl, rfl, rfl, rfl⟩
      · exact .inl rfl

theorem handlePeerDigit_requested (hEvent : event.identityIsConsistent) :
    Post (handlePeerDigit event) env s (fun _ => Requested event s) (Requested event s) := by
  rw [handlePeerDigit, post_bind, post_get, post_ite]
  split
  · exact .inl rfl
  · exact routeDigit_requested hEvent

/-- Every request that an input makes is the one of the digit that it brings. -/
theorem relays_made {input : Input}
    (hPeer : ∀ digit, input.peerDigit? = some digit → digit.identityIsConsistent) :
    ∀ r ∈ relays env s input, r.Made s.call.callId := by
  intro r hMem
  cases input with
  | control source message =>
      rw [relays] at hMem
      split at hMem
      · next event hDigit =>
          split at hMem
          · simp only [List.not_mem_nil] at hMem
          · have hRequested : Requested event s ((dispatch source s message).final env s) := by
              apply Post.final
              cases message with
              | mediaDtmfObserved digit =>
                  obtain rfl : digit = event := Option.some.inj hDigit
                  exact handleSourceDigit_requested
              | sipDtmfReceived digit =>
                  obtain rfl : digit = event := Option.some.inj hDigit
                  exact handleSourceDigit_requested
              | peerDigitEvent digit =>
                  obtain rfl : digit = event := Option.some.inj hDigit
                  exact handlePeerDigit_requested (hPeer digit rfl)
              | _ => cases hDigit
            exact hRequested.newRelays r hMem
      · simp only [List.not_mem_nil] at hMem
  | _ => simp only [relays, List.not_mem_nil] at hMem

end Requests

section Kept

variable {env : Env} {s : Coordinator}

/-- Moving a coordinator to another leg leaves its call's id and legs as they are. -/
theorem installOn_call {target : CalleeActorView} {committed : CoordinatorIdentity} :
    Post (installOn target committed) env s
      (fun _ t => t.call.callId = s.call.callId ∧ t.call.aggregate.legs = s.call.aggregate.legs)
      fun _ => False := by
  rw [installOn, post_bind, post_get]
  split
  · exact ⟨rfl, rfl⟩
  · simp only [post_bind, post_modify, post_ite]
    split
    · exact ⟨rfl, rfl⟩
    · apply post_attempt_of
      simp only [onCall, CallRuntime.onAggregate, post_focus]
      apply CallAggregate.handoffCoordinator_post.mono
      · rintro generation aggregate ⟨coordinator, coordinatorGeneration, rfl⟩
        rw [post_ite, post_modify]
        split <;> exact ⟨rfl, rfl⟩
      · rintro aggregate rfl error
        exact ⟨rfl, rfl⟩

/-- A coordinator stays with its call. -/
theorem step_callId (hLegs : s.call.aggregate.LegsFiled) (input : Input) :
    (step env input s).call.callId = s.call.callId ∧
      (step env input s).call.aggregate.LegsFiled := by
  have hOther (hInput : ∀ target committed, input ≠ .installHandoff target committed) :
      (step env input s).call.callId = s.call.callId ∧
        (step env input s).call.aggregate.LegsFiled := by
    have hSeated : (step env input s).Seated _ := step_seated hInput hLegs
    refine ⟨(congrArg Desk.callId hSeated.1).trans ?_, hSeated.2⟩
    unfold deskAfter
    split <;> rfl
  cases input with
  | installHandoff target committed =>
      have hInstalled : (step env (.installHandoff target committed) s).call.callId = _ ∧
          (step env (.installHandoff target committed) s).call.aggregate.legs = _ :=
        Post.final (installOn_call.mono (fun _ _ h => h) fun _ h => h.elim)
      exact ⟨hInstalled.1, hLegs.of_legs hInstalled.2⟩
  | _ => exact hOther fun _ _ h => Input.noConfusion h

end Kept

end Coordinator

/-- A call's coordinator with the source arbitration of the other legs. The digits that the legs
have passed on and that the coordinator has not taken yet are `posted`. -/
structure DigitWire where
  coordinator : Coordinator
  legs : OrdMap SessionId DtmfSourceState
  posted : List DigitEvent
  /-- The SIP INFO requests that were submitted for digits. -/
  relays : List Relay

namespace DigitWire

inductive Act where
  | coordinatorActs (env : Env) (input : Coordinator.Input)
  | coordinatorHears (env : Env) (source : Coordinator.ControlSource) (event : DigitEvent)
  | legStarts (sessionId : SessionId) (source : DtmfSourceState)
  | legTakes (sessionId : SessionId) (event : DigitEvent)

/-- The actor of another leg takes a digit, and passes it on if the arbitration lets it. -/
def legTakes (wire : DigitWire) (sessionId : SessionId) (event : DigitEvent) : DigitWire :=
  match wire.legs.lookup sessionId with
  | none => wire
  | some source =>
    if ¬ validSourceEvent event wire.coordinator.call.domainId wire.coordinator.call.callId
        sessionId then wire
    else
      { wire with
        legs := wire.legs.insert sessionId (source.accept event).2
        posted :=
          if (source.accept event).1 = .accepted then wire.posted ++ [event] else wire.posted }

/-- The coordinator handles an input. -/
def coordinatorActs (wire : DigitWire) (env : Env) (input : Coordinator.Input) : DigitWire :=
  { wire with
    coordinator := Coordinator.step env input wire.coordinator
    relays := wire.relays ++ Coordinator.relays env wire.coordinator input }

def step (wire : DigitWire) : Act → DigitWire
  | .coordinatorActs env input => wire.coordinatorActs env input
  | .coordinatorHears env source event =>
    coordinatorActs { wire with posted := wire.posted.erase event } env
      (.control source (.peerDigitEvent event))
  | .legStarts sessionId source => { wire with legs := wire.legs.insert sessionId source }
  | .legTakes sessionId event => wire.legTakes sessionId event

/-- Digits of the other legs reach the coordinator through their arbitration only. -/
def admissible (wire : DigitWire) : Act → Prop
  | .coordinatorActs _ input => wire.coordinator.admissible input ∧ input.peerDigit? = none
  | .coordinatorHears _ source event =>
    event ∈ wire.posted ∧ wire.coordinator.admissible (.control source (.peerDigitEvent event))
  | .legStarts _ _ | .legTakes _ _ => True

def system : Transition.System DigitWire Act where
  init wire := Coordinator.system.init wire.coordinator ∧ wire.legs = [] ∧ wire.posted = [] ∧
    wire.relays = []
  next wire act wire' := wire.admissible act ∧ wire' = wire.step act

/-- The digits under way are what their transports say, and every request was made for its digit. -/
structure Kept (wire : DigitWire) : Prop where
  legs : wire.coordinator.call.aggregate.LegsFiled
  posted : ∀ event ∈ wire.posted, event.identityIsConsistent
  relays : ∀ r ∈ wire.relays, r.Made wire.coordinator.call.callId

namespace Kept

variable {wire : DigitWire}

theorem init (h : system.init wire) : wire.Kept := by
  obtain ⟨⟨invitation, hCreate⟩, _, hPosted, hRelays⟩ := h
  constructor
  · exact (Coordinator.create_seated hCreate).2
  · simp [hPosted]
  · simp [hRelays]

theorem coordinatorActs (h : wire.Kept) (env : Env) {input : Coordinator.Input}
    (hPeer : ∀ digit, input.peerDigit? = some digit → digit.identityIsConsistent) :
    (wire.coordinatorActs env input).Kept := by
  obtain ⟨hCall, hLegs⟩ := @Coordinator.step_callId env wire.coordinator h.legs input
  constructor
  · exact hLegs
  · exact h.posted
  · intro r hMem
    show r.Made (Coordinator.step env input wire.coordinator).call.callId
    rw [hCall]
    rcases List.mem_append.mp hMem with hOld | hNew
    · exact h.relays r hOld
    · exact Coordinator.relays_made hPeer r hNew

theorem legTakes (h : wire.Kept) (sessionId : SessionId) (event : DigitEvent) :
    (wire.legTakes sessionId event).Kept := by
  rw [DigitWire.legTakes]
  split
  · exact h
  · split
    · exact h
    · next hValid =>
        have hEvent : event.identityIsConsistent := by
          simp only [validSourceEvent, Bool.and_eq_true, not_not] at hValid
          exact hValid.1.1.1
        refine ⟨h.legs, ?_, h.relays⟩
        intro other hMem
        split at hMem
        · rcases List.mem_append.mp hMem with hOld | hNew
          · exact h.posted other hOld
          · rw [List.mem_singleton.mp hNew]
            exact hEvent
        · exact h.posted other hMem

theorem step (h : wire.Kept) {act : Act} (hAdmissible : wire.admissible act) :
    (wire.step act).Kept := by
  cases act with
  | coordinatorActs env input =>
      apply h.coordinatorActs env
      intro digit hPeer
      rw [hAdmissible.2] at hPeer
      cases hPeer
  | coordinatorHears env source event =>
      have hTaken : Kept { wire with posted := wire.posted.erase event } :=
        ⟨h.legs, fun other hMem => h.posted other (List.mem_of_mem_erase hMem), h.relays⟩
      apply hTaken.coordinatorActs env
      intro digit hPeer
      rw [← Option.some.inj hPeer]
      exact h.posted event hAdmissible.1
  | legStarts sessionId source => exact ⟨h.legs, h.posted, h.relays⟩
  | legTakes sessionId event => exact h.legTakes sessionId event

theorem of_reachable (h : Transition.Reachable system wire) : wire.Kept := by
  apply h.invariant
  · exact fun _ hInit => init hInit
  · rintro wire act _ hKept ⟨hAdmissible, rfl⟩
    exact hKept.step hAdmissible

end Kept

/-- In every run, the requests of different digits differ in their keys if and only if no two
digits of different sessions had the same place while the generation of actions was the same. -/
theorem relays_distinguishable_iff {wire : DigitWire} (h : Transition.Reachable system wire) :
    wire.relays.Pairwise Relay.Distinguishable ↔ wire.relays.Pairwise Relay.Apart := by
  have hMade := (Kept.of_reachable h).relays
  constructor
  · intro hPairwise
    apply hPairwise.imp_of_mem
    intro r r' hMem hMem' hDistinguishable
    exact ((hMade r hMem).distinguishable_iff (hMade r' hMem')).mp hDistinguishable
  · intro hPairwise
    apply hPairwise.imp_of_mem
    intro r r' hMem hMem' hApart
    exact ((hMade r hMem).distinguishable_iff (hMade r' hMem')).mpr hApart

section Runs

open Coordinator (Invitation answeringSchedule callTo callerAck takingEnv)

instance decidableAllowed (wire : DigitWire) (act : Act) : Decidable (wire.admissible act) :=
  match act with
  | .coordinatorActs _ _ | .coordinatorHears _ _ _ => inferInstanceAs (Decidable (_ ∧ _))
  | .legStarts _ _ | .legTakes _ _ => inferInstanceAs (Decidable True)

/-- The state that a list of acts leads a new call to. -/
def schedule (invitation : Invitation) (acts : List Act) : Option DigitWire :=
  match Coordinator.create invitation with
  | .error _ => none
  | .ok s => Transition.follow (fun wire act => wire.admissible act) step acts
    { coordinator := s, legs := [], posted := [], relays := [] }

theorem reachable_of_schedule (P : DigitWire → Bool) (invitation : Invitation) (acts : List Act)
    (h : (schedule invitation acts).any P = true) :
    ∃ wire, Transition.Reachable system wire ∧ P wire = true := by
  rw [Option.any_eq_true] at h
  obtain ⟨wire, hRun, hP⟩ := h
  rw [schedule] at hRun
  split at hRun
  · cases hRun
  · next s hCreate =>
      refine ⟨wire, ⟨{ coordinator := s, legs := [], posted := [], relays := [] },
        ⟨⟨invitation, hCreate⟩, rfl, rfl, rfl⟩, ?_⟩, hP⟩
      apply Transition.follow_runsWithin _ hRun
      intro wire act hAllowed
      exact ⟨trivial, of_decide_eq_true hAllowed, rfl⟩

/-- A digit that a SIP INFO request of the first dialog generation brings. -/
def infoDigit (sourceSessionId : SessionId) (cseq : Nat) : DigitEvent where
  eventId := .sipInfo 1 sourceSessionId cseq
  domainId := "d"
  callId := "c"
  sourceSessionId := sourceSessionId
  sourceMediaLegId := none
  digit := .d5
  transport := .sipInfoDtmf
  durationMs := 160
  observedAtMs := 2000
  sourceGeneration := .dialog 1
  incompleteEnd := false

/-- On an answered call, the caller and the callee press one key each. -/
def pressedByBoth (callerCseq calleeCseq : Nat) : List Act :=
  (answeringSchedule ++ [(takingEnv, callerAck .answerInboundInvite "answer-c" 1)]).map
      (fun label => .coordinatorActs label.1 label.2) ++
    [.coordinatorActs takingEnv
        (.control .coordinator (.sipDtmfReceived (infoDigit "session-c-caller" callerCseq))),
      .legStarts "session-c-callee-attempt-1" {},
      .legTakes "session-c-callee-attempt-1" (infoDigit "session-c-callee-attempt-1" calleeCseq),
      .coordinatorHears takingEnv .coordinator (infoDigit "session-c-callee-attempt-1" calleeCseq)]

theorem relays_distinguishable_apart :
    ∃ wire : DigitWire, wire.relays.length = 2 ∧ wire.relays.Pairwise Relay.Distinguishable := by
  obtain ⟨wire, hReached, h⟩ := reachable_of_schedule
    (fun wire => wire.relays.length = 2 ∧ wire.relays.Pairwise Relay.Apart)
    (callTo (.trunk "peer:1") []) (pressedByBoth 7 8) (by decide)
  obtain ⟨hLength, hApart⟩ := of_decide_eq_true h
  exact ⟨wire, hLength, (relays_distinguishable_iff hReached).mpr hApart⟩

/-- The two parties number their requests on their own; with equal numbers the second request
carries the key of the first, and its result is not taken after that one's. -/
theorem relays_collide :
    ¬ ∀ wire : DigitWire, Transition.Reachable system wire →
      wire.relays.Pairwise Relay.Distinguishable := by
  intro hAll
  obtain ⟨wire, hReached, h⟩ := reachable_of_schedule
    (fun wire => ¬ wire.relays.Pairwise Relay.Distinguishable)
    (callTo (.trunk "peer:1") []) (pressedByBoth 7 7) (by decide)
  exact of_decide_eq_true h (hAll wire hReached)

end Runs

end DigitWire

end VoipSwitch
