import VoipSwitch.Call.Arming

/-! What a coordinator remembers of the actions that were answered: the keys that are spent and
the replays that it reported. Most handlers leave both alone, the timer of the digit collectors
armed and the actor started. -/
namespace VoipSwitch

open Stateful Keyed Document Proc

/-- The replay that an entry reports as a success. -/
def Entry.replay? : Entry → Option ActionResult
  | .aiResult result =>
    if result.success ∧ result.code = "IDEMPOTENT_REPLAY" then some result else none
  | _ => none

namespace Coordinator

/-- The replays that were reported as a success, the last one first. -/
def replays (s : Coordinator) : List ActionResult := s.journal.filterMap Entry.replay?

/-- The actions that are spent, and the replays that were reported. -/
def record (s : Coordinator) : List (String × Nat) × List ActionResult :=
  (s.completedActions, s.replays)

/-- From `s` to `t` no action was spent and no replay reported. The timer of the collectors is armed
and the actor started if they were. -/
structure Untouched (s t : Coordinator) : Prop where
  record : t.record = s.record
  armed : s.Armed → t.Armed
  started : s.actorStarted = true → t.actorStarted = true

theorem Untouched.refl (s : Coordinator) : Untouched s s := ⟨rfl, id, id⟩

theorem Untouched.trans (s t u : Coordinator) (first : Untouched s t) (second : Untouched t u) :
    Untouched s u :=
  ⟨second.record.trans first.record, second.armed ∘ first.armed, second.started ∘ first.started⟩

/-- The procedure neither spends an action nor reports a replay, and arms the timer of the
collectors anew where it changes their deadlines. -/
def Spares {α : Type} (m : Handler α) : Prop := Within Untouched (fun _ => Untouched) m

section Rules

variable {α β : Type}

@[grind ←] theorem Spares.pure (a : α) : Spares (pure a : Handler α) :=
  Within.pure Untouched.refl a

@[grind ←] theorem Spares.fail (error : Error) : Spares (Proc.fail error : Handler α) :=
  Within.fail (fun _ => Untouched.refl) error

@[grind ←] theorem Spares.get : Spares (Proc.get : Handler Coordinator) :=
  Within.get Untouched.refl

@[grind ←] theorem Spares.read : Spares (Proc.read : Handler Env) :=
  Within.read Untouched.refl

@[grind ←] theorem Spares.modify {f : Coordinator → Coordinator}
    (h : ∀ s, (f s).completedActions = s.completedActions ∧ (f s).journal = s.journal ∧
      (f s).dtmf = s.dtmf ∧ (s.actorStarted = true → (f s).actorStarted = true)) :
    Spares (Proc.modify f : Handler Unit) := by
  apply Within.modify
  intro s
  obtain ⟨hCompleted, hJournal, hDtmf, hStarted⟩ := h s
  constructor
  · exact Prod.ext hCompleted (congrArg (List.filterMap Entry.replay?) hJournal)
  · rw [Armed, Armed, hDtmf]
    exact id
  · exact hStarted

@[grind ←] theorem Spares.bind {m : Handler β} {f : β → Handler α} (hm : Spares m)
    (hf : ∀ b, Spares (f b)) : Spares (m >>= f) :=
  Within.bind Untouched.trans (fun _ => Untouched.trans) hm hf

/-- The rule for a step without a result. -/
@[grind ←] theorem Spares.seq {m : Handler Unit} {f : Unit → Handler α} (hm : Spares m)
    (hf : Spares (f ())) : Spares (m >>= f) := hm.bind fun _ => hf

@[grind ←] theorem Spares.when {c : Prop} [Decidable c] {m : Handler Unit} (hm : Spares m) :
    Spares (when c m) := Within.when Untouched.refl hm

@[grind ←] theorem Spares.whenSome {value : Option β} {f : β → Handler Unit}
    (hf : ∀ b, Spares (f b)) : Spares (whenSome value f) := Within.whenSome Untouched.refl hf

@[grind ←] theorem Spares.attempt {m : Handler α} (hm : Spares m) : Spares (attempt m) := by
  intro env s
  apply post_attempt_of
  exact (hm env s).mono (fun _ _ h => h) fun _ h _ => h

@[grind ←] theorem Spares.ofExcept (result : Except Error α) :
    Spares (CallRuntime.ofExcept result : Handler α) := by
  cases result with
  | ok a => exact .pure a
  | error error => exact .fail error

/-- What the runtime of the call does is no business of the coordinator's journal. -/
@[grind ←] theorem Spares.onCall (m : CallRuntime.Op α) : Spares (onCall m) := by
  intro env s
  unfold Coordinator.onCall
  rw [post_focus]
  exact Post.of_final ⟨rfl, id, id⟩

@[grind ←] theorem Spares.updateCall {f : CallRuntime → CallRuntime} : Spares (updateCall f) :=
  fun _ _ => ⟨rfl, id, id⟩

/-- A handler of the digits submits and answers nothing. -/
theorem Spares.of_still {m : Handler α} (hStill : IsStill m) (hArmed : KeepsArmed m) :
    Spares m := by
  intro env s
  have hSpared := hStill env s
  have hKept := hArmed env s
  rw [Post] at hSpared hKept ⊢
  rcases hRun : m env s with ⟨result, t⟩
  rw [hRun] at hSpared hKept
  cases result with
  | ok a =>
      refine ⟨Prod.ext hSpared.completed ?_, hKept, hSpared.started.trans⟩
      exact congrArg (List.filterMap Entry.replay?) hSpared.journal
  | error error => exact hSpared.elim

theorem Spares.record {m : Handler α} (hm : Spares m) (env : Env) (s : Coordinator) :
    Post m env s (fun _ t => t.record = s.record) fun t => t.record = s.record :=
  (hm env s).mono (fun _ _ h => h.record) fun _ h => h.record

theorem Spares.keepsStarted {m : Handler α} (hm : Spares m) (env : Env) :
    Keeps env (·.actorStarted = true) (·.actorStarted = true) m := fun s hStarted =>
  (hm env s).mono (fun _ _ h => h.started hStarted) fun _ h => h.started hStarted

theorem Spares.keepsArmed {m : Handler α} (hm : Spares m) : KeepsArmed m := fun env s hArmed =>
  (hm env s).mono (fun _ _ h => h.armed hArmed) fun _ h => h.armed hArmed

theorem Spares.final {m : Handler α} (hm : Spares m) (env : Env) (s : Coordinator) :
    (m.final env s).record = s.record :=
  (hm.record env s).final

/-- What comes after a procedure may be left out where it spares the record. -/
theorem record_bind {m : Handler β} {f : β → Handler α} (hf : ∀ b, Spares (f b)) (env : Env)
    (s : Coordinator) : ((m >>= f).final env s).record = (m.final env s).record := by
  simp only [Proc.final, Bind.bind]
  rcases m env s with ⟨result, t⟩
  cases result with
  | ok b => exact (hf b).final env t
  | error e => rfl

end Rules

section Primitives

theorem replays_cons {entry : Entry} (journal : List Entry) (h : entry.replay? = none) :
    (entry :: journal).filterMap Entry.replay? = journal.filterMap Entry.replay? := by
  rw [List.filterMap_cons_none h]

theorem Spares.observe {entry : Entry} (h : entry.replay? = none) : Spares (observe entry) :=
  fun _ s => ⟨Prod.ext rfl (replays_cons s.journal h), id, id⟩

@[grind ←] theorem observePrompt_spares (looping : Bool) (language : String) :
    Spares (observe (.prompt looping language)) := .observe rfl

@[grind ←] theorem observeSubmitted_spares (action : SubmittedAction) :
    Spares (observe (.submitted action)) := .observe rfl

@[grind ←] theorem observeRegistered_spares (attemptSeq : Nat) (sessionId : SessionId)
    (target : OutboundTarget) : Spares (observe (.attemptRegistered attemptSeq sessionId target)) :=
  .observe rfl

@[grind ←] theorem observeDigits_spares (spec : DigitCollectionSpec) :
    Spares (observe (.digitsRequested spec)) := .observe rfl

@[grind ←] theorem observeCallee_spares (frame : LegFrame) (event : CallLegEvent)
    (current : SessionId) : Spares (observe (.calleeEvent frame event current)) := .observe rfl

@[grind ←] theorem assignState_spares (state : CallState) : Spares (assignState state) :=
  fun _ _ => ⟨rfl, id, id⟩

@[grind ←] theorem beginTerminating_spares (cause : HangupCause) :
    Spares (beginTerminating cause) :=
  fun _ _ => ⟨rfl, id, id⟩

@[grind ←] theorem startTimer_spares (kind : CallTimerKind) : Spares (startTimer kind) := by
  intro env s
  cases kind <;> exact ⟨rfl, id, id⟩

@[grind ←] theorem cancelTimer_spares (kind : CallTimerKind) : Spares (cancelTimer kind) := by
  intro env s
  cases kind <;> exact ⟨rfl, id, id⟩

@[grind ←] theorem cancelAllTimers_spares : Spares cancelAllTimers := by
  unfold cancelAllTimers
  grind

@[grind ←] theorem bumpMediaGeneration_spares : Spares bumpMediaGeneration :=
  fun _ _ => ⟨rfl, id, id⟩

@[grind ←] theorem bumpPromptGeneration_spares : Spares bumpPromptGeneration :=
  fun _ _ => ⟨rfl, id, id⟩

@[grind ←] theorem submitAction_spares (sessionId : SessionId) (kind : ActionKind)
    (actionId : String) (body : List (String × Json)) :
    Spares (submitAction sessionId kind actionId body) := by
  unfold submitAction
  grind

@[grind ←] theorem submitCallerAction_spares (kind : ActionKind) (actionId : String)
    (body : List (String × Json)) : Spares (submitCallerAction kind actionId body) := by
  unfold submitCallerAction
  grind

@[grind ←] theorem submitCalleeAction_spares (kind : ActionKind) (actionId : String)
    (body : List (String × Json)) : Spares (submitCalleeAction kind actionId body) := by
  unfold submitCalleeAction
  grind

@[grind ←] theorem offerMedia_spares (action : MediaAction) : Spares (offerMedia action) := by
  unfold offerMedia
  grind

@[grind ←] theorem submitMedia_spares (action : MediaAction) : Spares (submitMedia action) := by
  unfold submitMedia
  grind

/-- A result other than a reported replay. -/
@[grind ←] theorem sendActionResult_spares {result : ActionResult}
    (h : result.success = false ∨ result.code ≠ "IDEMPOTENT_REPLAY") :
    Spares (sendActionResult result) := by
  have hSent : Spares (observe (.aiResult result)) := by
    apply Spares.observe
    rw [Entry.replay?, if_neg]
    rintro ⟨hSuccess, hCode⟩
    rcases h with hFailed | hOther
    · exact Bool.false_ne_true (hFailed.symm.trans hSuccess)
    · exact hOther hCode
  unfold sendActionResult
  grind

end Primitives

section Handlers

/-- The collectors and their timer are left alone. -/
@[grind ←] theorem updateDtmf_spares {f : DtmfRuntime → DtmfRuntime}
    (h : ∀ dtmf, (f dtmf).collectors = dtmf.collectors ∧
      (f dtmf).collectorTimer = dtmf.collectorTimer ∧
      (f dtmf).collectorTimerGeneration = dtmf.collectorTimerGeneration) :
    Spares (updateDtmf f) := by
  apply Spares.of_still (updateDtmf_still f)
  apply updateDtmf_keepsArmed
  intro dtmf hArmed
  obtain ⟨hCollectors, hTimer, hGeneration⟩ := h dtmf
  rw [DtmfRuntime.Armed, hCollectors, hTimer, hGeneration]
  exact hArmed

@[grind ←] theorem abortDigitCollection_spares (reason : String) :
    Spares (abortDigitCollection reason) :=
  .of_still (abortDigitCollection_still reason) (abortDigitCollection_keepsArmed reason)

@[grind ←] theorem handleDtmfCapabilityReleased_spares (actionId : String)
    (result : Except String Nat) : Spares (handleDtmfCapabilityReleased actionId result) :=
  .of_still (handleDtmfCapabilityReleased_still _ _) (handleDtmfCapabilityReleased_keepsArmed _ _)

@[grind ←] theorem handleDtmfCapabilityAcquired_spares (actionId : String)
    (result : Except String DtmfCapabilityReady) :
    Spares (handleDtmfCapabilityAcquired actionId result) :=
  .of_still (handleDtmfCapabilityAcquired_still _ _) (handleDtmfCapabilityAcquired_keepsArmed _ _)

@[grind ←] theorem collectDigit_spares (event : DigitEvent) : Spares (collectDigit event) :=
  .of_still (collectDigit_still event) (collectDigit_keepsArmed event)

@[grind ←] theorem handleDigitCollectorTimeout_spares (generation : Nat)
    (collectorId : CollectorId) (deadline : DigitCollectorDeadline) :
    Spares (handleDigitCollectorTimeout generation collectorId deadline) :=
  .of_still (handleDigitCollectorTimeout_still _ _ _)
    (handleDigitCollectorTimeout_keepsArmed _ _ _)

@[grind ←] theorem handleEventMessage_spares (message : EventMessage) :
    Spares (handleEventMessage message) :=
  .of_still (handleEventMessage_still message) (handleEventMessage_keepsArmed message)

@[grind ←] theorem relayDigit_spares (event : DigitEvent) (peerSessionId : SessionId) :
    Spares (relayDigit event peerSessionId) := by
  unfold relayDigit
  grind

@[grind ←] theorem routeDigit_spares (event : DigitEvent) : Spares (routeDigit event) := by
  unfold routeDigit
  grind

@[grind ←] theorem handleSourceDigit_spares (event : DigitEvent) :
    Spares (handleSourceDigit event) := by
  unfold handleSourceDigit
  grind

@[grind ←] theorem handlePeerDigit_spares (event : DigitEvent) :
    Spares (handlePeerDigit event) := by
  unfold handlePeerDigit
  grind

@[grind ←] theorem handleDtmfInfoSendResult_spares (result : DtmfInfoSendResult) :
    Spares (handleDtmfInfoSendResult result) := by
  unfold handleDtmfInfoSendResult
  grind

@[grind ←] theorem beginFinishCall_spares : Spares beginFinishCall := by
  unfold beginFinishCall
  apply Spares.bind Spares.read
  intro env
  apply Spares.bind Spares.get
  intro s
  split
  · exact Spares.pure _
  · apply Spares.seq
    · exact Spares.modify fun _ => ⟨rfl, rfl, rfl, id⟩
    apply Spares.seq (abortDigitCollection_spares _)
    apply Spares.seq cancelAllTimers_spares
    grind

@[grind ←] theorem reportTransfer_spares {success : Bool} {code : String}
    (transfer : PendingAiTransfer) (message : String)
    (h : success = false ∨ code ≠ "IDEMPOTENT_REPLAY") :
    Spares (reportTransfer transfer success code message) := by
  unfold reportTransfer
  grind

@[grind ←] theorem failAiTransfer_spares (reason : String) : Spares (failAiTransfer reason) := by
  unfold failAiTransfer
  apply Spares.bind Spares.read
  intro env
  apply Spares.seq (cancelTimer_spares _)
  apply Spares.seq (cancelTimer_spares _)
  apply Spares.seq bumpPromptGeneration_spares
  grind

@[grind ←] theorem prepareCalleeOffer_spares (actionId : String) (attemptSeq : Nat)
    (routeTarget : Option String) :
    Spares (prepareCalleeOffer actionId attemptSeq routeTarget) := by
  unfold prepareCalleeOffer
  grind

@[grind ←] theorem beginAiTransferAttempt_spares (candidate : OutboundCandidate) :
    Spares (beginAiTransferAttempt candidate) := by
  unfold beginAiTransferAttempt
  grind

@[grind ←] theorem waitForRetryCleanup_spares (statusCode : Nat) :
    Spares (waitForRetryCleanup statusCode) := by
  unfold waitForRetryCleanup
  grind

@[grind ←] theorem beginNextAttempt_spares (previousStatus : Nat) :
    Spares (beginNextAttempt previousStatus) := by
  unfold beginNextAttempt
  apply Spares.bind Spares.read
  intro env
  apply Spares.bind Spares.get
  intro s
  split
  · exact Spares.pure _
  · split
    · exact Spares.pure _
    · split
      · exact Spares.pure _
      · apply Spares.seq
        · exact Spares.modify fun _ => ⟨rfl, rfl, rfl, id⟩
        apply Spares.seq (Spares.onCall _)
        apply Spares.seq (cancelTimer_spares _)
        apply Spares.seq (cancelTimer_spares _)
        grind

@[grind ←] theorem terminateUnanswered_spares (status : Nat) (cause : HangupCause)
    (actionId : String) :
    Spares (terminateUnanswered status cause actionId) := by
  unfold terminateUnanswered
  grind

@[grind ←] theorem terminateRetrySetup_spares (cause : String) :
    Spares (terminateRetrySetup cause) := by
  unfold terminateRetrySetup
  grind

@[grind ←] theorem terminateExhaustedRetry_spares (statusCode : Nat) :
    Spares (terminateExhaustedRetry statusCode) := by
  unfold terminateExhaustedRetry
  grind

@[grind ←] theorem nextAttemptOrTerminate_spares (statusCode : Nat) :
    Spares (nextAttemptOrTerminate statusCode) := by
  unfold nextAttemptOrTerminate
  grind

@[grind ←] theorem markCalleeTerminated_spares : Spares markCalleeTerminated := by
  unfold markCalleeTerminated
  grind

@[grind ←] theorem retryAfterOriginateFailure_spares : Spares retryAfterOriginateFailure := by
  unfold retryAfterOriginateFailure
  grind

@[grind ←] theorem retryAfterAttemptEnded_spares (statusCode : Nat) :
    Spares (retryAfterAttemptEnded statusCode) := by
  unfold retryAfterAttemptEnded
  apply Spares.bind Spares.read
  intro env
  apply Spares.bind Spares.get
  intro s
  split
  · apply Spares.seq
    · exact Spares.modify fun _ => ⟨rfl, rfl, rfl, id⟩
    grind
  · grind

@[grind ←] theorem retryAfterLateAnswer_spares : Spares retryAfterLateAnswer := by
  unfold retryAfterLateAnswer
  apply Spares.bind Spares.get
  intro s
  split
  · exact Spares.pure _
  · apply Spares.seq
    · exact Spares.modify fun _ => ⟨rfl, rfl, rfl, id⟩
    apply Spares.seq (cancelTimer_spares _)
    grind

@[grind ←] theorem forceRetryAfterCleanup_spares : Spares forceRetryAfterCleanup := by
  unfold forceRetryAfterCleanup
  grind

@[grind ←] theorem failAttemptSetup_spares (reason : String) :
    Spares (failAttemptSetup reason) := by
  unfold failAttemptSetup
  grind

@[grind ←] theorem requestRegistration_spares (pending : PendingAttemptCandidate)
    (calleeOffer : SdpBody) :
    Spares (requestRegistration pending calleeOffer) := by
  unfold requestRegistration
  apply Spares.bind Spares.read
  intro env
  apply Spares.bind Spares.get
  intro s
  apply Spares.seq
  · exact Spares.modify fun _ => ⟨rfl, rfl, rfl, id⟩
  apply Spares.bind (Spares.ofExcept _)
  intro session
  apply Spares.seq
  · exact Spares.modify fun _ => ⟨rfl, rfl, rfl, id⟩
  split <;> grind

@[grind ←] theorem handleAttemptOfferPrepared_spares (attemptSeq : Nat)
    (result : Except String SdpBody) :
    Spares (handleAttemptOfferPrepared attemptSeq result) := by
  unfold handleAttemptOfferPrepared
  grind

@[grind ←] theorem submitOriginate_spares (candidate : OutboundCandidate) (calleeOffer : SdpBody) :
    Spares (submitOriginate candidate calleeOffer) := by
  unfold submitOriginate
  grind

@[grind ←] theorem adoptAttempt_spares (pending : PendingAttemptRegistration)
    (sessionId : SessionId) :
    Spares (adoptAttempt pending sessionId) := by
  unfold adoptAttempt
  grind

@[grind ←] theorem handleAttemptRegistrationResult_spares (result : AttemptRegistrationResult) :
    Spares (handleAttemptRegistrationResult result) := by
  unfold handleAttemptRegistrationResult
  grind

@[grind ←] theorem failMediaNegotiation_spares (calleeCommand : ActionKind) :
    Spares (failMediaNegotiation calleeCommand) := by
  unfold failMediaNegotiation
  apply Spares.bind Spares.get
  intro s
  split
  · exact Spares.pure _
  · apply Spares.seq (beginTerminating_spares _)
    apply Spares.seq
    · exact Spares.modify fun _ => ⟨rfl, rfl, rfl, id⟩
    apply Spares.seq (assignState_spares _)
    apply Spares.seq Spares.updateCall
    apply Spares.seq (cancelTimer_spares _)
    apply Spares.seq (cancelTimer_spares _)
    grind

@[grind ←] theorem forwardProvisional_spares (statusCode : Nat) (body : List (String × Json)) :
    Spares (forwardProvisional statusCode body) := by
  unfold forwardProvisional
  grind

@[grind ←] theorem relayProvisional_spares (statusCode : Nat) (sdp : Option SdpBody) :
    Spares (relayProvisional statusCode sdp) := by
  unfold relayProvisional
  apply Spares.seq Spares.updateCall
  apply Spares.seq (assignState_spares _)
  apply Spares.bind Spares.get
  intro s
  split <;> grind

@[grind ←] theorem handleProvisional_spares (event : CallLegEvent) :
    Spares (handleProvisional event) := by
  unfold handleProvisional
  grind

@[grind ←] theorem hangupLateAnswer_spares : Spares hangupLateAnswer := by
  unfold hangupLateAnswer
  grind

@[grind ←] theorem prepareAnswer_spares (answer : SdpBody) (transferAnswer : Bool) :
    Spares (prepareAnswer answer transferAnswer) := by
  unfold prepareAnswer
  grind

@[grind ←] theorem handleAnswered_spares (event : CallLegEvent) :
    Spares (handleAnswered event) := by
  unfold handleAnswered
  grind

@[grind ←] theorem completeAnswer_spares (callerAnswer : SdpBody) (payloadTypes : List Nat) :
    Spares (completeAnswer callerAnswer payloadTypes) := by
  unfold completeAnswer
  grind

@[grind ←] theorem startAnswerMedia_spares (actionId : String)
    (recording : Option RecordingSpec) (allowFastPath : Bool) :
    Spares (startAnswerMedia actionId recording allowFastPath) := by
  unfold startAnswerMedia
  grind

@[grind ←] theorem startMedia_spares (answeredAtMs : Nat) (payloadTypes : List Nat) :
    Spares (startMedia answeredAtMs payloadTypes) := by
  unfold startMedia
  grind

@[grind ←] theorem disconnectPeer_spares (event : CallLegEvent) :
    Spares (disconnectPeer event) := by
  unfold disconnectPeer
  grind

@[grind ←] theorem finishOrArmCleanup_spares (startCleanupTimer : Bool) :
    Spares (finishOrArmCleanup startCleanupTimer) := by
  unfold finishOrArmCleanup
  grind

@[grind ←] theorem markLegTerminated_spares (sessionId : Option SessionId) :
    Spares (markLegTerminated sessionId) := by
  unfold markLegTerminated
  grind

@[grind ←] theorem handleDisconnected_spares (event : CallLegEvent) :
    Spares (handleDisconnected event) := by
  unfold handleDisconnected
  apply Spares.bind Spares.get
  intro s
  dsimp only
  split
  · exact Spares.pure _
  · split
    · grind
    · split
      · grind
      · apply Spares.seq (cancelTimer_spares _)
        apply Spares.seq (assignState_spares _)
        apply Spares.seq (Spares.when Spares.updateCall)
        apply Spares.seq Spares.updateCall
        grind

@[grind ←] theorem connectAnswer_spares (pending : PendingAnswer) :
    Spares (connectAnswer pending) := by
  unfold connectAnswer
  apply Spares.bind Spares.read
  intro env
  apply Spares.seq (assignState_spares _)
  apply Spares.bind Spares.get
  intro s
  apply Spares.seq (Spares.onCall _)
  apply Spares.seq Spares.updateCall
  apply Spares.seq (cancelTimer_spares _)
  apply Spares.seq (startMedia_spares _ _)
  grind

@[grind ←] theorem confirmAnswer_spares (actionId : String) : Spares (confirmAnswer actionId) := by
  unfold confirmAnswer
  apply Spares.bind Spares.get
  intro s
  split
  · exact Spares.pure _
  · apply Spares.seq
    · exact Spares.modify fun _ => ⟨rfl, rfl, rfl, id⟩
    split <;> grind

@[grind ←] theorem connectTransfer_spares : Spares connectTransfer := by
  unfold connectTransfer
  apply Spares.bind Spares.read
  intro env
  apply Spares.seq
  · exact Spares.modify fun _ => ⟨rfl, rfl, rfl, id⟩
  apply Spares.seq bumpPromptGeneration_spares
  apply Spares.seq (assignState_spares _)
  apply Spares.seq Spares.updateCall
  apply Spares.bind Spares.get
  intro s
  apply Spares.seq (Spares.onCall _)
  grind

@[grind ←] theorem handleSdpFailed_spares (purpose : PrepareSdpPurpose) (error : String) :
    Spares (handleSdpFailed purpose error) := by
  unfold handleSdpFailed
  grind

@[grind ←] theorem handleSdpPrepared_spares (purpose : PrepareSdpPurpose) (prepared : SdpBody) :
    Spares (handleSdpPrepared purpose prepared) := by
  unfold handleSdpPrepared
  grind

@[grind ←] theorem handleMediaActionResult_spares (result : MediaActionResult) :
    Spares (handleMediaActionResult result) := by
  unfold handleMediaActionResult
  grind

@[grind ←] theorem rejectCaller_spares (status : Nat) : Spares (rejectCaller status) := by
  unfold rejectCaller
  grind

@[grind ←] theorem rejectAfterFailure_spares (event : CallLegEvent) :
    Spares (rejectAfterFailure event) := by
  unfold rejectAfterFailure
  grind

@[grind ←] theorem handleFailed_spares (event : CallLegEvent) : Spares (handleFailed event) := by
  unfold handleFailed
  grind

@[grind ←] theorem cancelPeer_spares (transferPending : Bool) :
    Spares (cancelPeer transferPending) := by
  unfold cancelPeer
  grind

@[grind ←] theorem handleCancelled_spares : Spares handleCancelled := by
  unfold handleCancelled
  apply Spares.seq (cancelTimer_spares _)
  apply Spares.seq bumpPromptGeneration_spares
  apply Spares.bind Spares.get
  intro s
  apply Spares.seq
  · exact Spares.modify fun _ => ⟨rfl, rfl, rfl, id⟩
  apply Spares.seq Spares.updateCall
  apply Spares.seq (assignState_spares _)
  apply Spares.seq Spares.updateCall
  grind

@[grind ←] theorem timeoutAiTransfer_spares (kind : CallTimerKind) (actionId reason : String) :
    Spares (timeoutAiTransfer kind actionId reason) := by
  unfold timeoutAiTransfer
  grind

@[grind ←] theorem timeoutCall_spares (kind : CallTimerKind) (status : Nat)
    (cause : HangupCause) (cancelActionId rejectActionId reason : String) :
    Spares (timeoutCall kind status cause cancelActionId rejectActionId reason) := by
  unfold timeoutCall
  grind

@[grind ←] theorem handleDialTimer_spares (generation : Nat) :
    Spares (handleDialTimer generation) := by
  unfold handleDialTimer
  grind

@[grind ←] theorem handleRingTimer_spares (generation : Nat) :
    Spares (handleRingTimer generation) := by
  unfold handleRingTimer
  grind

@[grind ←] theorem forceRemoval_spares : Spares forceRemoval := by
  unfold forceRemoval
  grind

@[grind ←] theorem handleCleanupTimer_spares (generation : Nat) :
    Spares (handleCleanupTimer generation) := by
  unfold handleCleanupTimer
  grind

@[grind ←] theorem handleTimerExpiry_spares (kind : CallTimerKind) (generation : Nat) :
    Spares (handleTimerExpiry kind generation) := by
  unfold handleTimerExpiry
  grind

@[grind ←] theorem acceptLegEvent_spares (event : CallLegEvent) :
    Spares (acceptLegEvent event) := by
  unfold acceptLegEvent
  grind

@[grind ←] theorem handleCallerLegEvent_spares (frame : LegFrame) (event : CallLegEvent) :
    Spares (handleCallerLegEvent frame event) := by
  unfold handleCallerLegEvent
  grind

@[grind ←] theorem handlePeerLegEvent_spares (frame : LegFrame) (event : CallLegEvent) :
    Spares (handlePeerLegEvent frame event) := by
  unfold handlePeerLegEvent
  grind

@[grind ←] theorem terminateActionFailure_spares (kind : ActionKind) (peerFailure : Bool) :
    Spares (terminateActionFailure kind peerFailure) := by
  unfold terminateActionFailure
  apply Spares.seq (beginTerminating_spares _)
  apply Spares.seq (assignState_spares _)
  apply Spares.seq Spares.updateCall
  apply Spares.seq (cancelTimer_spares _)
  apply Spares.seq (cancelTimer_spares _)
  grind

@[grind ←] theorem applyActionFailure_spares (failure : ActionDeliveryFailed) (peerFailure : Bool) :
    Spares (applyActionFailure failure peerFailure) := by
  unfold applyActionFailure
  grind

@[grind ←] theorem handlePeerFailure_spares (failure : ActionDeliveryFailed) :
    Spares (handleActionFailure failure true) := by
  unfold handleActionFailure
  grind

@[grind ←] theorem handleOwnedLegActionAck_spares (ack : CallActionAck) :
    Spares (handleOwnedLegActionAck ack) := by
  unfold handleOwnedLegActionAck
  grind

@[grind ←] theorem endAiCall_spares (cause : HangupCause) (actionId : String) (body : List
    (String × Json)) :
    Spares (endAiCall cause actionId body) := by
  unfold endAiCall
  grind

@[grind ←] theorem collectAiDigits_spares (request : ActionRequested) (maxDigits timeoutMs : Nat) :
    Spares (collectAiDigits request maxDigits timeoutMs) := by
  unfold collectAiDigits
  grind

@[grind ←] theorem startTransferFailurePrompt_spares (request : ActionRequested) (reason : String) :
    Spares (startTransferFailurePrompt request reason) := by
  unfold startTransferFailurePrompt
  grind

@[grind ←] theorem transferToExtension_spares (request : ActionRequested) (number : String) :
    Spares (transferToExtension request number) := by
  unfold transferToExtension
  apply Spares.bind Spares.read
  intro env
  apply Spares.bind Spares.get
  intro s
  split
  · exact Spares.pure _
  · split
    · grind
    · apply Spares.seq
      · exact Spares.modify fun _ => ⟨rfl, rfl, rfl, id⟩
      apply Spares.seq bumpPromptGeneration_spares
      grind

@[grind ←] theorem handleAiGatewayUnavailable_spares : Spares handleAiGatewayUnavailable := by
  unfold handleAiGatewayUnavailable
  grind

@[grind ←] theorem beginShutdown_spares : Spares beginShutdown := by
  unfold beginShutdown
  apply Spares.seq
  · exact Spares.modify fun _ => ⟨rfl, rfl, rfl, id⟩
  apply Spares.bind Spares.get
  intro s
  split
  · exact Spares.pure _
  · apply Spares.seq (beginTerminating_spares _)
    apply Spares.seq (cancelTimer_spares _)
    apply Spares.seq (cancelTimer_spares _)
    grind

@[grind ←] theorem finishUnexplained_spares : Spares finishUnexplained := by
  unfold finishUnexplained
  grind

@[grind ←] theorem finishNow_spares (cause : HangupCause) : Spares (finishNow cause) := by
  unfold finishNow
  grind

@[grind ←] theorem completeProcessing_spares (result : Except Error Unit) :
    Spares (completeProcessing result) := by
  unfold completeProcessing
  grind

theorem submitInitialActions_spares (actions : List InitialCallAction) :
    Spares (submitInitialActions actions) := by
  induction actions with
  | nil => exact .pure ()
  | cons action rest ih =>
      unfold submitInitialActions
      grind

@[grind ←] theorem prepareAiAgentAnswer_spares : Spares prepareAiAgentAnswer := by
  unfold prepareAiAgentAnswer
  grind

@[grind ←] theorem start_spares : Spares start := by
  unfold start
  apply Spares.bind Spares.get
  intro s
  split
  · exact Spares.pure _
  · apply Spares.seq
    · exact Spares.modify fun _ => ⟨rfl, rfl, rfl, fun _ => rfl⟩
    apply Spares.seq (submitInitialActions_spares _)
    apply Spares.seq prepareAiAgentAnswer_spares
    grind

@[grind ←] theorem process_spares {m : Handler Unit} (hm : Spares m) : Spares (process m) := by
  unfold process
  grind

@[grind ←] theorem enterShuttingDown_spares : Spares enterShuttingDown := by
  unfold enterShuttingDown
  apply Spares.seq
  · exact Spares.modify fun _ => ⟨rfl, rfl, rfl, fun _ => rfl⟩
  exact (process_spares beginShutdown_spares).bind fun _ => .pure ()

@[grind ←] theorem enter_spares : Spares enter := by
  unfold enter
  grind

@[grind ←] theorem leave_spares : Spares leave := by
  unfold leave
  grind

@[grind ←] theorem continueIf_spares (goesOn : Bool) : Spares (continueIf goesOn) := by
  unfold continueIf
  grind

@[grind ←] theorem installOn_spares (target : CalleeActorView) (committed : CoordinatorIdentity) :
    Spares (installOn target committed) := by
  unfold installOn
  apply Spares.bind Spares.get
  intro s
  split
  · exact Spares.pure _
  · apply Spares.seq
    · exact Spares.modify fun _ => ⟨rfl, rfl, rfl, id⟩
    split
    · exact Spares.pure _
    · apply Spares.bind (Spares.attempt (Spares.onCall _))
      intro result
      split
      · exact Spares.pure _
      · exact Within.ite (fun _ _ => ⟨rfl, id, id⟩) (Spares.pure _)

theorem processStep_spares {m : Handler Unit} (hm : Spares m) : Spares (processStep m) :=
  (process_spares hm).bind continueIf_spares

end Handlers

section Steps

variable {env : Env} {s : Coordinator}

theorem record_process (m : Handler Unit) :
    ((process m).final env s).record = (m.final env s).record :=
  record_bind completeProcessing_spares env s

theorem record_processStep (m : Handler Unit) :
    ((processStep m).final env s).record = (m.final env s).record :=
  (record_bind continueIf_spares env s).trans (record_process m)

/-- What is not asked of the coordinator spares the record. -/
theorem dispatch_spares {source : ControlSource} {message : ControlMessage}
    (hAsked : s.controlStimulus env source message = none) :
    Spares (dispatch source s message) := by
  cases message with
  | mediaDtmfObserved event | sipDtmfReceived event => exact handleSourceDigit_spares event
  | peerDigitEvent event => exact handlePeerDigit_spares event
  | dtmfInfoSendResult result => exact handleDtmfInfoSendResult_spares result
  | prepareCoordinatorHandoff _ | prepareCoordinatorTarget _ | callFinalized => exact .pure _
  | legEvent frame event | callActionAck ack =>
      simp only [controlStimulus] at hAsked
      split at hAsked <;> simp only [reduceCtorEq] at hAsked
  | _ => simp only [controlStimulus, reduceCtorEq] at hAsked

/-- The record after an input is that after the handler it asks for. -/
def recordAfter (env : Env) (s : Coordinator) (input : Input) :
    List (String × Nat) × List ActionResult :=
  match s.stimulus env input with
  | none => s.record
  | some stimulus => ((respond stimulus).final env (s.taken env input)).record

theorem recordAfter_none {input : Input} (h : s.stimulus env input = none) :
    s.recordAfter env input = s.record := by
  rw [recordAfter, h]

theorem recordAfter_some {input : Input} {stimulus : Stimulus}
    (h : s.stimulus env input = some stimulus) :
    s.recordAfter env input = ((respond stimulus).final env (s.taken env input)).record := by
  rw [recordAfter, h]

theorem record_handleControl (source : ControlSource) (message : ControlMessage) :
    ((handleControl source message).final env s).record =
      s.recordAfter env (.control source message) := by
  refine Post.final
    (P := fun t : Coordinator => t.record = s.recordAfter env (.control source message)) ?_
  simp only [handleControl, post_bind, post_read, post_get]
  split
  · next hStarted =>
      exact (recordAfter_none (by rw [stimulus, if_pos hStarted])).symm
  · have hAsked : s.stimulus env (.control source .callFinalized) = none := by
      simp only [stimulus, controlStimulus, ite_self]
    exact (recordAfter_none hAsked).symm
  · next hStarted _ _ =>
      exact (recordAfter_none (by rw [stimulus, if_pos hStarted])).symm
  · next hLive =>
      have hAsked : s.stimulus env (.control source .forceCleanup) =
          some (.removal (if env.shuttingDown then .systemShutdown else .internalError)) := by
        rw [stimulus, hLive]
        rfl
      rw [recordAfter_some hAsked]
      apply Post.of_final
      exact record_bind (fun _ => .pure _) env s
  · next message _ _ hLive _ hNotForced =>
      apply Post.of_final
      rw [record_process]
      cases hAsked : s.controlStimulus env source message with
      | none =>
          rw [recordAfter_none (by rw [stimulus, hLive]; exact hAsked)]
          exact (dispatch_spares hAsked).final env s
      | some stimulus =>
          rw [recordAfter_some (by rw [Coordinator.stimulus, hLive]; exact hAsked),
            dispatch_eq_respond hAsked hNotForced]
          rfl

theorem record_receive (source : ControlSource) (message : ControlMessage) :
    ((receive source message).final env s).record =
      s.recordAfter env (.control source message) := by
  refine Post.final
    (P := fun t : Coordinator => t.record = s.recordAfter env (.control source message)) ?_
  simp only [receive, post_bind, post_read, post_get]
  split
  · next token =>
      have hKept : s.recordAfter env (.control .coordinator (.prepareCoordinatorHandoff token)) =
          s.record := recordAfter_none (ite_self _)
      rw [post_ite]
      split <;> exact hKept.symm
  · apply Post.of_final
    exact (record_bind continueIf_spares env s).trans (record_handleControl _ _)

/-- A handler that spares the record leaves the one before the input. -/
theorem recordAfter_of_spares {input : Input}
    (h : ∀ stimulus, s.stimulus env input = some stimulus → Spares (respond stimulus)) :
    s.recordAfter env input = s.record := by
  cases hAsked : s.stimulus env input with
  | none => exact recordAfter_none hAsked
  | some stimulus =>
      rw [recordAfter_some hAsked, (h stimulus hAsked).final]
      cases input <;> rfl

/-- One transition leaves the record that the handler of its input leaves. -/
theorem record_step (input : Input) : (step env input s).record = s.recordAfter env input := by
  cases input with
  | enter =>
      rw [recordAfter_of_spares]
      · exact enter_spares.final env s
      · intro stimulus hAsked
        simp only [Coordinator.stimulus, Option.ite_none_right_eq_some, Option.some.injEq] at hAsked
        obtain ⟨_, rfl⟩ := hAsked
        exact beginShutdown_spares
  | control source message => exact record_receive source message
  | mediaResult request result =>
      exact record_receive .coordinator (.mediaActionResult result)
  | registrationResult request result =>
      exact record_receive .coordinator (.attemptRegistrationResult result)
  | timer kind =>
      refine Post.final (P := fun t : Coordinator => t.record = s.recordAfter env (.timer kind)) ?_
      simp only [handle, post_bind, post_get]
      cases hSlot : s.timerSlot kind with
      | none => exact (recordAfter_none (by rw [stimulus, hSlot]; rfl)).symm
      | some slot =>
          rw [recordAfter_some (by rw [stimulus, hSlot]; rfl)]
          exact Post.of_final (record_processStep _)
  | collectorTimer =>
      have hSpares : Spares (handle .collectorTimer) := by
        simp only [handle]
        apply Spares.bind Spares.get
        intro s
        split
        · exact Spares.pure _
        · exact processStep_spares (handleDigitCollectorTimeout_spares _ _ _)
      exact hSpares.final env s
  | event message => exact (handleEventMessage_spares message).final env s
  | shutdownSignal => exact record_processStep _
  | mailboxClosed =>
      rw [recordAfter_of_spares]
      · exact leave_spares.final env s
      · intro stimulus hAsked
        simp only [Coordinator.stimulus, Option.ite_none_left_eq_some, Option.some.injEq] at hAsked
        obtain ⟨_, rfl⟩ := hAsked
        exact finishUnexplained_spares
  | installHandoff target committed => exact (installOn_spares _ _).final env s
  | rollbackHandoff => rfl

end Steps

end Coordinator

end VoipSwitch
