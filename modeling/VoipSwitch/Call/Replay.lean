import VoipSwitch.Call.Spent
import VoipSwitch.Call.Moves
import VoipSwitch.Call.Operations

/-! Replays of AI actions. A request whose key is spent is acknowledged without being carried
out again; whether the acknowledgement is true depends on what spent the key, and on what has
become of the request if its result was deferred. -/
namespace VoipSwitch

open Stateful Keyed Proc

def AgentAction.asksTransfer : AgentAction → Bool
  | .transferToExtension _ => true
  | _ => false

def AgentAction.asksDigits : AgentAction → Bool
  | .collectDigits _ _ => true
  | _ => false

/-- The AI service takes this result. -/
def Env.hears (env : Env) (result : ActionResult) : Bool :=
  env.aiJobs.any fun jobs => jobs.control result = .sent

namespace ActionRequested

/-- The key under which the coordinator remembers a request. -/
def key (request : ActionRequested) : String × Nat :=
  (s!"ai:{request.operationId}", request.generation)

/-- The result that reports a request as carried out before. -/
def replay (request : ActionRequested) : ActionResult where
  conversation := request.conversation
  operationId := request.operationId
  generation := request.generation
  success := true
  code := "IDEMPOTENT_REPLAY"
  message := none

/-- The result is about the operation that was requested. -/
def concerns (request : ActionRequested) (result : ActionResult) : Bool :=
  request.operationId = result.operationId && request.generation = result.generation

end ActionRequested

/-- The key under which the coordinator remembers the result of an action of the caller's
leg. -/
def ActionIdentity.key (identity : ActionIdentity) : String × Nat :=
  (identity.actionId, identity.generation)

def dtmfDigitsToString (digits : List DtmfDigit) : String := .ofList (digits.map (·.digitChar))

/-- The code of a result that is reported to the AI service. -/
def DigitCollectionResultCode.resultCode : DigitCollectionResultCode → String
  | .completed => "DTMF_COMPLETED"
  | .firstDigitTimeout => "DTMF_FIRSTDIGITTIMEOUT"
  | .interDigitTimeout => "DTMF_INTERDIGITTIMEOUT"
  | .overallTimeout => "DTMF_OVERALLTIMEOUT"
  | .cancelled => "DTMF_CANCELLED"
  | .failed => "DTMF_FAILED"

namespace Coordinator

/-- What is reported of a collection that was deferred, by what its two reply channels have given.
There is nothing from a channel that was closed. -/
def digitsOutcome (ready : Option (Except String DigitCollectionReady))
    (outcome : Option DigitCollectionOutcome) : AiOutcome :=
  match ready, outcome with
  | some (.ok _), some outcome =>
    { success := outcome.code = .completed, code := outcome.code.resultCode
      message := some (dtmfDigitsToString outcome.digits) }
  | some (.error error), _ =>
    { success := false, code := "DTMF_ACQUIRE_FAILED", message := some error }
  | _, _ =>
    { success := false, code := "DTMF_RESULT_UNAVAILABLE"
      message := some "digit collector result channel closed" }

/-- The request of the media worker that a transfer to this candidate starts with. -/
def transferOffer (s : Coordinator) (candidate : OutboundCandidate) : MediaAction :=
  .prepareSdp s!"prepare-transfer-offer-{s.call.callId}-{satSucc16 s.currentAttemptSeq}"
    (satSucc64 s.mediaGeneration) (.calleeAttemptOffer (satSucc16 s.currentAttemptSeq))
    s.callerOffer candidate.calleeRouteTarget

/-- Why a transfer to this candidate does not start: the switch shuts down, another attempt is
in preparation, or the media worker does not take the request. -/
def transferBlocked (env : Env) (s : Coordinator) (candidate : OutboundCandidate) : Bool :=
  env.shuttingDown || s.pendingAttemptCandidate.isSome || s.pendingAttemptRegistration.isSome
    || env.media (s.transferOffer candidate) ≠ .sent

/-- Whether a valid request that was not answered before is rejected. -/
def rejects (env : Env) (s : Coordinator) (request : ActionRequested) : Bool :=
  match request.action with
  | .endCall _ =>
    env.adapter (s.actionIdentity s.call.callerSessionId .hangupDialog
      s!"ai-end-call-{s.call.callId}") ≠ .sent
  | .collectDigits _ _ => env.aiJobs.isNone || env.eventMailbox ≠ .sent
  | .transferToExtension number =>
    s.pendingAiTransfer.isSome ||
      match s.transferRoute env number with
      | .error _ => true
      | .ok candidate => s.transferBlocked env candidate
  | .transferToBusinessTarget _ | .playText _ _ => true

/-- What an outcome says of the request: it was not rejected, and a transfer is under way. -/
def fulfils (request : ActionRequested) (outcome : AiOutcome) (t : Coordinator) : Bool :=
  outcome.success && outcome.code ≠ "IDEMPOTENT_REPLAY"
    && (!request.action.asksTransfer || t.pendingAiTransfer.isSome)

/-- Whether handling a request carries it out. -/
def carriesOut (env : Env) (s : Coordinator) (request : ActionRequested) : Bool :=
  match performAiAction request env s with
  | (.error _, _) => false
  | (.ok outcome, t) => fulfils request outcome t

/-- A valid request whose key is not spent. -/
def isFirst (env : Env) (s : Coordinator) (request : ActionRequested) : Bool :=
  (s.validateAiAction env request).isOk && !s.completedActions.contains request.key

/-- A valid request that is answered as a replay: its key is spent, or it asks for a transfer
while one is pending. -/
def repeats (env : Env) (s : Coordinator) (request : ActionRequested) : Bool :=
  (s.validateAiAction env request).isOk && (s.completedActions.contains request.key
    || (request.action.asksTransfer && s.pendingAiTransfer.isSome))

section Actions

variable {env : Env} {s : Coordinator} {request : ActionRequested}

theorem post_submitMedia_iff {action : MediaAction} {Q : Unit → Coordinator → Prop}
    {E : Coordinator → Prop} :
    Post (submitMedia action) env s Q E ↔
      (env.media action = .sent → Q () { s with mediaQueue := s.mediaQueue ++ [action] }) ∧
        (env.media action ≠ .sent → E s) := by
  simp only [submitMedia, offerMedia, post_bind, post_read]
  cases env.media action <;> simp [SendOutcome.refusal]

theorem Quiet.pendingAiTransfer {t : Coordinator} (h : Quiet s t) :
    t.pendingAiTransfer = s.pendingAiTransfer := by
  obtain ⟨_, _, _, _, _, _, rfl, _⟩ := h
  rfl

theorem failAiTransfer_clears {reason : String} :
    Post (failAiTransfer reason) env s (fun _ t => t.pendingAiTransfer = none)
      fun t => t.pendingAiTransfer = none := by
  simp only [failAiTransfer, post_bind, post_read, post_cancelDial, post_cancelRing,
    post_bumpPromptGeneration, post_get, post_modify, post_observe]
  apply post_whenSome
  · intro _
    rw [post_updateCall]
  · intro transfer _
    apply (reportTransfer_quiet transfer _ _ _).post
    · intro _ t hQuiet
      exact hQuiet.pendingAiTransfer
    · intro _ t hQuiet
      exact hQuiet.pendingAiTransfer

theorem post_beginAiTransferAttempt {candidate : OutboundCandidate}
    (hLive : s.call.isTerminating = false) (hPending : s.pendingAiTransfer.isSome = true) :
    Post (beginAiTransferAttempt candidate) env s
      (fun _ t => t.pendingAiTransfer = s.pendingAiTransfer ∧
        s.transferBlocked env candidate = false)
      fun _ => s.transferBlocked env candidate = true := by
  simp only [beginAiTransferAttempt, post_bind, post_read, post_get, hLive, Bool.false_eq_true,
    or_false]
  rw [post_ite]
  split
  · next hShutting => simp [transferBlocked, hShutting]
  · next hOpen =>
      rw [post_ite]
      split
      · next hBusy =>
          rw [post_fail]
          rcases hBusy with hCandidate | hRegistration | hNone
          · simp [transferBlocked, hCandidate]
          · simp [transferBlocked, hRegistration]
          · rw [Option.isNone_iff_eq_none] at hNone
            simp only [hNone, Option.isSome_none, Bool.false_eq_true] at hPending
      · next hIdle =>
          simp only [not_or, Bool.not_eq_true] at hIdle hOpen
          simp only [prepareCalleeOffer, post_bind, post_cancelDial, post_cancelRing,
            post_cancelCleanup, post_modify, post_bumpMediaGeneration, post_get]
          rw [post_submitMedia_iff]
          simp only [transferBlocked, hOpen, hIdle, transferOffer, Bool.false_or]
          exact ⟨fun hSent => ⟨trivial, by simpa using hSent⟩,
            fun hRefused => by simpa using hRefused⟩

theorem transferToExtension_fulfils {number : String}
    (hAction : request.action = .transferToExtension number)
    (hLive : s.call.isTerminating = false) :
    Post (transferToExtension request number) env s
      (fun outcome t => fulfils request outcome t = !s.rejects env request)
      fun _ => s.rejects env request = true := by
  simp only [transferToExtension, post_bind, post_read, post_get]
  rw [post_ite]
  split
  · next hPending => simp [fulfils, rejects, hAction, hPending]
  · next hNone =>
      rw [Option.not_isSome_iff_eq_none] at hNone
      split
      · next reason hRoute =>
          have hRejected : s.rejects env request = true := by simp [rejects, hAction, hRoute]
          rw [post_bind]
          apply (startTransferFailurePrompt_quiet request reason).post
          · intro _ t hQuiet
            simp [fulfils, hAction, AgentAction.asksTransfer, hQuiet.pendingAiTransfer, hNone,
              hRejected]
          · intro _ _ _
            exact hRejected
      · next candidate hRoute =>
          have hBlocked : s.rejects env request = s.transferBlocked env candidate := by
            simp [rejects, hAction, hNone, hRoute]
          rw [hBlocked]
          simp only [post_bind, post_modify, post_bumpPromptGeneration, post_observe]
          apply post_attempt_of
          apply (post_beginAiTransferAttempt _ _).mono
          · rintro _ t ⟨hKept, hStarted⟩
            have hOpen : s.transferBlocked env candidate = false := hStarted
            rw [failureText, whenSome, post_pure, post_pure, hOpen]
            simp [fulfils, hKept]
          · intro t hBlocked error
            rw [failureText, whenSome]
            apply failAiTransfer_clears.mono
            · intro _ u hCleared
              simp [fulfils, hAction, AgentAction.asksTransfer, hCleared]
              exact hBlocked
            · exact fun _ _ => hBlocked
          · exact hLive
          · rfl

/-- The state in which a request is executed: its key is spent. -/
def spending (s : Coordinator) (request : ActionRequested) : Coordinator :=
  { s with completedActions := request.key :: s.completedActions }

/-- What the coordinator does for a request that it answers for the first time. -/
def execute (s : Coordinator) (request : ActionRequested) : Handler AiOutcome :=
  match request.action with
  | .endCall reason => do
    endAiCall .normalClearing s!"ai-end-call-{s.call.callId}" [("reason", .str reason)]
    pure { success := true, code := "ACCEPTED" }
  | .collectDigits maxDigits timeoutMs => collectAiDigits request maxDigits timeoutMs
  | .transferToExtension number => transferToExtension request number
  | .transferToBusinessTarget _ | .playText _ _ =>
    pure
      { success := false
        code := "ACTION_NOT_AVAILABLE"
        message := some "action requires a later core capability batch" }

theorem post_performAiAction {Q : AiOutcome → Coordinator → Prop} {E : Coordinator → Prop}
    (hInvalid : (s.validateAiAction env request).isOk = false → E s)
    (hReplay : (s.validateAiAction env request).isOk = true →
      s.completedActions.contains request.key = true →
      Q { success := true, code := "IDEMPOTENT_REPLAY" } s)
    (hFirst : s.isFirst env request = true →
      Post (execute s request) env (s.spending request) Q E) :
    Post (performAiAction request) env s Q E := by
  simp only [performAiAction, post_bind, post_read, post_get]
  split
  · next error hError =>
      rw [hError] at hInvalid
      exact hInvalid rfl
  · next hOk =>
      have hValid : (s.validateAiAction env request).isOk = true := by
        rw [hOk]
        rfl
      rw [post_ite]
      split
      · next hSpent => exact hReplay hValid (List.contains_iff_mem.mpr hSpent)
      · next hFresh =>
          apply hFirst
          rw [isFirst, hValid, Bool.true_and, Bool.not_eq_true', ← Bool.not_eq_true,
            List.contains_iff_mem]
          exact hFresh

theorem isFirst_live (h : s.isFirst env request = true) : s.call.isTerminating = false := by
  rw [isFirst, Bool.and_eq_true] at h
  cases hValid : s.validateAiAction env request with
  | ok u => exact (answered_of_valid hValid).2
  | error error =>
      rw [hValid] at h
      exact (Bool.false_ne_true h.1).elim

theorem endAiCall_fulfils {reason : String} (hAction : request.action = .endCall reason) :
    Post (execute s request) env (s.spending request)
      (fun outcome t => fulfils request outcome t = !s.rejects env request)
      fun _ => s.rejects env request = true := by
  rw [execute, hAction]
  simp only [endAiCall, post_bind, post_beginTerminating, post_updateCall, post_assignState,
    post_markCalleeTerminated, post_cancelDial, post_cancelRing, submitCallerAction, post_get]
  rw [post_submitAction]
  constructor
  · intro hSent
    have hAdapter : env.adapter (s.actionIdentity s.call.callerSessionId .hangupDialog
        s!"ai-end-call-{s.call.callId}") = .sent := hSent
    rw [post_startCleanup, post_pure]
    simp [fulfils, rejects, hAction, hAdapter, AgentAction.asksTransfer]
  · intro hRefused
    have hAdapter : env.adapter (s.actionIdentity s.call.callerSessionId .hangupDialog
        s!"ai-end-call-{s.call.callId}") ≠ .sent := hRefused
    simp [rejects, hAction, hAdapter]

theorem collectAiDigits_fulfils {maxDigits timeoutMs : Nat}
    (hAction : request.action = .collectDigits maxDigits timeoutMs) :
    Post (collectAiDigits request maxDigits timeoutMs) env (s.spending request)
      (fun outcome t => fulfils request outcome t = !s.rejects env request)
      fun _ => s.rejects env request = true := by
  simp only [collectAiDigits, post_bind, post_read, post_get]
  rw [post_ite]
  split
  · next hNone => simp [rejects, hAction, hNone]
  · next hJobs =>
      rw [Bool.not_eq_true] at hJobs
      cases hMailbox : env.eventMailbox with
      | sent =>
          simp [SendOutcome.refusal, fulfils, rejects, hAction, AgentAction.asksTransfer, hJobs,
            hMailbox]
      | full => simp [SendOutcome.refusal, rejects, hAction, hMailbox]
      | closed => simp [SendOutcome.refusal, rejects, hAction, hMailbox]

/-- A valid request that was not answered before is carried out unless it is rejected. -/
theorem carriesOut_iff (h : s.isFirst env request = true) :
    s.carriesOut env request = !s.rejects env request := by
  have hSpec : Post (performAiAction request) env s
      (fun outcome t => fulfils request outcome t = !s.rejects env request)
      fun _ => s.rejects env request = true := by
    rw [isFirst, Bool.and_eq_true] at h
    apply post_performAiAction
    · intro hInvalid
      exact (Bool.false_ne_true (hInvalid.symm.trans h.1)).elim
    · intro _ hSpent
      rw [hSpent] at h
      exact (Bool.false_ne_true h.2).elim
    · intro hFirst
      cases hAction : request.action with
      | endCall reason => exact endAiCall_fulfils hAction
      | collectDigits maxDigits timeoutMs =>
          rw [execute, hAction]
          exact collectAiDigits_fulfils hAction
      | transferToExtension number =>
          rw [execute, hAction]
          have hLive : (s.spending request).call.isTerminating = false :=
            isFirst_live (s := s) hFirst
          exact transferToExtension_fulfils hAction hLive
      | transferToBusinessTarget _ | playText _ _ =>
          simp [execute, fulfils, rejects, hAction]
  rw [carriesOut]
  rw [Post] at hSpec
  rcases hRun : performAiAction request env s with ⟨result, t⟩
  rw [hRun] at hSpec
  cases result with
  | ok outcome => exact hSpec
  | error error => simp [show s.rejects env request = true from hSpec]

theorem execute_spares : Spares (execute s request) := by
  unfold execute
  split
  · exact (endAiCall_spares _ _ _).seq (.pure _)
  · exact collectAiDigits_spares _ _ _
  · exact transferToExtension_spares _ _
  · exact .pure _
  · exact .pure _

/-- Executing a request looks like a replay only if it asks for a second transfer. -/
theorem execute_outcome :
    Post (execute s request) env (s.spending request)
      (fun outcome _ => if request.action.asksTransfer && s.pendingAiTransfer.isSome then
          outcome = { success := true, code := "IDEMPOTENT_REPLAY" }
        else outcome.success = false ∨ outcome.code ≠ "IDEMPOTENT_REPLAY")
      fun _ => (request.action.asksTransfer && s.pendingAiTransfer.isSome) = false := by
  cases hAction : request.action with
  | endCall reason =>
      rw [execute, hAction]
      have hEnd : Post (endAiCall .normalClearing s!"ai-end-call-{s.call.callId}"
          [("reason", .str reason)]) env (s.spending request) (fun _ _ => True) fun _ => True :=
        Post.of_final trivial
      exact (hEnd.mono (fun _ _ h => h) fun _ _ => rfl).bind fun _ _ _ => .inr (by decide)
  | collectDigits maxDigits timeoutMs =>
      rw [execute, hAction]
      simp only [collectAiDigits, post_bind, post_read, post_get]
      rw [post_ite]
      split
      · rfl
      · split
        · rfl
        · exact .inr (by decide)
  | transferToExtension number =>
      rw [execute, hAction]
      simp only [transferToExtension, post_bind, post_read, post_get]
      rw [post_ite]
      split
      · next hPending =>
          have hSame : s.pendingAiTransfer.isSome = true := hPending
          rw [post_pure, hSame]
          rfl
      · next hNone =>
          have hOther : s.pendingAiTransfer.isSome = false := Bool.not_eq_true _ ▸ hNone
          have hDeferred : ∀ t : Coordinator, Post (pure { success := true, code := "DEFERRED" } :
              Handler AiOutcome) env t
              (fun outcome _ => outcome.success = false ∨ outcome.code ≠ "IDEMPOTENT_REPLAY")
              fun _ => True := fun _ => .inr (by decide)
          rw [hOther]
          split
          · exact (Post.last fun _ => hDeferred).mono (fun _ _ h => h) fun _ _ => rfl
          · exact (Post.last fun _ _ => Post.last fun _ _ => Post.last fun _ _ =>
              Post.last fun _ _ => Post.last fun _ => hDeferred).mono (fun _ _ h => h)
              fun _ _ => rfl
  | transferToBusinessTarget _ | playText _ _ => 
      rw [execute, hAction]
      exact .inl rfl

/-- What a request leaves in the record before its result is sent. -/
theorem performAiAction_record :
    Post (performAiAction request) env s
      (fun outcome t => t.record = (if s.isFirst env request then
          request.key :: s.completedActions else s.completedActions, s.replays) ∧
        if s.repeats env request then outcome = { success := true, code := "IDEMPOTENT_REPLAY" }
        else outcome.success = false ∨ outcome.code ≠ "IDEMPOTENT_REPLAY")
      fun t => t.record = (if s.isFirst env request then
          request.key :: s.completedActions else s.completedActions, s.replays) ∧
        s.repeats env request = false := by
  apply post_performAiAction
  · intro hInvalid
    simp [isFirst, repeats, hInvalid, record]
  · intro hValid hSpent
    rw [isFirst, repeats, hValid, hSpent]
    exact ⟨rfl, rfl⟩
  · intro hFirst
    have hRepeats : s.repeats env request =
        (request.action.asksTransfer && s.pendingAiTransfer.isSome) := by
      rw [isFirst, Bool.and_eq_true, Bool.not_eq_true'] at hFirst
      rw [repeats, hFirst.1, hFirst.2, Bool.true_and, Bool.false_or]
    rw [hFirst, if_pos rfl, hRepeats]
    exact (execute_spares.record env (s.spending request)).and execute_outcome

/-- A replay is recorded where the AI service takes it. -/
theorem sendReplay_record {keys : List (String × Nat)} {replays : List ActionResult}
    (h : s.record = (keys, replays)) :
    Post (sendActionResult request.replay) env s
      (fun _ t => t.record =
        (keys, if env.hears request.replay then request.replay :: replays else replays))
      fun t => t.record =
        (keys, if env.hears request.replay then request.replay :: replays else replays) := by
  simp only [sendActionResult, post_bind, post_read]
  split
  · next hNone =>
      rw [post_pure, Env.hears, hNone]
      exact h
  · next jobs hJobs =>
      have hHears : env.hears request.replay = decide (jobs.control request.replay = .sent) := by
        rw [Env.hears, hJobs, Option.any_some]
      rw [hHears]
      cases hSent : jobs.control request.replay with
      | sent =>
          rw [record, Prod.mk.injEq] at h
          simp only [SendOutcome.refusal, post_observe, decide_true, if_true]
          exact Prod.ext h.1 (congrArg (List.cons request.replay) h.2)
      | full => exact h
      | closed => exact h

/-- Handling a request spends its key if it is not spent, and reports a replay if the request
is answered as one and the AI service takes the result. -/
theorem handleAiAction_record :
    ((handleAiAction request).final env s).record =
      (if s.isFirst env request then request.key :: s.completedActions else s.completedActions,
        if s.repeats env request && env.hears request.replay then request.replay :: s.replays
        else s.replays) := by
  refine Post.final (P := fun t : Coordinator => t.record = (if s.isFirst env request then
    request.key :: s.completedActions else s.completedActions,
    if s.repeats env request && env.hears request.replay then request.replay :: s.replays
    else s.replays)) ?_
  rw [handleAiAction, post_bind]
  apply post_attempt_of
  apply performAiAction_record.mono
  · rintro outcome t ⟨hRecord, hOutcome⟩
    rw [aiOutcome, post_ite]
    cases hRepeats : s.repeats env request with
    | true =>
        rw [hRepeats, if_pos rfl] at hOutcome
        subst hOutcome
        rw [if_pos (by decide), Bool.true_and]
        exact sendReplay_record hRecord
    | false =>
        rw [hRepeats, if_neg Bool.false_ne_true] at hOutcome
        rw [Bool.false_and, if_neg Bool.false_ne_true, ← hRecord]
        split
        · exact (sendActionResult_spares hOutcome).record env t
        · rfl
  · rintro t ⟨hRecord, hOther⟩ error
    rw [hOther, Bool.false_and, if_neg Bool.false_ne_true, ← hRecord]
    exact (sendActionResult_spares (.inl rfl)).record env t

end Actions

/-- The key that a stimulus spends. -/
def spends (env : Env) (s : Coordinator) : Stimulus → Option (String × Nat)
  | .aiAction request => if s.isFirst env request then some request.key else none
  | .actionFailed failure false =>
    if s.freshResult failure.identity then some failure.identity.key else none
  | .actionAck ack => if s.freshResult ack.identity then some ack.identity.key else none
  | _ => none

/-- The replay that a stimulus makes the coordinator report. -/
def reports (env : Env) (s : Coordinator) : Stimulus → Option ActionResult
  | .aiAction request =>
    if s.repeats env request && env.hears request.replay then some request.replay else none
  | _ => none

section Stimuli

variable {env : Env} {s : Coordinator}

theorem acceptActionResult_eq (env : Env) (s : Coordinator) (identity : ActionIdentity) :
    acceptActionResult identity env s =
      if s.freshResult identity then
        (.ok true, { s with completedActions := identity.key :: s.completedActions })
      else (.ok false, s) := by
  show (if _ then _ else _ : Handler Bool) env s = _
  by_cases hForeign : identity.callId ≠ s.call.callId ∨ identity.sessionId ≠ s.call.callerSessionId
      ∨ identity.generation ≠ s.actionGeneration
  · have hStale : ¬ s.freshResult identity = true := by
      simp only [freshResult, Bool.and_eq_true, decide_eq_true_eq]
      tauto
    rw [if_pos hForeign, if_neg hStale]
    rfl
  · rw [if_neg hForeign]
    have hOwn : s.freshResult identity =
        !s.completedActions.contains (identity.actionId, identity.generation) := by
      rw [not_or, not_or, not_not, not_not, not_not] at hForeign
      simp [freshResult, hForeign]
    by_cases hSpent : (identity.actionId, identity.generation) ∈ s.completedActions
    · rw [if_pos hSpent, hOwn, if_neg (by simp [hSpent])]
      rfl
    · rw [if_neg hSpent, hOwn, if_pos (by simp [hSpent])]
      rfl

theorem acceptActionResult_record (identity : ActionIdentity) :
    ((acceptActionResult identity).final env s).record =
      ((if s.freshResult identity then some identity.key else none).toList ++ s.completedActions,
        s.replays) := by
  rw [Proc.final, acceptActionResult_eq]
  split <;> rfl

theorem handleActionFailure_record (failure : ActionDeliveryFailed) :
    ((handleActionFailure failure false).final env s).record =
      ((acceptActionResult failure.identity).final env s).record := by
  rw [handleActionFailure]
  apply record_bind
  intro fresh
  dsimp only
  split
  · exact applyActionFailure_spares _ _
  · exact .pure _

theorem handleActionAck_record (ack : CallActionAck) :
    ((handleActionAck ack).final env s).record =
      ((acceptActionResult ack.identity).final env s).record := by
  rw [handleActionAck]
  split
  · apply record_bind
    intro fresh
    split
    · exact confirmAnswer_spares _
    · exact .pure _
  · exact handleActionFailure_record _

/-- What the handler of a stimulus adds to the record. -/
theorem respond_record (stimulus : Stimulus) :
    ((respond stimulus).final env s).record =
      ((s.spends env stimulus).toList ++ s.completedActions,
        (s.reports env stimulus).toList ++ s.replays) := by
  cases stimulus with
  | aiAction request =>
      rw [respond, handleAiAction_record, spends, reports]
      split <;> split <;> rfl
  | actionFailed failure peerFailure =>
      cases peerFailure with
      | true => exact (handlePeerFailure_spares failure).final env s
      | false => exact (handleActionFailure_record failure).trans (acceptActionResult_record _)
  | actionAck ack => exact (handleActionAck_record ack).trans (acceptActionResult_record _)
  | callerEvent frame event => exact (handleCallerLegEvent_spares frame event).final env s
  | calleeEvent frame event => exact (handlePeerLegEvent_spares frame event).final env s
  | ownedLegAck ack => exact (handleOwnedLegActionAck_spares ack).final env s
  | mediaResult result => exact (handleMediaActionResult_spares result).final env s
  | registrationResult result => exact (handleAttemptRegistrationResult_spares result).final env s
  | gatewayUnavailable => exact handleAiGatewayUnavailable_spares.final env s
  | shutdown => exact beginShutdown_spares.final env s
  | timer kind generation => exact (handleTimerExpiry_spares kind generation).final env s
  | removal cause => exact (finishNow_spares cause).final env s
  | abandoned => exact finishUnexplained_spares.final env s

/-- What an input adds to the record. -/
theorem step_record (input : Input) :
    (step env input s).record =
      (((s.stimulus env input).bind (s.spends env)).toList ++ s.completedActions,
        ((s.stimulus env input).bind (s.reports env)).toList ++ s.replays) := by
  rw [record_step, recordAfter]
  cases hAsked : s.stimulus env input with
  | none => rfl
  | some stimulus =>
      cases hPlain : stimulus.isPlain with
      | true =>
          simp only [taken_of_stimulus hAsked hPlain, Option.bind_some]
          exact respond_record stimulus
      | false =>
          simp only [respond_record]
          cases stimulus with
          | mediaResult _ | registrationResult _ | shutdown | abandoned => cases input <;> rfl
          | _ => simp only [Stimulus.isPlain, reduceCtorEq] at hPlain

end Stimuli

/-- The transfer that is given up between two states: it was under way, and is not any more. -/
def failedTransfer (s t : Coordinator) : Option (String × Nat) :=
  if t.pendingAiTransfer.isNone && t.aiTransferFailed then
    s.pendingAiTransfer.map fun transfer => (s!"ai:{transfer.operationId}", transfer.generation)
  else none

/-- A coordinator together with the requests that it carried out, the keys that were spent
otherwise, the collections whose results are still to be reported, and the replays that it
reported of requests that it had not carried out. -/
structure Audited where
  coordinator : Coordinator
  carried : List ActionRequested := []
  spent : List (String × Nat) := []
  collecting : List ActionRequested := []
  unfounded : List ActionResult := []

/-- The coordinator takes an input, or the task that waits for a collection has read its reply
channels. -/
inductive AuditStep where
  | takes (env : Env) (input : Input)
  | collected (request : ActionRequested) (ready : Option (Except String DigitCollectionReady))
    (outcome : Option DigitCollectionOutcome)

namespace Audited

/-- The request that a stimulus makes the coordinator carry out. -/
def carrying (env : Env) (s : Coordinator) : Option Stimulus → Option ActionRequested
  | some (.aiAction request) =>
    if s.isFirst env request && s.carriesOut env request then some request else none
  | _ => none

/-- The key that a stimulus spends without an AI action being carried out: the action is
rejected, or the key is that of an action of the caller's leg. -/
def wasting (env : Env) (s : Coordinator) : Option Stimulus → Option (String × Nat)
  | some (.aiAction request) =>
    if s.isFirst env request && s.rejects env request then some request.key else none
  | some stimulus => s.spends env stimulus
  | none => none

/-- An earlier request of the same operation and generation was carried out, or is under way. -/
def founded (a : Audited) (result : ActionResult) : Bool :=
  a.carried.any (·.concerns result)

/-- The replays that were reported between two states. -/
def newReplays (s t : Coordinator) : List ActionResult :=
  t.replays.take (t.replays.length - s.replays.length)

/-- The request with this key has failed after its result was deferred. -/
def lapse (a : Audited) (key : String × Nat) : Audited :=
  { a with
    carried := a.carried.filter (·.key ≠ key)
    spent := ((a.carried.filter (·.key = key)).map ActionRequested.key) ++ a.spent }

/-- The ledgers once the coordinator has answered an input. -/
def answered (env : Env) (a : Audited) (input : Input) : Audited :=
  let s := a.coordinator
  let t := step env input s
  let carried := (carrying env s (s.stimulus env input)).toList
  { coordinator := t
    carried := carried ++ a.carried
    spent := (wasting env s (s.stimulus env input)).toList ++ a.spent
    collecting := carried.filter (·.action.asksDigits) ++ a.collecting
    unfounded := (newReplays s t).filter (!a.founded ·) ++ a.unfounded }

def after (env : Env) (a : Audited) (input : Input) : Audited :=
  match failedTransfer a.coordinator (step env input a.coordinator) with
  | none => a.answered env input
  | some key => (a.answered env input).lapse key

/-- Whether a collection's own result rejects it: it could not begin, or the result got lost. Which
of the unsuccessful ends of a collection that has begun count as rejections too is up to
`counted`. -/
def rejectsDigits (counted : DigitCollectionResultCode → Bool)
    (ready : Option (Except String DigitCollectionReady))
    (outcome : Option DigitCollectionOutcome) : Bool :=
  !(digitsOutcome ready outcome).success &&
    match ready, outcome with
    | some (.ok _), some outcome => counted outcome.code
    | _, _ => true

/-- The audited coordinator after a step. -/
def next (counted : DigitCollectionResultCode → Bool) (a : Audited) : AuditStep → Audited
  | .takes env input => a.after env input
  | .collected request ready outcome =>
    let told := { a with collecting := a.collecting.erase request }
    if rejectsDigits counted ready outcome then told.lapse request.key else told

def admissible (a : Audited) : AuditStep → Prop
  | .takes _ input => a.coordinator.admissible input
  | .collected request _ _ => request ∈ a.collecting

/-- The audited coordinator as a transition system. -/
def system (counted : DigitCollectionResultCode → Bool) :
    Transition.System Audited AuditStep where
  init a := ∃ s, Coordinator.system.init s ∧ a = { coordinator := s }
  next a label b := a.admissible label ∧ b = a.next counted label

/-- The coordinator is told of a valid request whose result the AI service takes, and either
the key of the request was spent by one that was not carried out or has failed since, or the
request is a new one for a transfer while one is pending. -/
def misreports (a : Audited) : AuditStep → Bool
  | .collected _ _ _ => false
  | .takes env input =>
    match a.coordinator.stimulus env input with
    | some (.aiAction request) =>
      (a.coordinator.validateAiAction env request).isOk && env.hears request.replay
        && (a.spent.contains request.key || (a.coordinator.isFirst env request
          && request.action.asksTransfer && a.coordinator.pendingAiTransfer.isSome))
    | _ => false

/-- The ledgers account for every spent key, and never for one key twice. -/
structure Balanced (a : Audited) : Prop where
  account : ∀ key, key ∈ a.coordinator.completedActions ↔
    key ∈ a.spent ∨ ∃ request ∈ a.carried, request.key = key
  apart : ∀ request ∈ a.carried, request.key ∉ a.spent

variable {env : Env} {a : Audited} {counted : DigitCollectionResultCode → Bool}

theorem key_eq_iff {request other : ActionRequested} :
    request.key = other.key ↔ request.concerns other.replay = true := by
  rw [ActionRequested.key, ActionRequested.key, Prod.mk.injEq, ActionRequested.concerns,
    Bool.and_eq_true, decide_eq_true_iff, decide_eq_true_iff]
  exact and_congr_left fun _ => String.append_right_inj _

/-- A key is entered into one of the ledgers when it is spent, and only then. -/
theorem spends_cases (stimulus : Option Stimulus) :
    (stimulus.bind (a.coordinator.spends env) = none ∧
      carrying env a.coordinator stimulus = none ∧ wasting env a.coordinator stimulus = none) ∨
    (∃ key, stimulus.bind (a.coordinator.spends env) = some key ∧
      key ∉ a.coordinator.completedActions ∧ carrying env a.coordinator stimulus = none ∧
      wasting env a.coordinator stimulus = some key) ∨
    ∃ request : ActionRequested, stimulus.bind (a.coordinator.spends env) = some request.key ∧
      request.key ∉ a.coordinator.completedActions ∧
      carrying env a.coordinator stimulus = some request ∧
      wasting env a.coordinator stimulus = none := by
  have hFresh : ∀ identity : ActionIdentity, a.coordinator.freshResult identity = true →
      identity.key ∉ a.coordinator.completedActions := by
    intro identity h
    rw [freshResult, Bool.and_eq_true, Bool.not_eq_true', ← Bool.not_eq_true,
      List.contains_iff_mem] at h
    exact h.2
  cases stimulus with
  | none => exact .inl ⟨rfl, rfl, rfl⟩
  | some stimulus =>
      cases stimulus with
      | aiAction request =>
          simp only [Option.bind_some, spends, carrying, wasting]
          cases hFirst : a.coordinator.isFirst env request with
          | false => exact .inl ⟨rfl, rfl, rfl⟩
          | true =>
              have hUnspent : request.key ∉ a.coordinator.completedActions := by
                rw [isFirst, Bool.and_eq_true, Bool.not_eq_true', ← Bool.not_eq_true,
                  List.contains_iff_mem] at hFirst
                exact hFirst.2
              rw [carriesOut_iff hFirst]
              cases a.coordinator.rejects env request with
              | true => exact .inr (.inl ⟨_, rfl, hUnspent, rfl, rfl⟩)
              | false => exact .inr (.inr ⟨_, rfl, hUnspent, rfl, rfl⟩)
      | actionFailed failure peerFailure =>
          cases peerFailure with
          | true => exact .inl ⟨rfl, rfl, rfl⟩
          | false =>
              simp only [Option.bind_some, wasting, spends]
              split
              · next h => exact .inr (.inl ⟨_, rfl, hFresh _ h, rfl, rfl⟩)
              · exact .inl ⟨rfl, rfl, rfl⟩
      | actionAck ack =>
          simp only [Option.bind_some, wasting, spends]
          split
          · next h => exact .inr (.inl ⟨_, rfl, hFresh _ h, rfl, rfl⟩)
          · exact .inl ⟨rfl, rfl, rfl⟩
      | _ => exact .inl ⟨rfl, rfl, rfl⟩

theorem answered_carried (input : Input) : (a.answered env input).carried =
    (carrying env a.coordinator (a.coordinator.stimulus env input)).toList ++ a.carried := rfl

theorem answered_spent (input : Input) : (a.answered env input).spent =
    (wasting env a.coordinator (a.coordinator.stimulus env input)).toList ++ a.spent := rfl

/-- The key that an input spends enters one of the ledgers, and no key enters both. -/
theorem Balanced.answered (h : a.Balanced) (input : Input) :
    (a.answered env input).Balanced := by
  have hSpent : (a.answered env input).coordinator.completedActions =
      ((a.coordinator.stimulus env input).bind (a.coordinator.spends env)).toList ++
        a.coordinator.completedActions :=
    congrArg Prod.fst (step_record input)
  have hLedgers := @answered_spent env a input
  have hRequests := @answered_carried env a input
  rcases @spends_cases env a (a.coordinator.stimulus env input) with
    ⟨hKey, hCarried, hWasted⟩ | ⟨key, hKey, hNew, hCarried, hWasted⟩ |
      ⟨request, hKey, hNew, hCarried, hWasted⟩
  · rw [hKey] at hSpent
    rw [hWasted] at hLedgers
    rw [hCarried] at hRequests
    constructor
    · rw [hSpent, hLedgers, hRequests]
      exact h.account
    · rw [hLedgers, hRequests]
      exact h.apart
  · rw [hKey] at hSpent
    rw [hWasted] at hLedgers
    rw [hCarried] at hRequests
    constructor
    · intro other
      rw [hSpent, hLedgers, hRequests]
      simp only [Option.toList_some, List.singleton_append, List.mem_cons, h.account other,
        Option.toList_none, List.nil_append, or_assoc]
    · rw [hLedgers, hRequests]
      intro request hMem hSame
      rcases List.mem_cons.mp hSame with hEq | hSame
      · exact hNew ((h.account key).mpr (.inr ⟨request, hMem, hEq⟩))
      · exact h.apart request hMem hSame
  · rw [hKey] at hSpent
    rw [hWasted] at hLedgers
    rw [hCarried] at hRequests
    constructor
    · intro other
      rw [hSpent, hLedgers, hRequests]
      simp only [Option.toList_some, List.singleton_append, List.mem_cons, h.account other,
        Option.toList_none, List.nil_append, exists_eq_or_imp]
      rw [or_left_comm]
      exact or_congr_right (or_congr_left eq_comm)
    · rw [hLedgers, hRequests]
      intro other hMem hSame
      rcases List.mem_cons.mp hMem with rfl | hMem
      · exact hNew ((h.account _).mpr (.inl hSame))
      · exact h.apart other hMem hSame

/-- A request that has failed moves from one ledger to the other. -/
theorem Balanced.lapse (h : a.Balanced) (key : String × Nat) : (a.lapse key).Balanced where
  account other := by
    rw [show (a.lapse key).coordinator = a.coordinator from rfl, h.account]
    simp only [Audited.lapse, List.mem_append, List.mem_map, List.mem_filter, decide_eq_true_eq]
    constructor
    · rintro (hSpent | ⟨request, hMem, hKey⟩)
      · exact .inl (.inr hSpent)
      · by_cases hSame : request.key = key
        · exact .inl (.inl ⟨request, ⟨hMem, hSame⟩, hKey⟩)
        · exact .inr ⟨request, ⟨hMem, hSame⟩, hKey⟩
    · rintro ((⟨request, ⟨hMem, -⟩, hKey⟩ | hSpent) | ⟨request, ⟨hMem, -⟩, hKey⟩)
      · exact .inr ⟨request, hMem, hKey⟩
      · exact .inl hSpent
      · exact .inr ⟨request, hMem, hKey⟩
  apart request hRequest := by
    obtain ⟨hMem, hOther⟩ := List.mem_filter.mp hRequest
    simp only [Audited.lapse, List.mem_append, List.mem_map, List.mem_filter, decide_eq_true_eq]
    rintro (⟨failed, ⟨-, hFailed⟩, hKey⟩ | hSpent)
    · exact of_decide_eq_true hOther (hKey.symm.trans hFailed)
    · exact h.apart request hMem hSpent

theorem Balanced.after (h : a.Balanced) (input : Input) : (a.after env input).Balanced := by
  rw [Audited.after]
  split
  · exact h.answered input
  · exact (h.answered input).lapse _

theorem Balanced.next (h : a.Balanced) (label : AuditStep) : (a.next counted label).Balanced := by
  cases label with
  | takes env input => exact h.after input
  | collected request ready outcome =>
      have hTold : Balanced { a with collecting := a.collecting.erase request } :=
        ⟨h.account, h.apart⟩
      rw [Audited.next]
      split
      · exact hTold.lapse _
      · exact hTold

theorem Balanced.of_init (h : (system counted).init a) : a.Balanced := by
  obtain ⟨s, ⟨invitation, hCreate⟩, rfl⟩ := h
  obtain ⟨aggregate, -, rfl⟩ := create_spec hCreate
  exact ⟨fun key => by simp, fun _ hMem => (List.not_mem_nil hMem).elim⟩

theorem newReplays_after (input : Input) :
    newReplays a.coordinator (step env input a.coordinator) =
      ((a.coordinator.stimulus env input).bind (a.coordinator.reports env)).toList := by
  have hReplays : (step env input a.coordinator).replays =
      ((a.coordinator.stimulus env input).bind (a.coordinator.reports env)).toList ++
        a.coordinator.replays := congrArg Prod.snd (step_record input)
  rw [newReplays, hReplays, List.length_append, Nat.add_sub_cancel, List.take_left]

/-- What a request has in the ledgers tells whether its replay is founded. -/
theorem Balanced.founded_iff (h : a.Balanced) {request : ActionRequested} :
    a.founded request.replay = true ↔
      request.key ∈ a.coordinator.completedActions ∧ request.key ∉ a.spent := by
  rw [founded, List.any_eq_true]
  constructor
  · rintro ⟨other, hMem, hConcerns⟩
    have hKey : other.key = request.key := key_eq_iff.mpr hConcerns
    rw [← hKey]
    exact ⟨(h.account _).mpr (.inr ⟨other, hMem, rfl⟩), h.apart other hMem⟩
  · rintro ⟨hSpent, hNot⟩
    obtain ⟨other, hMem, hKey⟩ := ((h.account _).mp hSpent).resolve_left hNot
    exact ⟨other, hMem, key_eq_iff.mp hKey⟩

/-- A reported replay is unfounded where its key was wasted or a second transfer is asked for. -/
theorem Balanced.unfounded_iff (h : a.Balanced) {request : ActionRequested} :
    (a.coordinator.repeats env request = true ∧ a.founded request.replay = false) ↔
      (a.coordinator.validateAiAction env request).isOk = true ∧
        (request.key ∈ a.spent ∨ (a.coordinator.isFirst env request = true ∧
          request.action.asksTransfer = true ∧
          a.coordinator.pendingAiTransfer.isSome = true)) := by
  rw [← Bool.not_eq_true, h.founded_iff, repeats, isFirst]
  simp only [Bool.and_eq_true, Bool.or_eq_true, Bool.not_eq_true', List.contains_iff_mem,
    ← Bool.not_eq_true]
  have hAccount := (h.account request.key).mpr
  tauto

/-- A step reports an unfounded replay if it misreports, and only then. -/
theorem Balanced.unfounded_after (h : a.Balanced) (input : Input) :
    (a.after env input).unfounded = [] ↔
      a.unfounded = [] ∧ a.misreports (.takes env input) = false := by
  have hNew : (a.after env input).unfounded =
      (newReplays a.coordinator (step env input a.coordinator)).filter (!a.founded ·) ++
        a.unfounded := by
    rw [Audited.after]
    split
    · rfl
    · rfl
  rw [hNew, newReplays_after, List.append_eq_nil_iff, and_comm]
  apply and_congr_right
  intro _
  rw [misreports]
  split
  · next request hAsked =>
      rw [hAsked, Option.bind_some, reports]
      have hUnfounded := @unfounded_iff env a h request
      cases hHears : env.hears request.replay with
      | false =>
          rw [Bool.and_false, if_neg Bool.false_ne_true, Bool.and_false, Bool.false_and]
          exact ⟨fun _ => rfl, fun _ => rfl⟩
      | true =>
          rw [Bool.and_true, Bool.and_true, ← Bool.not_eq_true]
          simp only [Bool.and_eq_true, Bool.or_eq_true, List.contains_iff_mem, and_assoc]
          rw [← hUnfounded]
          cases a.coordinator.repeats env request with
          | false => exact ⟨fun _ h => Bool.false_ne_true h.1, fun _ => rfl⟩
          | true =>
              rw [if_pos rfl, Option.toList_some, List.filter_singleton]
              cases a.founded request.replay <;> simp
  · next hOther =>
      refine ⟨fun _ => rfl, fun _ => ?_⟩
      cases hAsked : a.coordinator.stimulus env input with
      | none => rfl
      | some stimulus =>
          cases stimulus with
          | aiAction request => exact (hOther request hAsked).elim
          | _ => rfl

theorem Balanced.unfounded_next (h : a.Balanced) (label : AuditStep) :
    (a.next counted label).unfounded = [] ↔ a.unfounded = [] ∧ a.misreports label = false := by
  cases label with
  | takes env input => exact h.unfounded_after input
  | collected request ready outcome =>
      have hSame : (a.next counted (.collected request ready outcome)).unfounded =
          a.unfounded := by
        rw [Audited.next]
        split
        · rfl
        · rfl
      rw [hSame, misreports]
      exact (and_iff_left rfl).symm

/-- Every replay that was reported so far was founded if no step misreported, and only then. The
later outcome of a deferred request counts for it. -/
theorem replays_founded_iff (h : Transition.Reachable (system counted) a) :
    a.unfounded = [] ↔
      Transition.ReachableWithin (system counted) (fun a label => a.misreports label = false)
        a := by
  constructor
  · have hBoth : a.Balanced ∧ (a.unfounded = [] → Transition.ReachableWithin (system counted)
        (fun a label => a.misreports label = false) a) := by
      refine Transition.Reachable.invariant h (P := fun a => a.Balanced ∧ (a.unfounded = [] →
        Transition.ReachableWithin (system counted) (fun a label => a.misreports label = false)
          a)) ?_ ?_
      · intro a hInit
        exact ⟨.of_init hInit, fun _ => ⟨a, hInit, .refl⟩⟩
      · rintro a label b ⟨hBalanced, hWithin⟩ ⟨hAllowed, rfl⟩
        refine ⟨hBalanced.next label, fun hNone => ?_⟩
        obtain ⟨hBefore, hStep⟩ := (hBalanced.unfounded_next label).mp hNone
        exact (hWithin hBefore).step hStep ⟨hAllowed, rfl⟩
    exact hBoth.2
  · intro hWithin
    have hBoth : a.Balanced ∧ a.unfounded = [] := by
      refine Transition.ReachableWithin.invariant hWithin
        (P := fun a => a.Balanced ∧ a.unfounded = []) ?_ ?_
      · intro a hInit
        refine ⟨.of_init hInit, ?_⟩
        obtain ⟨s, -, rfl⟩ := hInit
        rfl
      · rintro a label b ⟨hBalanced, hNone⟩ hStep ⟨_, rfl⟩
        exact ⟨hBalanced.next label, (hBalanced.unfounded_next label).mpr ⟨hNone, hStep⟩⟩
    exact hBoth.2

/-- A request that the core cannot serve yet. -/
def playTextRequest : ActionRequested where
  conversation := { jobId := "j", tenantId := "d", conversationId := "c", operationId := "o"
                    generation := 1 }
  operationId := "o"
  generation := 1
  deadlineAtMs := 5000
  action := .playText "hello" "v"

def collectDigitsRequest : ActionRequested :=
  { playTextRequest with action := .collectDigits 4 1000 }

/-- An environment with an AI service that takes every result. -/
def attendedEnv : Env :=
  { takingEnv with aiJobs := some { control := fun _ => .sent, captureStarts := fun _ _ => false } }

/-- A call that its AI agent answered. -/
def agentAnswered : List AuditStep :=
  [.takes attendedEnv .enter,
    .takes attendedEnv
      (sdpPrepared "prepare-ai-agent-answer-c" 1 .aiAgentAnswer "offer" none (.ok "answer")),
    .takes attendedEnv (callerAck .answerInboundInvite "answer-c" 1)]

/-- The coordinator is told of a request of the AI service. -/
def asked (request : ActionRequested) : AuditStep :=
  .takes attendedEnv (.control .coordinator (.aiActionRequested request))

/-- A collection that times out does not count as rejected. -/
def lenient (code : DigitCollectionResultCode) : Bool := code = .cancelled || code = .failed

instance (label : AuditStep) : Decidable (a.admissible label) :=
  match label with
  | .takes _ input => inferInstanceAs (Decidable (a.coordinator.admissible input))
  | .collected request _ _ => inferInstanceAs (Decidable (request ∈ a.collecting))

/-- The state that a schedule leads the audited coordinator of a new call to. -/
def scheduled (invitation : Invitation) (labels : List AuditStep) : Option Audited :=
  match create invitation with
  | .error _ => none
  | .ok s => Transition.follow (fun a label => a.admissible label)
    (fun a label => a.next lenient label) labels { coordinator := s }

theorem reachable_of_scheduled (P : Audited → Bool) (invitation : Invitation)
    (labels : List AuditStep) (h : (scheduled invitation labels).any P = true) :
    ∃ a, Transition.Reachable (system lenient) a ∧ P a = true := by
  rw [Option.any_eq_true] at h
  obtain ⟨a, hRun, hP⟩ := h
  rw [scheduled] at hRun
  split at hRun
  · cases hRun
  · next s hCreate =>
      refine ⟨a, ⟨_, ⟨s, ⟨invitation, hCreate⟩, rfl⟩, ?_⟩, hP⟩
      refine Transition.follow_runsWithin (fun a label hAllowed => ?_) hRun
      exact ⟨trivial, of_decide_eq_true hAllowed, rfl⟩

/-- A collection that is asked for twice is started once, and that is what the AI service is
told, also when the collection has timed out. -/
theorem replay_of_collection_founded :
    ∃ a : Audited, a.coordinator.replays.length = 2 ∧
      Transition.ReachableWithin (system lenient) (fun a label => a.misreports label = false)
        a := by
  obtain ⟨a, hReached, hReplayed⟩ := reachable_of_scheduled
    (fun a => a.unfounded.isEmpty && a.coordinator.replays.length = 2)
    (callTo (.aiAgent "a") [])
    (agentAnswered ++
      [asked collectDigitsRequest, asked collectDigitsRequest,
        .collected collectDigitsRequest (some (.ok ⟨"o", 1⟩))
          (some ⟨"o", .overallTimeout, [], none⟩),
        asked collectDigitsRequest])
    (by decide)
  rw [Bool.and_eq_true, List.isEmpty_iff, decide_eq_true_eq] at hReplayed
  exact ⟨a, hReplayed.2, (replays_founded_iff hReached).mp hReplayed.1⟩

/-- The second request to speak is reported as carried out, and the first one was rejected. -/
theorem replay_of_rejected_action :
    ¬ ∀ a, Transition.Reachable (system lenient) a → a.unfounded = [] := by
  intro hFounded
  obtain ⟨a, hReached, hReported⟩ := reachable_of_scheduled (!·.unfounded.isEmpty)
    (callTo (.aiAgent "a") []) (agentAnswered ++ [asked playTextRequest, asked playTextRequest])
    (by decide)
  rw [hFounded a hReached] at hReported
  exact Bool.false_ne_true hReported

end Audited

end Coordinator

end VoipSwitch
