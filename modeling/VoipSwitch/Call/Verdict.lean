import VoipSwitch.Call.Closing
import VoipSwitch.Call.Invariant

/-! Every handler that ends a call records why. What the end of a call consists of is its verdict;
most of what the coordinator does leaves it alone. -/
namespace VoipSwitch

open Stateful Keyed Proc

namespace Coordinator

/-- What is recorded of the call's end. -/
def outcome (s : Coordinator) : Option HangupCause × Option Nat :=
  (s.call.hangupCause, s.call.lastStatus)

/-- Whatever the end of a call consists of. -/
def verdict (s : Coordinator) :
    CallState × (Option HangupCause × Option Nat) × Bool × Option FinalCallSnapshot :=
  (s.call.state, s.outcome, s.finalizationStarted, s.finalSnapshot)

/-- `m` says nothing of how the call ends. -/
abbrev IsPlain {α : Type} (m : Handler α) : Prop :=
  Within (fun s t => t.verdict = s.verdict) (fun _ s t => t.verdict = s.verdict) m

namespace IsPlain

variable {α β : Type}

theorem pure (a : α) : IsPlain (pure a : Handler α) := fun _ _ => rfl

theorem modify {f : Coordinator → Coordinator} (h : ∀ s, (f s).verdict = s.verdict) :
    IsPlain (Proc.modify f) := Within.modify h

theorem bind {m : Handler β} {f : β → Handler α} (hm : IsPlain m) (hf : ∀ b, IsPlain (f b)) :
    IsPlain (m >>= f) := by
  apply Within.bind _ _ hm hf
  · exact fun _ _ _ first second => second.trans first
  · exact fun _ _ _ _ first second => second.trans first

theorem withState {f : Coordinator → Handler α} (hf : ∀ s, IsPlain (f s)) :
    IsPlain (Proc.get >>= f) := bind (Within.get fun _ => rfl) hf

theorem ite {c : Prop} [Decidable c] {m n : Handler α} (hm : IsPlain m) (hn : IsPlain n) :
    IsPlain (if c then m else n) := Within.ite hm hn

theorem of_quiet {m : Handler α} (hm : IsQuiet always m) : IsPlain m := by
  have hSame : ∀ s t, Quiet s t → t.verdict = s.verdict := by
    rintro s _ ⟨_, _, _, _, _, _, rfl, _⟩
    rfl
  intro env s
  exact hm.post (fun _ t ht => hSame s t ht) fun _ t ht => hSame s t ht

theorem reshapes {m : CallRuntime.Op α} (hm : Reshapes m) : IsPlain (onCall m) := by
  have hSame : ∀ (s : Coordinator) call, Reshaped s.call call →
      Coordinator.verdict { s with call := call } = s.verdict := by
    rintro s _ ⟨_, _, _, rfl, _⟩
    rfl
  intro env s
  exact post_reshapes hm (fun _ call h => hSame s call h) fun call h => hSame s call h

end IsPlain

theorem cancelTimer_plain (kind : CallTimerKind) : IsPlain (cancelTimer kind) := by
  intro env s
  cases kind <;> rfl

theorem startTimer_plain (kind : CallTimerKind) : IsPlain (startTimer kind) := by
  intro env s
  cases kind <;> rfl

theorem submitCaller_plain (kind : ActionKind) (actionId : String)
    (body : List (String × Document.Json)) : IsPlain (submitCallerAction kind actionId body) :=
  fun _ _ => post_submitCaller rfl rfl

theorem submitCallee_plain (kind : ActionKind) (actionId : String)
    (body : List (String × Document.Json)) : IsPlain (submitCalleeAction kind actionId body) :=
  fun _ _ => post_submitCallee rfl rfl

theorem submitMedia_plain (action : MediaAction) : IsPlain (submitMedia action) :=
  fun _ _ => post_submitMedia rfl rfl

theorem markCalleeTerminated_plain : IsPlain markCalleeTerminated := fun _ _ => rfl

theorem bumpMediaGeneration_plain : IsPlain bumpMediaGeneration := fun _ _ => rfl

theorem markLegTerminated_plain (sessionId : Option SessionId) :
    IsPlain (markLegTerminated sessionId) :=
  .withState fun _ => .ite (.modify fun _ => rfl) (.ite (.modify fun _ => rfl) (.pure _))

theorem hangupLateAnswer_plain : IsPlain hangupLateAnswer :=
  .withState fun _ => .ite (.pure _)
    (.bind (.modify fun _ => rfl) fun _ => submitCallee_plain _ _ _)

section Explained

variable {env : Env} {s : Coordinator}

/-- A call that ends has a cause. -/
def Explained (s : Coordinator) : Prop :=
  s.call.isTerminating = true → s.call.hangupCause.isSome = true

/-- A cause is recorded. -/
def Caused (s : Coordinator) : Prop := s.call.hangupCause.isSome = true

theorem Caused.explained (h : s.Caused) : s.Explained := fun _ => h

theorem Explained.of_live (h : s.call.isTerminating = false) : s.Explained :=
  fun hTerminating => (Bool.false_ne_true (h.symm.trans hTerminating)).elim

variable {α β : Type}

/-- What starts by recording a cause. -/
theorem Establishes.of_caused {m : Handler β} {f : β → Handler α}
    (hm : ∀ s, Post m env s (fun _ => Caused) fun _ => True) (hf : ∀ b, Retains Caused env (f b)) :
    Establishes Explained env (m >>= f) := by
  intro s
  apply (hm s).bind
  intro b t ht
  exact (hf b).post ht fun _ u hu => hu.explained

theorem IsPlain.caused {m : Handler α} (hm : IsPlain m) : Retains Caused env m := by
  intro s h
  apply (hm env s).mono
  · intro _ t ht
    simp only [verdict, outcome, Prod.mk.injEq] at ht
    rw [Caused, ht.2.1.1]
    exact h
  · exact fun _ _ => trivial

theorem beginTerminating_caused (cause : HangupCause) (s : Coordinator) :
    Post (beginTerminating cause) env s (fun _ => Caused) fun _ => True := by
  rw [post_beginTerminating]
  exact getOrInsert_isSome _ _

theorem beginFinishCall_caused : Retains Caused env beginFinishCall := by
  intro s h
  apply post_beginFinishCall
  · exact fun _ => h
  · rintro _ _ ⟨_, _, _, _, _, _, rfl, _⟩
    exact h

theorem beginFinishCall_explained : Retains Explained env beginFinishCall := by
  intro s h
  apply post_beginFinishCall
  · exact fun _ => h
  · rintro _ _ ⟨_, _, _, _, _, _, rfl, _⟩
    exact h

theorem finishOrArmCleanup_caused (startCleanupTimer : Bool) :
    Retains Caused env (finishOrArmCleanup startCleanupTimer) :=
  .withState fun _ => .ite beginFinishCall_caused (.ite (startTimer_plain _).caused (.pure _))

theorem terminateUnanswered_explains (status : Nat) (cause : HangupCause) (actionId : String) :
    Establishes Explained env (terminateUnanswered status cause actionId) := by
  refine .after fun _ => .after fun _ => .of_caused (fun s => ?_) fun _ => .withState fun s => ?_
  · rw [post_updateCall]
    exact rfl
  · exact .bind (submitCaller_plain _ _ _).caused fun _ => (startTimer_plain _).caused

theorem failMediaNegotiation_explained (calleeCommand : ActionKind) :
    Retains Explained env (failMediaNegotiation calleeCommand) := by
  refine .withState fun s => .ite (.pure _) (Establishes.retains ?_)
  refine .after fun _ => .after fun _ => .after fun _ => .of_caused (fun s => ?_) fun _ => ?_
  · rw [post_updateCall]
    exact rfl
  · refine .bind (cancelTimer_plain _).caused fun _ => ?_
    refine .bind (cancelTimer_plain _).caused fun _ => ?_
    refine .bind bumpMediaGeneration_plain.caused fun _ => ?_
    refine .bind (submitCallee_plain _ _ _).caused fun _ => ?_
    exact .bind (submitCaller_plain _ _ _).caused fun _ => (startTimer_plain _).caused

theorem explained_closing : Closing env Explained where
  congr _ _ h _ _ _ hState hEnds :=
    (hState hEnds).2 (h (hState hEnds).1)
  live _ _ := .of_live
  startCleanup _ h := h
  unanswered := terminateUnanswered_explains
  negotiation := failMediaNegotiation_explained

theorem disconnectPeer_caused (event : CallLegEvent) :
    Retains Caused env (disconnectPeer event) := by
  refine .bind (fun s _ => beginTerminating_caused _ s) fun _ => ?_
  refine .bind (cancelTimer_plain _).caused fun _ => .withState fun s => ?_
  refine .ite (.ite ?_ (.ite ?_ ?_)) ?_
  · exact .bind (.modify fun _ h => h) fun _ => (submitCallee_plain _ _ _).caused
  · exact markCalleeTerminated_plain.caused
  · exact (submitCallee_plain _ _ _).caused
  · exact (submitCaller_plain _ _ _).caused

theorem handleDisconnected_explained (event : CallLegEvent) :
    Retains Explained env (handleDisconnected event) := by
  refine .withState fun s =>
    .ite (.pure _) (.ite (explained_closing.failAiTransfer_retains _) (.ite ?_ ?_))
  · exact .bind (explained_closing.retryAfterAttemptEnded_retains _) fun _ => .pure _
  · refine .bind explained_closing.cancelDial fun _ => Establishes.retains ?_
    refine .after fun _ => .after fun _ => .of_caused (fun s => ?_) fun _ => ?_
    · rw [post_updateCall]
      exact getOrInsert_isSome _ _
    · refine .bind (markLegTerminated_plain _).caused fun _ => ?_
      exact .bind (.when (disconnectPeer_caused event)) fun _ => finishOrArmCleanup_caused _

theorem rejectAfterFailure_explains (event : CallLegEvent) :
    Establishes Explained env (rejectAfterFailure event) := by
  refine .after fun s => .after fun _ => .of_caused (beginTerminating_caused _) fun _ => ?_
  refine .bind (.when markCalleeTerminated_plain.caused) fun _ => .bind (.when ?_) fun _ =>
    finishOrArmCleanup_caused _
  refine .withState fun s => .bind (fun s _ => beginTerminating_caused _ s) fun _ => ?_
  exact .bind (cancelTimer_plain _).caused fun _ => (submitCaller_plain _ _ _).caused

theorem cancelPeer_caused (transferPending : Bool) :
    Retains Caused env (cancelPeer transferPending) := by
  refine .bind (fun s _ => beginTerminating_caused _ s) fun _ => ?_
  refine .bind (cancelTimer_plain _).caused fun _ => .withState fun s => ?_
  refine .ite ?_ (.ite ?_ (.ite ?_ ?_))
  · exact .bind (submitCallee_plain _ _ _).caused fun _ => .pure _
  · exact .bind markCalleeTerminated_plain.caused fun _ => .pure _
  · exact .bind (submitCallee_plain _ _ _).caused fun _ => .pure _
  · exact .bind (submitCallee_plain _ _ _).caused fun _ => .pure _

theorem handleCancelled_explains : Establishes Explained env handleCancelled := by
  refine .after fun _ => .after fun _ => .after fun s => .after fun _ => .after fun _ => ?_
  refine .after fun _ => .of_caused (fun s => ?_) fun _ => ?_
  · rw [post_updateCall]
    exact getOrInsert_isSome _ _
  · refine .ite (.bind (cancelPeer_caused _) fun _ => ?_) (.bind (.pure _) fun _ => ?_)
    all_goals exact finishOrArmCleanup_caused _

theorem terminateActionFailure_explains (kind : ActionKind) (peerFailure : Bool) :
    Establishes Explained env (terminateActionFailure kind peerFailure) := by
  refine .after fun _ => .after fun _ => .of_caused (fun s => ?_) fun _ => ?_
  · rw [post_updateCall]
    exact rfl
  · refine .bind (cancelTimer_plain _).caused fun _ => ?_
    refine .bind (cancelTimer_plain _).caused fun _ => ?_
    refine .bind (.when markCalleeTerminated_plain.caused) fun _ => .withState fun s => ?_
    exact .bind (.when (submitCaller_plain _ _ _).caused) fun _ => (startTimer_plain _).caused

theorem endAiCall_explains (cause : HangupCause) (actionId : String)
    (body : List (String × Document.Json)) :
    Post (endAiCall cause actionId body) env s (fun _ => Explained) Explained := by
  simp only [endAiCall, post_bind, post_beginTerminating, post_updateCall, post_assignState,
    post_markCalleeTerminated, post_cancelDial, post_cancelRing, post_startCleanup]
  exact post_submitCaller (fun _ => rfl) fun _ => rfl

theorem performAiAction_explained (request : ActionRequested) :
    Keeps env Explained Explained (performAiAction request) := by
  refine .withEnv (.withState fun s => ?_)
  split
  · exact .fail (fun _ h => h) _
  · refine .ite (.pure _) (.bind (.modify fun _ h => h) fun _ => ?_)
    split
    · exact .bind (fun s _ => endAiCall_explains _ _ _) fun _ => .pure _
    · exact explained_closing.quiet (collectAiDigits_quiet request _ _)
    · exact explained_closing.transferToExtension_keeps _ _
    all_goals exact .pure _

theorem handleAiAction_explained (request : ActionRequested) :
    Retains Explained env (handleAiAction request) := by
  refine .bind (.attempt (performAiAction_explained request)) fun result => .ite ?_ (.pure _)
  exact explained_closing.retains_quiet (sendActionResult_quiet _)

theorem beginShutdown_explained : Retains Explained env beginShutdown := by
  refine .bind (.modify fun _ h => h) fun _ => .withState fun s => ?_
  refine .ite (.pure _) (Establishes.retains ?_)
  refine .of_caused (beginTerminating_caused _) fun _ => ?_
  refine .bind (cancelTimer_plain _).caused fun _ => ?_
  refine .bind (cancelTimer_plain _).caused fun _ => ?_
  refine .bind (.when (submitCaller_plain _ _ _).caused) fun _ => ?_
  refine .bind (.when markCalleeTerminated_plain.caused) fun _ => .withState fun s => ?_
  exact .bind (.when (submitCallee_plain _ _ _).caused) fun _ => (startTimer_plain _).caused

theorem timeoutCall_explains (kind : CallTimerKind) (status : Nat) (cause : HangupCause)
    (cancelActionId rejectActionId reason : String) :
    Establishes Explained env
      (timeoutCall kind status cause cancelActionId rejectActionId reason) := by
  refine .after fun _ => .after fun _ => .of_caused (fun s => ?_) fun _ => ?_
  · rw [post_updateCall]
    exact rfl
  · refine .bind (submitCallee_plain _ _ _).caused fun _ => .withState fun s => ?_
    exact .bind (submitCaller_plain _ _ _).caused fun _ => (startTimer_plain _).caused

theorem forceRemoval_explains : Establishes Explained env forceRemoval := by
  refine .after fun _ => .after fun _ => .after fun _ => .of_caused (fun s => ?_) fun _ => ?_
  · rw [post_updateCall]
    exact getOrInsert_isSome _ _
  · exact beginFinishCall_caused

theorem finishNow_explains (cause : HangupCause) : Establishes Explained env (finishNow cause) :=
  .of_caused (beginTerminating_caused _) fun _ => beginFinishCall_caused

theorem finishUnexplained_explains : Establishes Explained env finishUnexplained := by
  refine .of_caused (fun s => ?_) fun _ => beginFinishCall_caused
  rw [post_updateCall]
  exact getOrInsert_isSome _ _

theorem explained_closingHandlers : ClosingHandlers env Explained where
  toClosing := explained_closing
  disconnected := handleDisconnected_explained
  rejected event := (rejectAfterFailure_explains event).retains
  cancelled := handleCancelled_explains.retains
  failed := terminateActionFailure_explains
  timeout := timeoutCall_explains

theorem handleTimerExpiry_explained (kind : CallTimerKind) (generation : Nat) :
    Retains Explained env (handleTimerExpiry kind generation) := by
  by_cases hKind : kind = .cleanup
  · subst hKind
    intro s h
    simp only [handleTimerExpiry, handleCleanupTimer, post_bind, post_modify, post_get, post_ite]
    split
    · exact h
    split
    · next hRetry =>
        apply explained_closing.forceRetryAfterCleanup_establishes
        exact Option.isSome_iff_ne_none.mp hRetry
    split
    · exact h
    · exact forceRemoval_explains _
  · exact explained_closingHandlers.handleTimerExpiry_retains hKind generation

theorem respond_explained (stimulus : Stimulus) : Retains Explained env (respond stimulus) := by
  cases stimulus with
  | callerEvent frame event =>
      exact explained_closingHandlers.handleCallerLegEvent_retains frame event
  | calleeEvent frame event =>
      exact explained_closingHandlers.handlePeerLegEvent_retains frame event
  | actionFailed failure peerFailure =>
      exact explained_closingHandlers.handleActionFailure_retains failure peerFailure
  | actionAck ack => exact explained_closingHandlers.handleActionAck_retains ack
  | ownedLegAck ack => exact explained_closingHandlers.handleOwnedLegActionAck_retains ack
  | mediaResult result => exact explained_closing.handleMediaActionResult_retains result
  | registrationResult result =>
      exact explained_closing.handleAttemptRegistrationResult_retains result
  | aiAction request => exact handleAiAction_explained request
  | gatewayUnavailable =>
      refine .withState fun s => .ite (.pure _) fun t _ => ?_
      exact (endAiCall_explains _ _ _).mono (fun _ _ ht => ht) fun _ _ => trivial
  | shutdown => exact beginShutdown_explained
  | timer kind generation => exact handleTimerExpiry_explained kind generation
  | removal cause => exact (finishNow_explains cause).retains
  | abandoned => exact finishUnexplained_explains.retains

theorem start_explained : Keeps env Explained (fun _ => False) start := by
  intro s h
  apply post_start (J := Explained)
  · exact fun _ _ _ _ ht => ht
  · intro t ht
    have hEnd : Establishes Explained env (do
        beginTerminating .internalError
        updateCall fun call => { call with hangupCause := some .internalError }
        beginFinishCall) :=
      .of_caused (beginTerminating_caused _) fun _ => .bind (.modify fun _ _ => rfl) fun _ =>
        beginFinishCall_caused
    have hKept := hEnd t
    rw [post_bind, post_beginTerminating, post_bind, post_updateCall] at hKept ⊢
    exact beginFinishCall_total hKept
  · exact fun _ => h
  · exact fun _ => h
  · exact fun _ ht _ => ht
  · exact fun _ _ ht _ => ht
  · exact fun t _ => finishNow_total (finishNow_explains _ t)
  · exact fun _ ht => ht
  · exact fun t ht _ => ht

theorem explained_settles : Settles env Explained fun _ => True where
  quiet := by
    rintro s _ ⟨_, _, _, _, _, _, rfl, _⟩ h
    exact h
  flags _ _ _ _ _ _ _ h := h
  managed := by
    rintro s _ ⟨_, _, _, _, _, _, _, _, _, _, _, _, _, rfl, _⟩ h
    exact h
  refused _ _ _ := trivial
  explained _ h _ := fun _ => getOrInsert_isSome _ _
  finish s h _ _ := beginFinishCall_total (beginFinishCall_explained s h)
  failed s _ := by
    rw [post_bind, post_beginTerminating]
    exact finishUnexplained_total (finishUnexplained_explains _)
  start := start_explained

/-- A call that ends has a cause. -/
theorem explained_of_reachable (h : Transition.Reachable system s) : s.Explained := by
  apply h.invariant
  · rintro s ⟨invitation, hCreate⟩
    obtain ⟨aggregate, _, rfl⟩ := create_spec hCreate
    exact .of_live rfl
  · rintro s ⟨env, input⟩ t hBefore ⟨_, rfl⟩
    have hTaken : (s.taken env input).Explained := by
      cases input <;> exact hBefore
    exact explained_settles.step hTaken fun stimulus _ => respond_explained stimulus _ hTaken

end Explained

end Coordinator

end VoipSwitch
