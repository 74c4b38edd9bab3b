import VoipSwitch.Call.Invariant

/-! The state of a call changes as its transition table allows. The table is not consulted by
the handlers; what keeps them within it is that an answer which is being prepared, one which
waits for its acknowledgement and an answered caller exclude each other. -/
namespace VoipSwitch

open Stateful Keyed Proc

/-- A request for the caller's answer, made in this media generation. -/
def MediaAction.answersAt (generation : Nat) : MediaAction → Bool
  | .prepareSdp _ requested (.answer _) _ _ => requested = generation
  | .prepareSdp _ requested .aiAgentAnswer _ _ => requested = generation
  | _ => false

/-- The SDP that is prepared for the answer of a call. -/
def PrepareSdpPurpose.isAnswer : PrepareSdpPurpose → Bool
  | .answer _ | .aiAgentAnswer => true
  | _ => false

def MediaAction.answersTransfer : MediaAction → Bool
  | .prepareSdp _ _ .transferAnswer _ _ => true
  | _ => false

/-- A request that prepares no answer. -/
def MediaAction.isNeutral (action : MediaAction) : Prop :=
  action.answersTransfer = false ∧ ∀ generation, action.answersAt generation = false

theorem MediaAction.isNeutral_of_isDtmf {action : MediaAction} (h : action.isDtmf = true) :
    action.isNeutral := by
  cases action with
  | prepareSdp _ _ _ _ _ => exact (Bool.false_ne_true h).elim
  | _ => exact ⟨rfl, fun _ => rfl⟩

theorem satSucc64_iterate {n : Nat} (h : n ≤ u64Max) (bumps : Nat) :
    satSucc64^[bumps] n ≤ u64Max ∧ (satSucc64^[bumps] n = n ∨ n < satSucc64^[bumps] n) := by
  induction bumps with
  | zero => exact ⟨h, .inl rfl⟩
  | succ bumps ih =>
      rw [Function.iterate_succ_apply']
      generalize satSucc64^[bumps] n = m at ih
      rw [satSucc64]
      omega

namespace Coordinator

/-- The answers that are being prepared for the current generation. -/
def answersDue (s : Coordinator) : List MediaAction :=
  s.mediaQueue.filter (MediaAction.answersAt s.mediaGeneration)

/-- The state was only ever changed as the table allows. -/
structure Conforming (s : Coordinator) : Prop where
  trail : Leads .establishing s.call.state s.journal
  allowed : ∀ source target, .stateAssigned source target ∈ s.journal →
    source = target ∨ validCallStateTransition source target = true
  unfinished : s.call.state ≠ .completed

/-- How far a live call is with its answer. -/
structure Phase (s : Coordinator) : Prop where
  answering : s.call.state = .answering → s.pendingAnswer.isSome = true
  pending : s.pendingAnswer.isSome = true → s.call.state = .answering
  connected : s.call.isAnswered = true → s.call.state = .connected
  answered : s.call.state = .connected → s.call.isAnswered = true
  transfer : s.pendingAiTransfer.isSome = true → s.call.isAnswered = true
  transferred : ∀ action ∈ s.mediaQueue, action.answersTransfer = true → s.call.isAnswered = true
  bounded : ∀ action ∈ s.mediaQueue, ∀ generation, action.answersAt generation = true →
    generation ≤ s.mediaGeneration
  fits : s.mediaGeneration ≤ u64Max
  due : s.mediaGeneration < u64Max →
    s.answersDue = [] ∨ ((∃ action, s.answersDue = [action]) ∧ s.call.state = .establishing)

structure Phased (s : Coordinator) : Prop where
  conforming : s.Conforming
  phase : s.call.isTerminating = false → s.Phase

section Frame

variable {s t : Coordinator}

theorem Phased.stop (s : Coordinator) (h : s.Phased) : s.Conforming := h.conforming

theorem Phased.of_terminating (s : Coordinator) (h : s.Conforming)
    (hTerminating : s.call.isTerminating = true) : s.Phased :=
  ⟨h, fun hLive => (Bool.false_ne_true (hLive.symm.trans hTerminating)).elim⟩

/-- What the phase of a call depends on. -/
def phaseView (s : Coordinator) : CallState × Option PendingAnswer × Bool ×
    Option PendingAiTransfer × List MediaAction × Nat :=
  (s.call.state, s.pendingAnswer, s.call.isAnswered, s.pendingAiTransfer, s.mediaQueue,
    s.mediaGeneration)

theorem Phase.congr (h : s.Phase) (hSame : t.phaseView = s.phaseView) : t.Phase := by
  simp only [phaseView, Prod.mk.injEq] at hSame
  obtain ⟨hState, hPending, hAnswered, hTransfer, hQueue, hGeneration⟩ := hSame
  have hDue : t.answersDue = s.answersDue := by rw [answersDue, answersDue, hQueue, hGeneration]
  constructor
  · rw [hState, hPending]
    exact h.answering
  · rw [hState, hPending]
    exact h.pending
  · rw [hState, hAnswered]
    exact h.connected
  · rw [hState, hAnswered]
    exact h.answered
  · rw [hTransfer, hAnswered]
    exact h.transfer
  · rw [hQueue, hAnswered]
    exact h.transferred
  · rw [hQueue, hGeneration]
    exact h.bounded
  · rw [hGeneration]
    exact h.fits
  · rw [hGeneration, hDue, hState]
    exact h.due

theorem Conforming.congr (h : s.Conforming) (hState : t.call.state = s.call.state)
    (hJournal : t.journal = s.journal) : t.Conforming := by
  constructor
  · rw [hState, hJournal]
    exact h.trail
  · rw [hJournal]
    exact h.allowed
  · rw [hState]
    exact h.unfinished

theorem Phased.congr (h : s.Phased) (hSame : t.phaseView = s.phaseView)
    (hJournal : t.journal = s.journal) : t.Phased := by
  have hState : t.call.state = s.call.state := congrArg Prod.fst hSame
  refine ⟨h.conforming.congr hState hJournal, fun hLive => ?_⟩
  rw [CallRuntime.isTerminating, hState] at hLive
  exact (h.phase hLive).congr hSame

/-- A request that prepares no answer does not concern the phase. -/
theorem Phased.queue {action : MediaAction} (h : s.Phased) (hNeutral : action.isNeutral) :
    (s.queued action).Phased := by
  refine ⟨h.conforming.congr rfl rfl, fun hLive => ?_⟩
  have hPhase := h.phase hLive
  have hDue : (s.queued action).answersDue = s.answersDue := by
    rw [answersDue, answersDue, queued, List.filter_append,
      List.filter_cons_of_neg (by rw [hNeutral.2]; exact Bool.false_ne_true), List.filter_nil,
      List.append_nil]
  refine { hPhase with transferred := ?_, bounded := ?_, due := ?_ }
  · intro other hMem hTransfer
    rcases List.mem_append.mp hMem with hOld | hNew
    · exact hPhase.transferred other hOld hTransfer
    · rw [List.mem_singleton.mp hNew, hNeutral.1] at hTransfer
      exact (Bool.false_ne_true hTransfer).elim
  · intro other hMem generation hAnswers
    rcases List.mem_append.mp hMem with hOld | hNew
    · exact hPhase.bounded other hOld generation hAnswers
    · rw [List.mem_singleton.mp hNew, hNeutral.2] at hAnswers
      exact (Bool.false_ne_true hAnswers).elim
  · intro hBelow
    rw [hDue]
    exact hPhase.due hBelow

/-- An entry that is no assignment does not concern the phase. -/
theorem Phased.note (entry : Entry) (h : s.Phased)
    (hOther : ∀ source target, entry ≠ .stateAssigned source target) :
    Phased { s with journal := entry :: s.journal } := by
  have hTrail : Leads .establishing s.call.state (entry :: s.journal) := by
    cases entry with
    | stateAssigned source target => exact (hOther source target rfl).elim
    | _ => exact h.conforming.trail
  refine ⟨⟨hTrail, ?_, h.conforming.unfinished⟩, fun hLive => (h.phase hLive).congr rfl⟩
  intro source target hMem
  rcases List.mem_cons.mp hMem with hNew | hOld
  · exact (hOther source target hNew.symm).elim
  · exact h.conforming.allowed source target hOld

/-- The table is kept by an assignment that it allows. -/
theorem Conforming.assigned (state : CallState) (h : s.Conforming)
    (hAllowed : s.call.state = state ∨ validCallStateTransition s.call.state state = true)
    (hUnfinished : state ≠ .completed) : (s.assigned state).Conforming := by
  refine ⟨⟨rfl, h.trail⟩, ?_, hUnfinished⟩
  intro source target hMem
  rcases List.mem_cons.mp hMem with hNew | hOld
  · obtain ⟨rfl, rfl⟩ := Entry.stateAssigned.inj hNew
    exact hAllowed
  · exact h.allowed source target hOld

/-- A live call without an answer is still being established. -/
theorem Phase.establishing (h : s.Phase) (hLive : s.call.isTerminating = false)
    (hPending : s.pendingAnswer = none) (hUnanswered : s.call.isAnswered = false) :
    s.call.state = .establishing := by
  cases hState : s.call.state with
  | establishing => rfl
  | answering =>
      have hSome := h.answering hState
      rw [hPending] at hSome
      exact Bool.noConfusion hSome
  | connected => exact (Bool.false_ne_true (hUnanswered.symm.trans (h.answered hState))).elim
  | terminating | completed =>
      rw [CallRuntime.isTerminating, hState] at hLive
      exact Bool.noConfusion hLive

/-- A request of the next media generation. -/
theorem Phased.ask (action : MediaAction) (h : s.Phased)
    (hTransfer : s.call.isTerminating = false → action.answersTransfer = true →
      s.call.isAnswered = true)
    (hAt : ∀ generation, action.answersAt generation = true →
      generation = satSucc64 s.mediaGeneration)
    (hState : s.call.isTerminating = false → action.answersTransfer = false →
      s.call.state = .establishing) :
    Phased { s with
      mediaGeneration := satSucc64 s.mediaGeneration, mediaQueue := s.mediaQueue ++ [action] } := by
  refine ⟨h.conforming.congr rfl rfl, fun hLive => ?_⟩
  have hPhase := h.phase hLive
  have hFits := hPhase.fits
  refine { hPhase with transferred := ?_, bounded := ?_, fits := ?_, due := ?_ }
  · intro other hMem hOther
    rcases List.mem_append.mp hMem with hOld | hNew
    · exact hPhase.transferred other hOld hOther
    · rw [List.mem_singleton.mp hNew] at hOther
      exact hTransfer hLive hOther
  · intro other hMem generation hAnswers
    rcases List.mem_append.mp hMem with hOld | hNew
    · have hBefore := hPhase.bounded other hOld generation hAnswers
      show generation ≤ satSucc64 s.mediaGeneration
      rw [satSucc64]
      omega
    · rw [List.mem_singleton.mp hNew] at hAnswers
      exact (hAt generation hAnswers).le
  · exact Nat.min_le_right _ _
  · intro hBelow
    have hNext : s.mediaGeneration < satSucc64 s.mediaGeneration := by
      have hBelow' : satSucc64 s.mediaGeneration < u64Max := hBelow
      rw [satSucc64] at hBelow' ⊢
      omega
    have hOld : s.mediaQueue.filter (MediaAction.answersAt (satSucc64 s.mediaGeneration)) = [] := by
      rw [List.filter_eq_nil_iff]
      intro other hMem hAnswers
      exact Nat.not_le_of_lt hNext (hPhase.bounded other hMem _ hAnswers)
    rw [answersDue, List.filter_append, hOld, List.nil_append]
    cases hDue : action.answersAt (satSucc64 s.mediaGeneration) with
    | false => exact .inl (List.filter_cons_of_neg (by rw [hDue]; exact Bool.false_ne_true))
    | true =>
        right
        refine ⟨⟨action, List.filter_cons_of_pos hDue⟩, hState hLive ?_⟩
        cases action with
        | prepareSdp _ _ purpose _ _ =>
            cases purpose with
            | transferAnswer => exact Bool.noConfusion hDue
            | _ => rfl
        | _ => rfl

/-- An answered call has nothing left to prepare. -/
theorem Phase.connect (h : s.Phase) (hState : s.call.state ≠ .establishing)
    (hConnected : t.call.state = .connected) (hPending : t.pendingAnswer = none)
    (hAnswered : t.call.isAnswered = true) (hQueue : t.mediaQueue = s.mediaQueue)
    (hGeneration : t.mediaGeneration = s.mediaGeneration) : t.Phase := by
  have hDue : t.answersDue = s.answersDue := by rw [answersDue, answersDue, hQueue, hGeneration]
  constructor
  · intro hAnswering
    exact CallState.noConfusion (hConnected.symm.trans hAnswering)
  · intro hSome
    rw [hPending] at hSome
    exact Bool.noConfusion hSome
  · exact fun _ => hConnected
  · exact fun _ => hAnswered
  · exact fun _ => hAnswered
  · exact fun _ _ _ => hAnswered
  · rw [hQueue, hGeneration]
    exact h.bounded
  · rw [hGeneration]
    exact h.fits
  · intro hBelow
    rw [hGeneration] at hBelow
    rw [hDue]
    rcases h.due hBelow with hNone | hOne
    · exact .inl hNone
    · exact (hState hOne.2).elim

theorem Conforming.ending (s t : Coordinator) (hEnding : Ending s t) (h : s.Conforming) :
    t.Conforming := by
  obtain ⟨added, hJournal, hEnds, hLeads⟩ := hEnding.journal
  constructor
  · rw [hJournal]
    exact h.trail.append hLeads
  · intro source target hMem
    rw [hJournal] at hMem
    rcases List.mem_append.mp hMem with hNew | hOld
    · rcases hEnds _ hNew with hSame | ⟨rfl, rfl⟩
      · exact .inl hSame
      · have hUnfinished := h.unfinished
        cases hState : s.call.state with
        | completed => exact (hUnfinished hState).elim
        | terminating => exact .inl rfl
        | establishing => exact .inr rfl
        | answering => exact .inr rfl
        | connected => exact .inr rfl
    · exact h.allowed source target hOld
  · rcases hEnding.state with hSame | hTerminating
    · rw [hSame]
      exact h.unfinished
    · rw [hTerminating]
      exact CallState.noConfusion

theorem live_of_ending (hEnding : Ending s t) (hLive : t.call.isTerminating = false) :
    s.call.isTerminating = false ∧ t.call.state = s.call.state := by
  rw [CallRuntime.isTerminating] at hLive ⊢
  rcases hEnding.state with hSame | hTerminating
  · exact ⟨hSame ▸ hLive, hSame⟩
  · rw [hTerminating] at hLive
    exact Bool.noConfusion hLive

/-- The answers that are due stay due until the generation moves on. -/
theorem answersDue_of_ending (hEnding : Ending s t) (hFits : s.mediaGeneration ≤ u64Max)
    (hBounded : ∀ action ∈ s.mediaQueue, ∀ generation, action.answersAt generation = true →
      generation ≤ s.mediaGeneration) :
    t.mediaGeneration = s.mediaGeneration ∧ t.answersDue = s.answersDue ∨
      s.mediaGeneration < t.mediaGeneration ∧ t.answersDue = [] := by
  obtain ⟨added, hQueue, hDtmf⟩ := hEnding.queue
  obtain ⟨bumps, hGeneration⟩ := hEnding.generation
  have hAdded : added.filter (MediaAction.answersAt t.mediaGeneration) = [] := by
    rw [List.filter_eq_nil_iff]
    intro action hMem
    rw [(MediaAction.isNeutral_of_isDtmf (hDtmf action hMem)).2]
    exact Bool.false_ne_true
  have hDue : t.answersDue = s.mediaQueue.filter (MediaAction.answersAt t.mediaGeneration) := by
    rw [answersDue, hQueue, List.filter_append, hAdded, List.append_nil]
  rcases (satSucc64_iterate hFits bumps).2 with hSame | hMore
  · left
    rw [← hGeneration] at hSame
    refine ⟨hSame, ?_⟩
    rw [hDue, hSame, answersDue]
  · right
    rw [← hGeneration] at hMore
    refine ⟨hMore, ?_⟩
    rw [hDue, List.filter_eq_nil_iff]
    intro action hMem hAnswers
    have hOld := hBounded action hMem _ hAnswers
    omega

theorem Phase.ending (hEnding : Ending s t) (hLive : t.call.isTerminating = false)
    (h : s.Phase) : t.Phase := by
  obtain ⟨_, hState⟩ := live_of_ending hEnding hLive
  have hPending : t.pendingAnswer = s.pendingAnswer := congrArg Core.pendingAnswer hEnding.core
  have hAnswered : t.call.isAnswered = s.call.isAnswered :=
    congrArg (·.answeredAtMs.isSome) (congrArg Core.caller hEnding.core)
  have hDue := answersDue_of_ending hEnding h.fits h.bounded
  obtain ⟨added, hQueue, hDtmf⟩ := hEnding.queue
  constructor
  · rw [hState, hPending]
    exact h.answering
  · rw [hState, hPending]
    exact h.pending
  · rw [hState, hAnswered]
    exact h.connected
  · rw [hState, hAnswered]
    exact h.answered
  · intro hTransfer
    rw [hAnswered]
    apply h.transfer
    rcases hEnding.transfer with hSame | hNone
    · rwa [← hSame]
    · rw [hNone, Option.isSome_none] at hTransfer
      exact (Bool.false_ne_true hTransfer).elim
  · intro action hMem hTransfer
    rw [hAnswered]
    rw [hQueue] at hMem
    rcases List.mem_append.mp hMem with hOld | hNew
    · exact h.transferred action hOld hTransfer
    · rw [(MediaAction.isNeutral_of_isDtmf (hDtmf action hNew)).1] at hTransfer
      exact (Bool.false_ne_true hTransfer).elim
  · intro action hMem generation hAnswers
    rw [hQueue] at hMem
    rcases List.mem_append.mp hMem with hOld | hNew
    · have hBefore := h.bounded action hOld generation hAnswers
      omega
    · rw [(MediaAction.isNeutral_of_isDtmf (hDtmf action hNew)).2] at hAnswers
      exact (Bool.false_ne_true hAnswers).elim
  · obtain ⟨bumps, hGeneration⟩ := hEnding.generation
    rw [hGeneration]
    exact (satSucc64_iterate h.fits bumps).1
  · intro hBelow
    rcases hDue with ⟨hSame, hKept⟩ | ⟨_, hNone⟩
    · rw [hKept, hState]
      rw [hSame] at hBelow
      exact h.due hBelow
    · exact .inl hNone

theorem Phased.ending (s t : Coordinator) (hEnding : Ending s t) (h : s.Phased) : t.Phased :=
  ⟨h.conforming.ending s t hEnding, fun hLive =>
    (h.phase (live_of_ending hEnding hLive).1).ending hEnding hLive⟩

end Frame

section Handlers

variable {env : Env} {s : Coordinator}

abbrev KeepsPhased {α : Type} (env : Env) (m : Handler α) : Prop := Keeps env Phased Conforming m

theorem beginNextAttempt_phased (s : Coordinator) (status : Nat) (h : s.Phased) :
    Post (beginNextAttempt status) env s (fun _ => Phased) Conforming := by
  apply beginNextAttempt_post h
  · exact fun _ => h.conforming.congr rfl rfl
  · intro candidate rest aggregate _ _ _ _ _ actionId t hReached
    have hBegun := Phased.ending _ t hReached (h.congr rfl rfl)
    exact ⟨hBegun.conforming, hBegun.queue ⟨rfl, fun _ => rfl⟩⟩

theorem retryAfterOriginateFailure_phased : KeepsPhased env retryAfterOriginateFailure :=
  retryAfterOriginateFailure_keeps Phased.ending fun s status h _ =>
    beginNextAttempt_phased s status h

theorem retryAfterAttemptEnded_phased (status : Nat) :
    KeepsPhased env (retryAfterAttemptEnded status) :=
  retryAfterAttemptEnded_keeps Phased.ending Phased.stop fun s status h _ =>
    beginNextAttempt_phased s status h

theorem handleDisconnected_phased (event : CallLegEvent) :
    KeepsPhased env (handleDisconnected event) :=
  handleDisconnected_keeps Phased.ending Phased.stop retryAfterAttemptEnded_phased

theorem handleProvisional_phased (event : CallLegEvent) :
    KeepsPhased env (handleProvisional event) := by
  apply handleProvisional_keeps Phased.ending Phased.stop
  · intro s h hLive hPending _ hUnanswered
    have hPhase := h.phase hLive
    have hState := hPhase.establishing hLive hPending hUnanswered
    refine ⟨h.conforming.assigned .establishing (.inl hState) CallState.noConfusion, fun _ => ?_⟩
    apply hPhase.congr
    rw [phaseView, phaseView, hState]
    rfl
  · intro s actionId statusCode startRingTimer sdp h
    exact h.queue ⟨rfl, fun _ => rfl⟩

theorem prepareAnswer_phased {answer : SdpBody} (h : s.Phased)
    (hFirst : s.pendingAiTransfer.isSome = true ∨ s.call.isAnswered = false)
    (hPending : s.pendingAnswer = none) :
    Post (prepareAnswer answer s.pendingAiTransfer.isSome) env s (fun _ => Phased) Conforming := by
  apply post_prepareAnswer
  · intro actionId
    cases hTransfer : s.pendingAiTransfer.isSome with
    | true =>
        have hAsked := h.ask (.prepareSdp actionId (satSucc64 s.mediaGeneration)
          .transferAnswer answer none) (fun hLive _ => (h.phase hLive).transfer hTransfer)
          (fun _ hAnswers => Bool.noConfusion hAnswers) fun _ hOther => Bool.noConfusion hOther
        exact hAsked.congr rfl rfl
    | false =>
        have hUnanswered := hFirst.resolve_left (by rw [hTransfer]; exact Bool.false_ne_true)
        have hAsked := h.ask (.prepareSdp actionId (satSucc64 s.mediaGeneration)
          (.answer (env.payloadTypes answer)) answer none)
          (fun _ hOther => Bool.noConfusion hOther)
          (fun _ hAnswers => (of_decide_eq_true hAnswers).symm)
          fun hLive _ => (h.phase hLive).establishing hLive hPending hUnanswered
        exact hAsked.congr rfl rfl
  · exact h.conforming.congr rfl rfl

theorem handleAnswered_phased (event : CallLegEvent) : KeepsPhased env (handleAnswered event) := by
  apply handleAnswered_keeps Phased.ending Phased.stop
  · intro s h hRetry
    exact post_retryAfterLateAnswer Phased.ending Phased.stop
      (fun s status h _ => beginNextAttempt_phased s status h) h hRetry fun t ht => ⟨rfl, ht⟩
  · intro s answer h _ hFirst hPending _
    exact prepareAnswer_phased h hFirst hPending

theorem handlePeerLegEvent_phased (frame : LegFrame) (event : CallLegEvent) :
    KeepsPhased env (handlePeerLegEvent frame event) := by
  intro s h
  have hHeard : Phased (s.heard frame event) := h.note _ nofun
  apply post_handlePeerLegEvent hHeard
  · exact fun _ _ _ _ => hHeard.congr rfl rfl
  · exact fun _ _ _ => handleProvisional_phased event _ hHeard
  · exact fun _ _ => handleAnswered_phased event _ hHeard
  · exact fun _ _ =>
      handleFailed_keeps Phased.ending Phased.stop retryAfterAttemptEnded_phased _ hHeard
  · exact fun _ _ _ => handleDisconnected_phased event _ hHeard

/-- The adapter answered the caller's invitation. -/
theorem connectAnswer_phased {pending : PendingAnswer} (h : s.Phased)
    (hPending : s.pendingAnswer.isSome = true) (hLive : s.call.isTerminating = false) :
    Post (connectAnswer pending) env { s with pendingAnswer := none } (fun _ => Phased)
      Conforming := by
  have hPhase := h.phase hLive
  have hState := hPhase.pending hPending
  have hConforming : ∀ aggregate caller bridge, Conforming
      (connected { s with pendingAnswer := none } aggregate caller bridge) := by
    intro aggregate caller bridge
    have hAssigned := h.conforming.assigned .connected (.inr (by rw [hState]; rfl))
      CallState.noConfusion
    exact hAssigned.congr rfl rfl
  apply post_connectAnswer
  · intro aggregate caller bridge _ _ t hReached
    exact Conforming.ending _ t hReached (hConforming aggregate caller bridge)
  · intro aggregate caller bridge _ _ hAnswered t actionId recording callId fast hReached _
    have hConnected : Phased (connected { s with pendingAnswer := none } aggregate caller bridge) :=
      ⟨hConforming aggregate caller bridge, fun _ =>
        hPhase.connect (by rw [hState]; exact CallState.noConfusion) rfl rfl hAnswered rfl rfl⟩
    have hQueued : Phased (t.queued
        (.startAnswerMedia actionId t.mediaGeneration recording callId fast)) :=
      (Phased.ending _ t hReached hConnected).queue ⟨rfl, fun _ => rfl⟩
    exact hQueued.congr rfl rfl
  · exact fun event _ => handleDisconnected_phased event

/-- An acknowledgement is for the answer that is pending, or there is none. -/
theorem confirmAnswer_phased {actionId : String} (h : s.Phased)
    (hOwn : s.call.isTerminating = false →
      ∀ pending, s.pendingAnswer = some pending → pending.actionId = actionId) :
    Post (confirmAnswer actionId) env s (fun _ => Phased) Conforming := by
  apply post_confirmAnswer
  · exact fun _ => h
  · intro pending hPending hDropped
    apply Phased.of_terminating
    · exact h.conforming.congr rfl rfl
    · rw [← Bool.not_eq_false]
      intro hLive
      rcases hDropped with hOther | hTerminating
      · exact hOther (hOwn hLive pending hPending)
      · exact Bool.false_ne_true (hLive.symm.trans hTerminating)
  · intro pending hPending _ hLive
    exact connectAnswer_phased h (by rw [hPending, Option.isSome_some]) hLive

/-- The callee of a transfer takes over a call that is connected already. -/
theorem connectTransfer_phased (h : s.Phased) (hLive : s.call.isTerminating = false)
    (hAnswered : s.call.isAnswered = true) :
    Post connectTransfer env s (fun _ => Phased) Conforming := by
  have hPhase := h.phase hLive
  have hState := hPhase.connected hAnswered
  have hPending : s.pendingAnswer = none := by
    rw [← Option.not_isSome_iff_eq_none]
    intro hSome
    exact CallState.noConfusion (hState.symm.trans (hPhase.pending hSome))
  have hConforming : ∀ aggregate caller bridge, Conforming
      { s.connected aggregate caller bridge with answerInProgress := false } := by
    intro aggregate caller bridge
    exact (h.conforming.assigned .connected (.inl hState) CallState.noConfusion).congr
      rfl rfl
  apply post_connectTransfer Phased.ending Phased.stop
  · intro aggregate caller bridge _ _ t hReached
    exact Conforming.ending _ t hReached (hConforming aggregate caller bridge)
  · intro aggregate caller bridge _ _ hSame t actionId recording callId fast hReached _
    have hConnected : Phased
        { s.connected aggregate caller bridge with answerInProgress := false } := by
      refine ⟨hConforming aggregate caller bridge, fun _ => ?_⟩
      have hStill : caller.answeredAtMs.isSome = true := by
        rw [hSame]
        exact hAnswered
      exact hPhase.connect (by rw [hState]; exact CallState.noConfusion) rfl hPending hStill rfl rfl
    have hQueued : Phased (t.queued
        (.startAnswerMedia actionId t.mediaGeneration recording callId fast)) :=
      (Phased.ending _ t hReached hConnected).queue ⟨rfl, fun _ => rfl⟩
    exact Phased.ending _ _ (.dropTransfer _) hQueued

theorem activateCurrentBridge_phased (generation activeAtMs : Nat) :
    KeepsPhased env (onCall (CallRuntime.activateCurrentBridge generation activeAtMs)) := by
  intro s h
  apply post_reshapes (activateCurrentBridge_reshapes _ _)
  · rintro _ _ ⟨aggregate, caller, bridge, rfl, _, _, hSame⟩
    refine h.congr ?_ rfl
    simp only [phaseView, CallRuntime.isAnswered, hSame]
  · rintro _ ⟨aggregate, caller, bridge, rfl, _, _, _⟩
    exact h.conforming.congr rfl rfl

theorem failAttemptSetup_phased {reason : String} (h : s.Phased) :
    Post (failAttemptSetup reason) env s (fun _ => Phased) Conforming :=
  (failAttemptSetup_ending reason).keeps Phased.ending Phased.stop s h

theorem handleAttemptOfferPrepared_phased (attemptSeq : Nat) (outcome : Except String SdpBody) :
    KeepsPhased env (handleAttemptOfferPrepared attemptSeq outcome) := by
  intro s h
  apply post_handleAttemptOfferPrepared
  · exact fun _ => h
  · exact fun _ _ _ => h.congr rfl rfl
  · exact fun _ _ _ => failAttemptSetup_phased (h.congr rfl rfl)
  · intro pending offer _ _ _
    apply post_requestRegistration
    · exact fun _ => h.conforming.congr rfl rfl
    · exact fun _ _ _ _ => h.congr rfl rfl
    · exact fun _ _ => failAttemptSetup_phased (h.congr rfl rfl)

theorem handleAttemptRegistrationResult_phased (result : AttemptRegistrationResult) :
    KeepsPhased env (handleAttemptRegistrationResult result) := by
  intro s h
  apply post_handleAttemptRegistrationResult h
  · exact fun _ _ _ => h.congr rfl rfl
  · intro pending _ _ _
    apply post_adoptAttempt Phased.ending Phased.stop
    · exact fun _ _ => h.conforming.congr rfl rfl
    · intro aggregate target _ _
      have hNoted := h.note (.attemptRegistered pending.attemptSeq pending.sessionId
        pending.candidate.outboundTarget) nofun
      exact hNoted.congr rfl rfl
  · exact fun _ _ _ _ => failAttemptSetup_phased (h.congr rfl rfl)

theorem handleAiAction_phased (request : ActionRequested) :
    KeepsPhased env (handleAiAction request) := by
  apply handleAiAction_keeps Phased.ending Phased.stop
  intro number s _ h hAnswered hLive
  apply transferToExtension_keeps Phased.ending h hAnswered hLive
  · intro s transfer h hAnswered _
    refine ⟨h.conforming.congr rfl rfl, fun hLive => ?_⟩
    exact { h.phase hLive with transfer := fun _ => hAnswered }
  · exact fun _ _ h _ _ _ _ => h.congr rfl rfl
  · exact fun _ _ _ _ h => h.queue ⟨rfl, fun _ => rfl⟩

theorem Phased.erase (h : s.Phased) (request : MediaAction) :
    Phased { s with mediaQueue := s.mediaQueue.erase request } := by
  refine ⟨h.conforming.congr rfl rfl, fun hLive => ?_⟩
  have hPhase := h.phase hLive
  refine { hPhase with transferred := ?_, bounded := ?_, due := ?_ }
  · exact fun action hMem => hPhase.transferred action (List.mem_of_mem_erase hMem)
  · exact fun action hMem => hPhase.bounded action (List.mem_of_mem_erase hMem)
  · intro hBelow
    have hSub := (List.erase_sublist (a := request) (l := s.mediaQueue)).filter
      (MediaAction.answersAt s.mediaGeneration)
    rcases hPhase.due hBelow with hNone | ⟨⟨action, hOne⟩, hState⟩
    · rw [answersDue] at hNone
      rw [hNone, List.sublist_nil] at hSub
      exact .inl hSub
    · rw [answersDue] at hOne
      rw [hOne, List.sublist_singleton] at hSub
      rcases hSub with hSub | hSub
      · exact .inl hSub
      · exact .inr ⟨⟨action, hSub⟩, hState⟩

/-- The answer that is due is the only one, and the call has not got further yet. -/
theorem only_answer {request : MediaAction} (h : s.Phase) (hRequest : request ∈ s.mediaQueue)
    (hAnswers : request.answersAt s.mediaGeneration = true) (hBelow : s.mediaGeneration < u64Max) :
    answersDue { s with mediaQueue := s.mediaQueue.erase request } = [] ∧
      s.call.state = .establishing := by
  have hPerm : s.answersDue.Perm
      (request :: answersDue { s with mediaQueue := s.mediaQueue.erase request }) := by
    have hCons := (List.perm_cons_erase hRequest).filter (MediaAction.answersAt s.mediaGeneration)
    rwa [List.filter_cons_of_pos hAnswers] at hCons
  rcases h.due hBelow with hNone | ⟨⟨action, hOne⟩, hState⟩
  · rw [hNone] at hPerm
    simpa using hPerm.length_eq
  · refine ⟨?_, hState⟩
    rw [hOne] at hPerm
    simpa using hPerm.length_eq

/-- The answer was prepared before the call got further. -/
theorem completeAnswer_phased {callerAnswer : SdpBody} {payloadTypes : List Nat} (h : s.Phased)
    (hLive : s.call.isTerminating = false) (hState : s.call.state ≠ .connected)
    (hDue : s.mediaGeneration < u64Max → s.answersDue = []) :
    Post (completeAnswer callerAnswer payloadTypes) env s (fun _ => Phased) Conforming := by
  have hPhase := h.phase hLive
  have hUnanswered : s.call.isAnswered = true → False := fun hAnswered =>
    hState (hPhase.connected hAnswered)
  apply post_completeAnswer Phased.stop h
  intro t actionId hReached hCall
  have hBefore := Phased.ending s t hReached h
  have hNone : t.mediaGeneration < u64Max → t.answersDue = [] := by
    intro hBelow
    rcases answersDue_of_ending hReached hPhase.fits hPhase.bounded with ⟨hSame, hKept⟩ | hMoved
    · rw [hSame] at hBelow
      exact hKept.trans (hDue hBelow)
    · exact hMoved.2
  rw [← hCall] at hLive hState hUnanswered
  have hPhase := hBefore.phase hLive
  have hAssigned : (t.assigned .answering).Conforming := by
    apply hBefore.conforming.assigned _ _ CallState.noConfusion
    cases hNow : t.call.state with
    | establishing => exact .inr rfl
    | answering => exact .inl rfl
    | connected => exact (hState hNow).elim
    | terminating | completed =>
        rw [CallRuntime.isTerminating, hNow] at hLive
        exact Bool.noConfusion hLive
  refine ⟨hAssigned.congr rfl rfl, fun _ => ?_⟩
  constructor
  · exact fun _ => rfl
  · exact fun _ => rfl
  · exact fun hAnswered => (hUnanswered hAnswered).elim
  · exact fun hConnected => CallState.noConfusion hConnected
  · exact fun hTransfer => (hUnanswered (hPhase.transfer hTransfer)).elim
  · exact fun action hMem hTransfer =>
      (hUnanswered (hPhase.transferred action hMem hTransfer)).elim
  · exact hPhase.bounded
  · exact hPhase.fits
  · exact fun hBelow => .inl (hNone hBelow)

/-- The steps that leave a pending answer to its own acknowledgement, and that take no
answer of an exhausted media generation for a connected call. -/
def conforms (s : Coordinator) (label : Env × Input) : Bool :=
  match s.stimulus label.1 label.2 with
  | some (.actionAck ack) => !s.foreignAnswer ack
  | some (.mediaResult (.sdpPrepared _ _ purpose (.ok _))) =>
    !purpose.isAnswer || s.mediaGeneration < u64Max || s.call.state ≠ .connected
  | _ => true

theorem mediaResult_phased {request : MediaAction} {result : MediaActionResult} (h : s.Phased)
    (hRequest : request ∈ s.mediaQueue) (hAnswers : request.answeredBy result = true)
    (hKept : ∀ actionId generation purpose prepared,
      result = .sdpPrepared actionId generation purpose (.ok prepared) →
      purpose.isAnswer = true → s.mediaGeneration < u64Max ∨ s.call.state ≠ .connected) :
    Post (handleMediaActionResult result) env (s.taken env (.mediaResult request result))
      (fun _ => Phased) Conforming := by
  have hTaken : Phased (s.taken env (.mediaResult request result)) := h.erase request
  have hFresh : ∀ {generation purpose}, (s.taken env (.mediaResult request result)).staleSdp
      generation purpose = false →
      generation = s.mediaGeneration ∧ s.call.isTerminating = false := by
    intro generation purpose hFresh
    simp only [staleSdp, Bool.or_eq_false_iff, decide_eq_false_iff_not, not_not] at hFresh
    exact hFresh.1
  have hAsked : ∀ {actionId generation purpose outcome},
      result = .sdpPrepared actionId generation purpose outcome →
      ∃ sdp routeTarget, request = .prepareSdp actionId generation purpose sdp routeTarget := by
    rintro actionId generation purpose outcome rfl
    cases request with
    | prepareSdp _ _ _ sdp routeTarget =>
        simp only [MediaAction.answeredBy, Bool.and_eq_true, decide_eq_true_eq] at hAnswers
        obtain ⟨⟨rfl, rfl⟩, rfl⟩ := hAnswers
        exact ⟨sdp, routeTarget, rfl⟩
    | _ => exact (Bool.false_ne_true hAnswers).elim
  apply post_handleMediaActionResult Phased.ending Phased.stop hTaken
  · exact fun _ _ attemptSeq outcome _ _ =>
      handleAttemptOfferPrepared_phased attemptSeq outcome _ hTaken
  · intro actionId generation purpose prepared payloadTypes hResult hPurpose hNotStale _
    obtain ⟨rfl, hLive⟩ := hFresh hNotStale
    have hIsAnswer : purpose.isAnswer = true := by
      rcases hPurpose with rfl | rfl
      · rfl
      · rfl
    have hDue : request.answersAt s.mediaGeneration = true := by
      obtain ⟨sdp, routeTarget, rfl⟩ := hAsked hResult
      rcases hPurpose with rfl | rfl
      · exact decide_eq_true rfl
      · exact decide_eq_true rfl
    have hOnly := only_answer (h.phase hLive) hRequest hDue
    apply completeAnswer_phased hTaken hLive
    · rcases hKept _ _ _ _ hResult hIsAnswer with hBelow | hState
      · intro hConnected
        exact CallState.noConfusion ((hOnly hBelow).2.symm.trans hConnected)
      · exact hState
    · exact fun hBelow => (hOnly hBelow).1
  · intro actionId generation prepared hResult hNotStale
    obtain ⟨_, hLive⟩ := hFresh hNotStale
    obtain ⟨sdp, routeTarget, rfl⟩ := hAsked hResult
    exact connectTransfer_phased hTaken hLive ((h.phase hLive).transferred _ hRequest rfl)
  · exact fun generation => activateCurrentBridge_phased _ _

/-- Whatever a conforming input stimulates keeps the phase of the call. -/
theorem respond_phased {input : Input} {stimulus : Stimulus} (h : s.Phased)
    (hTaken : Phased (s.taken env input)) (hAllowed : s.admissible input)
    (hKept : s.conforms (env, input) = true) (hStimulus : s.stimulus env input = some stimulus) :
    Post (respond stimulus) env (s.taken env input) (fun _ => Phased) Conforming := by
  cases stimulus with
  | callerEvent frame event =>
      exact handleCallerLegEvent_keeps Phased.ending Phased.stop (fun _ h => h.congr rfl rfl)
        (handleDisconnected_phased event) _ hTaken
  | calleeEvent frame event => exact handlePeerLegEvent_phased frame event _ hTaken
  | actionFailed failure peerFailure =>
      exact handleActionFailure_keeps Phased.ending Phased.stop
        (fun _ _ => retryAfterOriginateFailure_phased) _ hTaken
  | actionAck ack =>
      have hSame := taken_of_stimulus hStimulus rfl
      rw [conforms, hStimulus] at hKept
      rw [hSame]
      apply post_handleActionAck Phased.ending Phased.stop h
      intro hAccepted hKind hFresh completed
      apply confirmAnswer_phased
      · exact h.congr rfl rfl
      · intro hLive pending hPending
        by_contra hOther
        have hForeign : s.foreignAnswer ack = true := by
          have hLive : s.call.isTerminating = false := hLive
          have hPending : s.pendingAnswer = some pending := hPending
          simp [foreignAnswer, hAccepted, hKind, hFresh, hLive, hPending, hOther]
        simp only [hForeign, Bool.not_true, Bool.false_eq_true] at hKept
  | ownedLegAck ack =>
      exact handleOwnedLegActionAck_keeps Phased.ending Phased.stop
        (fun _ => retryAfterOriginateFailure_phased) _ hTaken
  | mediaResult result =>
      obtain ⟨request, rfl, hRequest, hAnswers⟩ := stimulus_mediaResult hStimulus hAllowed
      apply mediaResult_phased h hRequest hAnswers
      rintro actionId generation purpose prepared rfl hPurpose
      rw [conforms, hStimulus] at hKept
      simpa [hPurpose] using hKept
  | registrationResult result => exact handleAttemptRegistrationResult_phased result _ hTaken
  | aiAction request => exact handleAiAction_phased request _ hTaken
  | gatewayUnavailable =>
      exact handleAiGatewayUnavailable_ending.keeps Phased.ending Phased.stop _ hTaken
  | shutdown => exact beginShutdown_ending.keeps Phased.ending Phased.stop _ hTaken
  | timer kind generation =>
      apply handleTimerExpiry_keeps Phased.ending Phased.stop _ _ _ hTaken
      · intro _ status
        exact waitForRetryCleanup_keeps Phased.ending Phased.stop fun s h _ => h.congr rfl rfl
      · intro _
        exact forceRetryAfterCleanup_keeps Phased.ending Phased.stop fun s status h _ =>
          beginNextAttempt_phased s status h
  | removal cause => exact (finishNow_ending cause).keeps Phased.ending Phased.stop _ hTaken
  | abandoned => exact finishUnexplained_ending.keeps Phased.ending Phased.stop _ hTaken

end Handlers

theorem Phased.managed (s t : Coordinator) (hManaged : Managed s t) (h : s.Phased) : t.Phased := by
  obtain ⟨_, _, _, _, _, _, _, _, _, _, _, _, _, rfl, _⟩ := hManaged
  exact h.congr rfl rfl

/-- A call that has only been set up. -/
structure Prepared (s : Coordinator) : Prop where
  phased : s.Phased
  state : s.call.isTerminating = false → s.call.state = .establishing

theorem Prepared.ending (s t : Coordinator) (hEnding : Ending s t) (h : s.Prepared) :
    t.Prepared := by
  refine ⟨h.phased.ending s t hEnding, fun hLive => ?_⟩
  obtain ⟨hBefore, hSame⟩ := live_of_ending hEnding hLive
  exact hSame.trans (h.state hBefore)

theorem create_prepared {s : Coordinator} (h : system.init s) : s.Prepared := by
  obtain ⟨invitation, hCreate⟩ := h
  obtain ⟨aggregate, _, rfl⟩ := create_spec hCreate
  refine ⟨⟨⟨rfl, fun _ _ hMem => (List.not_mem_nil hMem).elim, CallState.noConfusion⟩, ?_⟩,
    fun _ => rfl⟩
  intro _
  constructor
  · exact fun hState => CallState.noConfusion hState
  · exact fun hSome => Bool.noConfusion hSome
  · exact fun hAnswered => Bool.noConfusion hAnswered
  · exact fun hState => CallState.noConfusion hState
  · exact fun hSome => Bool.noConfusion hSome
  · exact fun _ hMem => (List.not_mem_nil hMem).elim
  · exact fun _ hMem => (List.not_mem_nil hMem).elim
  · exact Nat.zero_le _
  · exact fun _ => .inl rfl

theorem start_phased {env : Env} {s : Coordinator} (h : s.Prepared) :
    Post start env s (fun _ => Phased) fun _ => False := by
  apply post_start_of_ending (J := Prepared) Phased.ending Prepared.ending
  · intro s actionId h _
    exact h.phased.ask (.prepareSdp actionId (satSucc64 s.mediaGeneration) .aiAgentAnswer
        s.callerOffer none) (fun _ hOther => Bool.noConfusion hOther)
      (fun _ hAnswers => (of_decide_eq_true hAnswers).symm) fun hLive _ => h.state hLive
  · exact fun _ h => h.phased
  · exact fun _ => h.phased
  · exact fun _ => ⟨h.phased.congr rfl rfl, h.state⟩

/-- The state of a call changes as the table allows, and a call that ends stays ended, as long
as no acknowledgement of a foreign answer is taken and the media generation is not exhausted. -/
theorem state_changes_conform {s : Coordinator}
    (hRun : Transition.ReachableWithin system (fun s label => s.conforms label = true) s) :
    Leads .establishing s.call.state s.journal ∧
      ∀ source target, .stateAssigned source target ∈ s.journal → source ≠ target →
        validCallStateTransition source target = true ∧
          (source = .terminating → target = .completed) := by
  have hPhased : s.Phased := by
    apply invariant_of_handlers Phased.ending Phased.managed Phased.stop
      (fun _ => failed_of_ending Phased.ending Conforming.ending Phased.of_terminating) hRun
    · exact fun s hInit => (create_prepared hInit).phased
    · intro s env hInit _
      have hPrepared := create_prepared hInit
      exact start_phased ⟨hPrepared.phased.congr rfl rfl, hPrepared.state⟩
    · exact fun s request h => h.erase request
    · exact fun s request h => h.congr rfl rfl
    · exact fun s env input stimulus h hTaken hAllowed hKept hStimulus =>
        respond_phased h hTaken hAllowed hKept hStimulus
  refine ⟨hPhased.conforming.trail, fun source target hMem hChanges => ?_⟩
  have hValid := (hPhased.conforming.allowed source target hMem).resolve_left hChanges
  refine ⟨hValid, ?_⟩
  rintro rfl
  cases target with
  | completed => rfl
  | _ => exact Bool.noConfusion hValid

/-- Whether the state was assigned from `source` to `target`. -/
def assigns (s : Coordinator) (source target : CallState) : Bool :=
  s.journal.any fun
    | .stateAssigned source' target' => source' = source && target' = target
    | _ => false

theorem assigns_iff {s : Coordinator} {source target : CallState} :
    s.assigns source target = true ↔ .stateAssigned source target ∈ s.journal := by
  rw [assigns, List.any_eq_true]
  constructor
  · rintro ⟨entry, hMem, hSame⟩
    cases entry with
    | stateAssigned _ _ =>
        rw [Bool.and_eq_true, decide_eq_true_eq, decide_eq_true_eq] at hSame
        obtain ⟨rfl, rfl⟩ := hSame
        exact hMem
    | _ => exact (Bool.false_ne_true hSame).elim
  · intro hMem
    exact ⟨_, hMem, by simp⟩

/-- The messages up to the caller's answer to a call that its callee took. -/
def answeringSchedule : List (Env × Input) :=
  [(takingEnv, .enter),
    (takingEnv, calleeEvent .outboundAnswered 1 (some 200) (some "sdp")),
    (takingEnv, sdpPrepared "prepare-answer-c" 1 (.answer [0]) "sdp" none (.ok "answer"))]

/-- An answered call went through all states of the table in their order. -/
theorem state_changes_conform_answered :
    ∃ s : Coordinator, .stateAssigned .answering .connected ∈ s.journal ∧
      Leads .establishing s.call.state s.journal := by
  obtain ⟨s, hRun, h⟩ := reachable_of_schedule conforms (fun s => s.assigns .answering .connected)
    (callTo (.trunk "peer:1") [])
    (answeringSchedule ++ [(takingEnv, callerAck .answerInboundInvite "answer-c" 1)]) (by decide)
  exact ⟨s, assigns_iff.mp h, (state_changes_conform hRun).1⟩

/-- An acknowledgement of a foreign answer drops the pending one, and the next ringing of the
callee moves the call back to its beginning. -/
theorem answering_call_rings_again :
    ¬ ∀ s : Coordinator, Transition.Reachable system s →
      ∀ source target, .stateAssigned source target ∈ s.journal → source ≠ target →
        validCallStateTransition source target = true := by
  intro hConform
  obtain ⟨s, hRun, h⟩ := reachable_of_schedule (fun _ _ => true)
    (fun s => s.assigns .answering .establishing) (callTo (.trunk "peer:1") [])
    (answeringSchedule ++
      [(takingEnv, callerAck .answerInboundInvite "answer-other" 1),
        (takingEnv, calleeEvent .outboundProvisional 2 (some 180) none)]) (by decide)
  have hValid := hConform s hRun.reachable _ _ (assigns_iff.mp h) CallState.noConfusion
  exact Bool.noConfusion hValid

end Coordinator

end VoipSwitch
