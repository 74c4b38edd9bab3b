import VoipSwitch.Call.Invariant

/-! The order of a sequential hunt. The candidates of a call are tried one after the other, in
the order of its configuration, and the next one is only dialled after the one before it has
ended. -/
namespace VoipSwitch

open Stateful Keyed Proc

/-- An attempt as it was registered. -/
structure RegisteredAttempt where
  attemptSeq : Nat
  sessionId : SessionId
  target : OutboundTarget
deriving DecidableEq

def Entry.registration : Entry → Option RegisteredAttempt
  | .attemptRegistered attemptSeq sessionId target => some { attemptSeq, sessionId, target }
  | _ => none

def AgentAction.isTransfer : AgentAction → Bool
  | .transferToExtension _ => true
  | _ => false

/-- The attempt that an offer is prepared for. -/
def MediaAction.offerSeq : MediaAction → Option Nat
  | .prepareSdp _ _ (.calleeAttemptOffer attemptSeq) _ _ => some attemptSeq
  | _ => none

/-- The attempts at the first `n` candidates. -/
def CallConfigSnapshot.plan (config : CallConfigSnapshot) (callId : CallId) (n : Nat) :
    List RegisteredAttempt :=
  (config.candidates.take n).mapIdx fun i candidate =>
    { attemptSeq := i + 1
      sessionId := calleeSessionIdOf callId (i + 1)
      target := candidate.outboundTarget }

/-- The plan of one more attempt dials the next candidate. -/
theorem CallConfigSnapshot.plan_succ {config : CallConfigSnapshot} {callId : CallId} {n : Nat}
    {candidate : OutboundCandidate} {rest : List OutboundCandidate}
    (hNext : config.candidates.drop n = candidate :: rest) :
    config.plan callId (n + 1) = config.plan callId n ++
      [{ attemptSeq := n + 1
         sessionId := calleeSessionIdOf callId (n + 1)
         target := candidate.outboundTarget }] := by
  have hCandidate : config.candidates[n]? = some candidate := by
    rw [← Nat.add_zero n, ← List.getElem?_drop, hNext]
    rfl
  have hLength : n < config.candidates.length := by
    rw [List.getElem?_eq_some_iff] at hCandidate
    exact hCandidate.1
  have hTake : config.candidates.take (n + 1) = config.candidates.take n ++ [candidate] := by
    rw [List.take_add_one, hCandidate]
    rfl
  rw [plan, hTake, List.mapIdx_append]
  simp only [List.mapIdx_cons, List.mapIdx_nil, List.length_take, Nat.zero_add]
  rw [Nat.min_eq_left (Nat.le_of_lt hLength), plan]

/-- There is an attempt at every number that was reached. -/
theorem CallConfigSnapshot.plan_reaches {config : CallConfigSnapshot} {callId : CallId} {n : Nat}
    (hPositive : 1 ≤ n) (hBounded : n ≤ config.candidates.length) :
    ∃ entry ∈ config.plan callId n, entry.attemptSeq = n := by
  obtain ⟨m, rfl⟩ : ∃ m, n = m + 1 := ⟨n - 1, by omega⟩
  have hDrop : config.candidates.drop m =
      config.candidates[m] :: config.candidates.drop (m + 1) := by
    rw [← List.getElem_cons_drop]
  rw [plan_succ hDrop]
  exact ⟨_, List.mem_append_right _ (List.mem_singleton.mpr rfl), rfl⟩

/-- The attempts of the aggregate are the registered ones. -/
structure Mirrors (registered : List RegisteredAttempt)
    (attempts : OrdMap CalleeAttemptId CalleeAttempt) : Prop where
  forth : ∀ entry ∈ registered, ∃ attempt, attempts.lookup
    (attemptIdOf entry.attemptSeq) = some attempt ∧
    attempt.attemptId = attemptIdOf entry.attemptSeq ∧ attempt.sessionId = entry.sessionId ∧
    entry.target.calleeTarget = .ok attempt.target
  back : ∀ id attempt, attempts.lookup id = some attempt →
    ∃ entry ∈ registered, id = attemptIdOf entry.attemptSeq

/-- Attempts that move on keep their identity, so that the registrations still mirror them. -/
theorem Mirrors.evolves {registered : List RegisteredAttempt}
    {attempts next : OrdMap CalleeAttemptId CalleeAttempt} (h : Mirrors registered attempts)
    (hNext : CallAggregate.Evolves attempts next) : Mirrors registered next := by
  constructor
  · intro entry hMem
    obtain ⟨attempt, hLookup, hId, hSession, hTarget⟩ := h.forth entry hMem
    obtain ⟨attempt', hLookup', hSucceeds⟩ := hNext.forth _ attempt hLookup
    refine ⟨attempt', hLookup', hSucceeds.attemptId.trans hId,
      hSucceeds.sessionId.trans hSession, ?_⟩
    rw [hSucceeds.target]
    exact hTarget
  · intro id attempt' hLookup'
    obtain ⟨attempt, hLookup, _⟩ := hNext.back id attempt' hLookup'
    exact h.back id attempt hLookup

/-- A registered attempt that enters the aggregate is mirrored by its registration. -/
theorem Mirrors.entered {registered : List RegisteredAttempt} {entry : RegisteredAttempt}
    {call next : CallAggregate} {target : CalleeTarget}
    (h : Mirrors registered call.calleeAttempts) (hTarget : entry.target.calleeTarget = .ok target)
    (hNext : call.Entered next (attemptIdOf entry.attemptSeq) entry.sessionId target) :
    Mirrors (registered ++ [entry]) next.calleeAttempts := by
  constructor
  · intro other hMem
    rcases List.mem_append.mp hMem with hOld | hNew
    · obtain ⟨attempt, hLookup, hAttempt⟩ := h.forth other hOld
      have hDistinct : attemptIdOf entry.attemptSeq ≠ attemptIdOf other.attemptSeq := by
        intro hSame
        rw [← hSame, hNext.free] at hLookup
        cases hLookup
      exact ⟨attempt, by rw [hNext.lookup, if_neg hDistinct, hLookup], hAttempt⟩
    · rw [List.mem_singleton.mp hNew]
      exact ⟨_, by rw [hNext.lookup, if_pos rfl], rfl, rfl, hTarget⟩
  · intro id attempt hLookup
    rw [hNext.lookup] at hLookup
    split at hLookup
    · next hId => exact ⟨entry, by simp, hId.symm⟩
    · obtain ⟨other, hMem, hId⟩ := h.back id attempt hLookup
      exact ⟨other, List.mem_append_left _ hMem, hId⟩

namespace Core

/-- Every attempt has ended. -/
def AllEnded (core : Core) : Prop :=
  ∀ id attempt, core.calleeAttempts.lookup id = some attempt → attempt.state.isTerminal = true

theorem AllEnded.evolves {core next : Core} (h : core.AllEnded)
    (hEvolves : CallAggregate.Evolves core.calleeAttempts next.calleeAttempts) : next.AllEnded := by
  intro id attempt' hLookup
  obtain ⟨attempt, hBefore, hSucceeds⟩ := hEvolves.back id attempt' hLookup
  exact hSucceeds.ended (h id attempt hBefore)

/-- The attempts that a journal tells of, the first one included. -/
def registered (core : Core) (journal : List Entry) : List RegisteredAttempt :=
  { attemptSeq := 1
    sessionId := calleeSessionIdOf core.callId 1
    target := core.configSnapshot.first.outboundTarget } ::
    (journal.filterMap Entry.registration).reverse

/-- The attempts made so far are those at the first candidates, and only the current one may
not have ended yet. -/
structure Tried (core : Core) (journal : List Entry) : Prop where
  positive : 1 ≤ core.currentAttemptSeq
  fits : core.currentAttemptSeq ≤ u16Max
  bounded : core.currentAttemptSeq ≤ core.configSnapshot.candidates.length
  order : core.registered journal = core.configSnapshot.plan core.callId core.currentAttemptSeq
  mirrored : Mirrors (core.registered journal) core.calleeAttempts
  current : core.currentAttemptId = attemptIdOf core.currentAttemptSeq
  single : ∀ id attempt, core.calleeAttempts.lookup id = some attempt →
    attempt.state.isTerminal = false → id = core.currentAttemptId

/-- Where the hunt of a live call stands: an attempt is under way, or the offer of the next
one is being prepared, or its session is being registered. -/
inductive Stage (core : Core) (retry : Option Nat) (offers : List Nat) : Prop
  | idle (hCandidate : core.pendingAttemptCandidate = none)
      (hRegistration : core.pendingAttemptRegistration = none)
      (hRemaining : core.remainingCandidates =
        core.configSnapshot.candidates.drop core.currentAttemptSeq)
      (hOffers : offers = []) (hQueue : core.attemptQueue = [])
  | preparing (candidate : OutboundCandidate)
      (hCandidate : core.pendingAttemptCandidate =
        some { attemptSeq := satSucc16 core.currentAttemptSeq, candidate })
      (hRegistration : core.pendingAttemptRegistration = none)
      (hNext : core.configSnapshot.candidates.drop core.currentAttemptSeq =
        candidate :: core.remainingCandidates)
      (hRetry : retry = none) (hEnded : core.AllEnded)
      (hOffers : offers = [] ∨ offers = [satSucc16 core.currentAttemptSeq])
      (hQueue : core.attemptQueue = [])
  | registering (pending : PendingAttemptRegistration)
      (hCandidate : core.pendingAttemptCandidate = none)
      (hRegistration : core.pendingAttemptRegistration = some pending)
      (hSeq : pending.attemptSeq = satSucc16 core.currentAttemptSeq)
      (hSession : pending.sessionId = calleeSessionIdOf core.callId pending.attemptSeq)
      (hNext : core.configSnapshot.candidates.drop core.currentAttemptSeq =
        pending.candidate :: core.remainingCandidates)
      (hRetry : retry = none) (hEnded : core.AllEnded) (hOffers : offers = [])
      (hQueue : core.attemptQueue = [] ∨ ∃ request, core.attemptQueue = [request] ∧
        request.attemptSeq = pending.attemptSeq ∧ request.sessionId = pending.sessionId)

/-- Nothing is planned while an attempt is under way. -/
theorem Stage.at_attempt {core : Core} {retry : Option Nat} {offers : List Nat}
    (h : core.Stage retry offers) (hNoCandidate : core.pendingAttemptCandidate = none)
    (hNoRegistration : core.pendingAttemptRegistration = none) :
    core.remainingCandidates = core.configSnapshot.candidates.drop core.currentAttemptSeq ∧
      offers = [] ∧ core.attemptQueue = [] := by
  cases h with
  | idle _ _ hRemaining hOffers hQueue => exact ⟨hRemaining, hOffers, hQueue⟩
  | preparing candidate hCandidate _ _ _ _ _ _ =>
      exact absurd (hNoCandidate.symm.trans hCandidate) (by simp)
  | registering pending _ hRegistration _ _ _ _ _ _ _ =>
      exact absurd (hNoRegistration.symm.trans hRegistration) (by simp)

/-- A retry is waited for only while an attempt is under way. -/
theorem Stage.of_retry {core : Core} {status : Nat} {offers : List Nat}
    (h : core.Stage (some status) offers) :
    core.pendingAttemptCandidate = none ∧ core.pendingAttemptRegistration = none := by
  cases h with
  | idle hCandidate hRegistration _ _ _ => exact ⟨hCandidate, hRegistration⟩
  | preparing _ _ _ _ hRetry _ _ _ => exact absurd hRetry (by simp)
  | registering _ _ _ _ _ _ hRetry _ _ _ => exact absurd hRetry (by simp)

/-- A retry that is dropped, or offers that are, leave the hunt at its stage. -/
theorem Stage.sublist {core : Core} {retry retry' : Option Nat} {offers offers' : List Nat}
    (h : core.Stage retry offers) (hRetry : retry' = retry ∨ retry' = none)
    (hOffers : offers'.Sublist offers) : core.Stage retry' offers' := by
  have hNone : retry = none → retry' = none := by
    rintro rfl
    exact hRetry.elim id id
  cases h with
  | idle hCandidate hRegistration hRemaining hNoOffers hQueue =>
      rw [hNoOffers, List.sublist_nil] at hOffers
      exact .idle hCandidate hRegistration hRemaining hOffers hQueue
  | preparing candidate hCandidate hRegistration hNext hNoRetry hEnded hAtMost hQueue =>
      have hFewer : offers' = [] ∨ offers' = [satSucc16 core.currentAttemptSeq] := by
        rcases hAtMost with hNoOffers | hOne
        · rw [hNoOffers, List.sublist_nil] at hOffers
          exact .inl hOffers
        · rw [hOne] at hOffers
          exact List.sublist_singleton.mp hOffers
      exact .preparing candidate hCandidate hRegistration hNext (hNone hNoRetry) hEnded hFewer
        hQueue
  | registering pending hCandidate hRegistration hSeq hSession hNext hNoRetry hEnded hNoOffers
      hQueue =>
      rw [hNoOffers, List.sublist_nil] at hOffers
      exact .registering pending hCandidate hRegistration hSeq hSession hNext (hNone hNoRetry)
        hEnded hOffers hQueue

/-- Registrations that are answered leave the queue. -/
theorem Stage.answered {core : Core} {retry : Option Nat} {offers : List Nat}
    {queue : List AttemptRegistration} (h : core.Stage retry offers)
    (hFewer : queue.Sublist core.attemptQueue) :
    Core.Stage { core with attemptQueue := queue } retry offers := by
  cases h with
  | idle hCandidate hRegistration hRemaining hOffers hQueue =>
      rw [hQueue, List.sublist_nil] at hFewer
      exact .idle hCandidate hRegistration hRemaining hOffers hFewer
  | preparing candidate hCandidate hRegistration hNext hRetry hEnded hOffers hQueue =>
      rw [hQueue, List.sublist_nil] at hFewer
      exact .preparing candidate hCandidate hRegistration hNext hRetry hEnded hOffers hFewer
  | registering pending hCandidate hRegistration hSeq hSession hNext hRetry hEnded hOffers hQueue =>
      have hLeft : queue = [] ∨ ∃ request, queue = [request] ∧
          request.attemptSeq = pending.attemptSeq ∧ request.sessionId = pending.sessionId := by
        rcases hQueue with hEmpty | ⟨awaited, hOne, hNamed⟩
        · rw [hEmpty, List.sublist_nil] at hFewer
          exact .inl hFewer
        · rw [hOne, List.sublist_singleton] at hFewer
          exact hFewer.imp_right fun hSame => ⟨awaited, hSame, hNamed⟩
      exact .registering pending hCandidate hRegistration hSeq hSession hNext hRetry hEnded hOffers
        hLeft

end Core

namespace Coordinator

/-- The offers that the media worker still has to prepare. -/
def offers (s : Coordinator) : List Nat := s.mediaQueue.filterMap MediaAction.offerSeq

/-- What remains true of a hunt when the call ends. -/
structure Tried (s : Coordinator) : Prop where
  attempts : s.core.Tried s.journal
  noTransfer : s.pendingAiTransfer = none

structure Hunt (s : Coordinator) : Prop where
  tried : s.Tried
  stage : s.call.isTerminating = false → s.core.Stage s.retryAfterCleanup s.offers

section Frame

variable {s t : Coordinator}

/-- `t` differs from `s` in what the hunt is not concerned with, or the call has ended. -/
structure Aside (s t : Coordinator) : Prop where
  core : ∃ started actions pendingAnswer deferred caller attempts,
    t.core = { s.core with
      actorStarted := started, initialActions := actions, pendingAnswer := pendingAnswer
      deferredCalleeDisconnect := deferred, caller := caller, calleeAttempts := attempts } ∧
    CallAggregate.Evolves s.core.calleeAttempts attempts
  live : t.call.isTerminating = false → s.call.isTerminating = false
  retry : t.retryAfterCleanup = s.retryAfterCleanup ∨ t.retryAfterCleanup = none
  transfer : t.pendingAiTransfer = s.pendingAiTransfer ∨ t.pendingAiTransfer = none
  offers : t.offers.Sublist s.offers
  registrations : t.journal.filterMap Entry.registration =
    s.journal.filterMap Entry.registration

theorem registration_of_ends {state : CallState} {entries : List Entry}
    (h : ∀ entry ∈ entries, entry.ends state) :
    entries.filterMap Entry.registration = [] := by
  rw [List.filterMap_eq_nil_iff]
  intro entry hMem
  have hEnds := h entry hMem
  cases entry with
  | attemptRegistered _ _ _ => exact hEnds.elim
  | _ => rfl

theorem offers_of_ending (h : Ending s t) : t.offers = s.offers := by
  obtain ⟨added, hQueue, hDtmf⟩ := h.queue
  have hNone : added.filterMap MediaAction.offerSeq = [] := by
    rw [List.filterMap_eq_nil_iff]
    intro action hMem
    have hAction := hDtmf action hMem
    cases action with
    | prepareSdp _ _ _ _ _ => exact Bool.noConfusion hAction
    | _ => rfl
  rw [offers, offers, hQueue, List.filterMap_append, hNone, List.append_nil]

/-- A call that ends steps aside: nothing is dialled for it any more. -/
theorem Aside.of_ending (h : Ending s t) : Aside s t where
  core := ⟨_, _, _, _, _, _, h.core, .refl _⟩
  live hLive := by
    rw [CallRuntime.isTerminating] at hLive ⊢
    rcases h.state with hSame | hTerminating
    · rwa [← hSame]
    · rw [hTerminating] at hLive
      exact Bool.noConfusion hLive
  retry := h.retry
  transfer := h.transfer
  offers := by rw [offers_of_ending h]
  registrations := by
    obtain ⟨added, hJournal, hEnds, _⟩ := h.journal
    rw [hJournal, List.filterMap_append, registration_of_ends hEnds, List.nil_append]

/-- The attempts made do not depend on what is planned. -/
theorem Tried.replan (h : s.Tried) (remaining : List OutboundCandidate)
    (candidate : Option PendingAttemptCandidate)
    (registration : Option PendingAttemptRegistration) (queue : List AttemptRegistration) :
    Tried { s with
      remainingCandidates := remaining, pendingAttemptCandidate := candidate
      pendingAttemptRegistration := registration, attemptQueue := queue } :=
  ⟨⟨h.attempts.positive, h.attempts.fits, h.attempts.bounded, h.attempts.order,
    h.attempts.mirrored, h.attempts.current, h.attempts.single⟩, h.noTransfer⟩

/-- What happens beside the hunt registers nothing, so that what was tried stays a part of the
plan. -/
theorem Tried.aside (hTried : s.Tried) (hAside : Aside s t) : t.Tried := by
  obtain ⟨_, _, _, _, _, attempts, hCore, hEvolves⟩ := hAside.core
  have h := hTried.attempts
  have hSame : t.core.registered t.journal = s.core.registered s.journal := by
    rw [Core.registered, Core.registered, hAside.registrations, hCore]
  have hTransfer : t.pendingAiTransfer = none := by
    rcases hAside.transfer with hKept | hNone
    · exact hKept.trans hTried.noTransfer
    · exact hNone
  refine ⟨?_, hTransfer⟩
  rw [hCore] at hSame ⊢
  constructor
  · exact h.positive
  · exact h.fits
  · exact h.bounded
  · exact hSame.trans h.order
  · rw [hSame]
    exact h.mirrored.evolves hEvolves
  · exact h.current
  · intro id attempt' hLookup hLive
    obtain ⟨attempt, hBefore, hSucceeds⟩ := hEvolves.back id attempt' hLookup
    apply h.single id attempt hBefore
    rw [← Bool.not_eq_true]
    intro hEnded
    rw [hSucceeds.ended hEnded] at hLive
    exact Bool.noConfusion hLive

/-- What happens beside the hunt keeps it: the stage is the one before, without a retry or an offer
that was dropped. -/
theorem Hunt.aside (h : s.Hunt) (hAside : Aside s t) : t.Hunt where
  tried := h.tried.aside hAside
  stage hLive := by
    have hStage := (h.stage (hAside.live hLive)).sublist hAside.retry hAside.offers
    obtain ⟨_, _, _, _, _, attempts, hCore, hEvolves⟩ := hAside.core
    rw [hCore]
    cases hStage with
    | idle hCandidate hRegistration hRemaining hOffers hQueue =>
        exact .idle hCandidate hRegistration hRemaining hOffers hQueue
    | preparing candidate hCandidate hRegistration hNext hRetry hEnded hOffers hQueue =>
        exact .preparing candidate hCandidate hRegistration hNext hRetry
          (hEnded.evolves hEvolves) hOffers hQueue
    | registering pending hCandidate hRegistration hSeq hSession hNext hRetry hEnded hOffers
        hQueue =>
        exact .registering pending hCandidate hRegistration hSeq hSession hNext hRetry
          (hEnded.evolves hEvolves) hOffers hQueue

theorem Hunt.ending (s t : Coordinator) (hEnding : Ending s t) (h : s.Hunt) : t.Hunt :=
  h.aside (.of_ending hEnding)

theorem Tried.ending (s t : Coordinator) (hEnding : Ending s t) (h : s.Tried) : t.Tried :=
  h.aside (.of_ending hEnding)

end Frame

section Handlers

variable {env : Env} {s t : Coordinator}

theorem Hunt.stop (s : Coordinator) (h : s.Hunt) : s.Tried := h.tried

/-- `m` keeps the hunt going or ends it; an early stop leaves the attempts in order. -/
abbrev KeepsHunt {α : Type} (env : Env) (m : Handler α) : Prop := Keeps env Hunt Tried m

/-- Two actions with the same offer, if any, may be queued beside the hunt. -/
theorem Aside.queued {action action' : MediaAction} (h : Aside s t)
    (hSame : action'.offerSeq = action.offerSeq) : Aside (s.queued action) (t.queued action') where
  core := h.core
  live := h.live
  retry := h.retry
  transfer := h.transfer
  offers := by
    have hOffers : [action'].filterMap MediaAction.offerSeq =
        [action].filterMap MediaAction.offerSeq := by
      simp only [List.filterMap_cons, hSame]
    rw [Coordinator.offers, Coordinator.offers, Coordinator.queued, Coordinator.queued,
      List.filterMap_append, List.filterMap_append, hOffers]
    exact h.offers.append_right _
  registrations := h.registrations

/-- A request that is no offer does not concern the hunt. -/
theorem Aside.queue {action : MediaAction} (h : Aside s t) (hNone : action.offerSeq = none) :
    Aside s (t.queued action) where
  core := h.core
  live := h.live
  retry := h.retry
  transfer := h.transfer
  offers := by
    have hOffers : [action].filterMap MediaAction.offerSeq = [] := by
      simp only [List.filterMap_cons, hNone, List.filterMap_nil]
    rw [Coordinator.offers, Coordinator.queued, List.filterMap_append, hOffers, List.append_nil]
    exact h.offers
  registrations := h.registrations

theorem Aside.assigned (state : CallState) (hLive : s.call.isTerminating = false) :
    Aside s (s.assigned state) where
  core := ⟨_, _, _, _, _, _, rfl, .refl _⟩
  live _ := hLive
  retry := .inl rfl
  transfer := .inl rfl
  offers := .refl _
  registrations := rfl

theorem Aside.answer (s : Coordinator) (pendingAnswer : Option PendingAnswer) (inProgress : Bool)
    (deferred : Option CallLegEvent) :
    Aside s { s with
      pendingAnswer := pendingAnswer, answerInProgress := inProgress
      deferredCalleeDisconnect := deferred } where
  core := ⟨_, _, _, _, _, _, rfl, .refl _⟩
  live := id
  retry := .inl rfl
  transfer := .inl rfl
  offers := .refl _
  registrations := rfl

theorem Aside.reshaped {aggregate : CallAggregate} (caller : Session) (bridge : Option BridgeId)
    (hEvolved : s.call.aggregate.Evolved aggregate) :
    Aside s { s with call := { s.call with
      aggregate := aggregate, caller := caller, currentBridgeId := bridge } } where
  core := ⟨_, _, _, _, _, _, core_reshaped bridge hEvolved.id, hEvolved.attempts⟩
  live := id
  retry := .inl rfl
  transfer := .inl rfl
  offers := .refl _
  registrations := rfl

theorem Aside.connected {aggregate : CallAggregate} {caller : Session} {bridge : Option BridgeId}
    (hLive : s.call.isTerminating = false) (hEvolved : s.call.aggregate.Evolved aggregate) :
    Aside s (s.connected aggregate caller bridge) :=
  { Aside.reshaped caller bridge hEvolved with live := fun _ => hLive }

theorem Hunt.wait {status : Nat} (s : Coordinator) (h : s.Hunt)
    (hCandidate : s.hasRetryCandidate env status = true) :
    Hunt { s with retryAfterCleanup := some status } := by
  simp only [hasRetryCandidate, Bool.and_eq_true, Option.isNone_iff_eq_none] at hCandidate
  obtain ⟨⟨⟨⟨⟨⟨_, hNoCandidate⟩, hNoRegistration⟩, _⟩, _⟩, _⟩, _⟩ := hCandidate
  refine ⟨⟨h.tried.attempts, h.tried.noTransfer⟩, fun hLive => ?_⟩
  obtain ⟨hRemaining, hOffers, hQueue⟩ := (h.stage hLive).at_attempt hNoCandidate hNoRegistration
  exact .idle hNoCandidate hNoRegistration hRemaining hOffers hQueue

theorem pendings_of_due (h : RetryDue env Hunt s) (hLive : s.call.isTerminating = false) :
    s.pendingAttemptCandidate = none ∧ s.pendingAttemptRegistration = none := by
  rcases h.2 with ⟨status, hAwaited⟩ | ⟨status, hCandidate⟩
  · exact (hAwaited.stage hLive).of_retry
  · simp only [hasRetryCandidate, Bool.and_eq_true, Option.isNone_iff_eq_none] at hCandidate
    exact ⟨hCandidate.1.1.1.1.1.2, hCandidate.1.1.1.1.2⟩

/-- Only the current attempt may not have ended, so all have once it failed. -/
theorem allEnded_of_failed {core next : Core} {journal : List Entry} (h : core.Tried journal)
    (hEvolves : CallAggregate.Evolves core.calleeAttempts next.calleeAttempts)
    (hFailed : ∀ attempt, next.calleeAttempts.lookup core.currentAttemptId = some attempt →
      attempt.state = .failed) : next.AllEnded := by
  intro id attempt' hLookup
  obtain ⟨attempt, hBefore, hSucceeds⟩ := hEvolves.back id attempt' hLookup
  cases hEnded : attempt.state.isTerminal with
  | true => exact hSucceeds.ended hEnded
  | false =>
      rw [h.single id attempt hBefore hEnded] at hLookup
      rw [hFailed attempt' hLookup]
      rfl

/-- The next attempt is begun only when no other one is at work. It is the candidate behind those
that were tried, and all of these have ended; or there is none left, and the call ends. -/
theorem beginNextAttempt_hunt (s : Coordinator) (status : Nat) (h : s.Hunt)
    (hDue : RetryDue env Hunt s) : Post (beginNextAttempt status) env s (fun _ => Hunt) Tried := by
  apply beginNextAttempt_post h
  · intro rest
    exact h.tried.replan rest s.pendingAttemptCandidate s.pendingAttemptRegistration s.attemptQueue
  · intro candidate rest aggregate hCandidates hLive hEvolved hFailed _ actionId t hReached
    obtain ⟨hNoCandidate, hNoRegistration⟩ := pendings_of_due hDue hLive
    obtain ⟨hRemaining, hOffers, hQueue⟩ :=
      (h.stage hLive).at_attempt hNoCandidate hNoRegistration
    have hTried := (h.tried.aside (.reshaped s.call.caller s.call.currentBridgeId hEvolved)).replan
      rest
      (some { attemptSeq := satSucc16 s.currentAttemptSeq, candidate })
      s.pendingAttemptRegistration s.attemptQueue
    have hNext : s.call.configSnapshot.candidates.drop s.currentAttemptSeq = candidate :: rest :=
      hRemaining.symm.trans hCandidates
    have hPrepared : Hunt (queued { s with
        remainingCandidates := rest
        pendingAttemptCandidate := some { attemptSeq := satSucc16 s.currentAttemptSeq, candidate }
        call := { s.call with aggregate := aggregate } } (.prepareSdp actionId t.mediaGeneration
          (.calleeAttemptOffer (satSucc16 s.currentAttemptSeq)) t.callerOffer
          candidate.calleeRouteTarget)) := by
      refine ⟨⟨hTried.attempts, hTried.noTransfer⟩, fun _ => ?_⟩
      apply Core.Stage.preparing candidate rfl hNoRegistration hNext hDue.1
      · exact allEnded_of_failed h.tried.attempts hEvolved.attempts hFailed
      · right
        rw [offers, queued, List.filterMap_append, show s.mediaQueue.filterMap _ = [] from hOffers]
        rfl
      · exact hQueue
    refine ⟨Tried.ending _ t hReached hTried, ?_⟩
    exact hPrepared.aside ((Aside.of_ending hReached).queued rfl)

/-- A call that ends needs its attempts in order only. -/
theorem Hunt.of_terminating (s : Coordinator) (hTried : s.Tried)
    (hTerminating : s.call.isTerminating = true) : s.Hunt :=
  ⟨hTried, fun hLive => (Bool.false_ne_true (hLive.symm.trans hTerminating)).elim⟩

theorem failAttemptSetup_hunt {reason : String} (hTried : s.Tried) :
    Post (failAttemptSetup reason) env s (fun _ => Hunt) Tried := by
  apply failAttemptSetup_ends.mono
  · rintro _ t ⟨hEnding, hTerminating⟩
    exact .of_terminating t (Tried.ending s t hEnding hTried) (hTerminating hTried.noTransfer)
  · intro t hEnding
    exact Tried.ending s t hEnding hTried

/-- The offer that arrives is the one that the hunt waits for. -/
theorem handleAttemptOfferPrepared_hunt {attemptSeq : Nat} {outcome : Except String SdpBody}
    (h : s.Hunt) (hAwaited : s.call.isTerminating = false →
      ∀ pending, s.pendingAttemptCandidate = some pending →
        pending.attemptSeq = attemptSeq ∧ s.offers = []) :
    Post (handleAttemptOfferPrepared attemptSeq outcome) env s (fun _ => Hunt) Tried := by
  have hTried : ∀ generation, Tried { s with
      pendingAttemptCandidate := none, actionGeneration := generation } := by
    intro generation
    have hPlanned := h.tried.replan s.remainingCandidates none s.pendingAttemptRegistration
      s.attemptQueue
    exact ⟨hPlanned.attempts, hPlanned.noTransfer⟩
  apply post_handleAttemptOfferPrepared
  · exact fun _ => h
  · intro pending hPending hOld
    cases hLive : s.call.isTerminating with
    | true => exact .of_terminating _ (hTried s.actionGeneration) hLive
    | false =>
        rw [hLive, (hAwaited hLive pending hPending).1] at hOld
        simp at hOld
  · exact fun _ _ _ => failAttemptSetup_hunt (hTried s.actionGeneration)
  · intro pending offer hPending _ hLive
    apply post_requestRegistration
    · exact hTried
    · intro generation session coordinator coordinatorGeneration
      have hPlanned := h.tried.replan s.remainingCandidates none
      refine ⟨⟨(hPlanned _ _).attempts, h.tried.noTransfer⟩, fun _ => ?_⟩
      cases h.stage hLive with
      | idle hCandidate _ _ _ _ => exact absurd (hPending.symm.trans hCandidate) (by simp)
      | registering _ hCandidate _ _ _ _ _ _ _ _ =>
          exact absurd (hPending.symm.trans hCandidate) (by simp)
      | preparing candidate hCandidate hRegistration hNext hRetry hEnded _ hQueue =>
          obtain rfl := Option.some.inj (hPending.symm.trans hCandidate)
          refine .registering _ rfl rfl rfl rfl hNext hRetry hEnded ?_ ?_
          · exact (hAwaited hLive _ hPending).2
          · right
            exact ⟨_, congrArg (· ++ [_]) hQueue, rfl, rfl⟩
    · intro generation reason
      have hPlanned := h.tried.replan s.remainingCandidates none none s.attemptQueue
      exact failAttemptSetup_hunt ⟨hPlanned.attempts, hPlanned.noTransfer⟩

/-- The number of an attempt that could be entered is new, so it did not saturate. -/
theorem next_attemptSeq {core : Core} {journal : List Entry} (h : core.Tried journal)
    (hFree : core.calleeAttempts.lookup (attemptIdOf (satSucc16 core.currentAttemptSeq)) = none) :
    satSucc16 core.currentAttemptSeq = core.currentAttemptSeq + 1 := by
  obtain ⟨entry, hMem, hSeq⟩ := core.configSnapshot.plan_reaches h.positive h.bounded
  rw [← h.order] at hMem
  obtain ⟨attempt, hLookup, _⟩ := h.mirrored.forth entry hMem
  rw [hSeq] at hLookup
  have hDistinct : satSucc16 core.currentAttemptSeq ≠ core.currentAttemptSeq := by
    intro hSame
    rw [hSame, hLookup] at hFree
    cases hFree
  have hFits := h.fits
  rw [satSucc16] at hDistinct ⊢
  omega

/-- An attempt that is adopted is the next one of the plan. Its registration is the last of the
mirrored ones, and every earlier attempt has ended. -/
theorem adopted_tried {pending : PendingAttemptRegistration} {aggregate : CallAggregate}
    {target : CalleeTarget} (hTried : s.Tried)
    (hSeq : pending.attemptSeq = satSucc16 s.currentAttemptSeq)
    (hSession : pending.sessionId = calleeSessionIdOf s.call.callId pending.attemptSeq)
    (hNext : s.call.configSnapshot.candidates.drop s.currentAttemptSeq =
      pending.candidate :: s.remainingCandidates) (hEnded : s.core.AllEnded)
    (hTarget : pending.candidate.outboundTarget.calleeTarget = .ok target)
    (hEntered : s.call.aggregate.Entered aggregate (attemptIdOf pending.attemptSeq)
      pending.sessionId target) :
    (s.adopted pending aggregate).Tried ∧ pending.attemptSeq = s.currentAttemptSeq + 1 := by
  have hSucc : pending.attemptSeq = s.currentAttemptSeq + 1 := by
    have hFree := hEntered.free
    rw [hSeq] at hFree ⊢
    exact next_attemptSeq hTried.attempts hFree
  have hCore : (s.adopted pending aggregate).core = { s.core with
      currentAttemptSeq := pending.attemptSeq
      currentAttemptId := attemptIdOf pending.attemptSeq
      calleeSessionId := pending.sessionId
      caller := { s.call.caller with peer := some pending.sessionId }
      calleeAttempts := aggregate.calleeAttempts } := by
    rw [core, core]
    simp only [adopted, CallRuntime.callId, hEntered.id]
    rfl
  have hRegistered : (s.adopted pending aggregate).core.registered
        (s.adopted pending aggregate).journal = s.core.registered s.journal ++
      [{ attemptSeq := pending.attemptSeq, sessionId := pending.sessionId
         target := pending.candidate.outboundTarget }] := by
    rw [hCore]
    simp [Core.registered, adopted, Entry.registration]
  have hPlan : s.call.configSnapshot.plan s.call.callId (s.currentAttemptSeq + 1) = _ :=
    CallConfigSnapshot.plan_succ hNext
  have h := hTried.attempts
  refine ⟨⟨?_, hTried.noTransfer⟩, hSucc⟩
  rw [hCore] at hRegistered ⊢
  constructor
  · rw [hSucc]
    exact Nat.le_add_left 1 _
  · rw [hSeq]
    exact Nat.min_le_right _ _
  · have hLess : s.currentAttemptSeq < s.call.configSnapshot.candidates.length := by
      rw [← List.drop_eq_nil_iff.not.trans (Nat.not_le), hNext]
      simp
    rw [hSucc]
    exact hLess
  · rw [hRegistered, h.order, hSession, hSucc]
    exact hPlan.symm
  · rw [hRegistered]
    exact h.mirrored.entered hTarget hEntered
  · rfl
  · intro id attempt hLookup hLive
    rw [hEntered.lookup] at hLookup
    split at hLookup
    · next hId => exact hId.symm
    · rw [hEnded id attempt hLookup] at hLive
      exact Bool.noConfusion hLive

/-- The answer to a registration adopts the candidate that waits for it, or gives it up. A live call
waits for one answer at a time, which is what `hAwaited` says of it. -/
theorem handleAttemptRegistrationResult_hunt {result : AttemptRegistrationResult} (h : s.Hunt)
    (hAwaited : s.call.isTerminating = false →
      ∀ pending, s.pendingAttemptRegistration = some pending → s.attemptQueue = [] ∧
        ∀ attemptSeq sessionId, result = .registered attemptSeq sessionId →
          pending.attemptSeq = attemptSeq ∧ pending.sessionId = sessionId) :
    Post (handleAttemptRegistrationResult result) env s (fun _ => Hunt) Tried := by
  have hTried : Tried { s with pendingAttemptRegistration := none } :=
    h.tried.replan s.remainingCandidates s.pendingAttemptCandidate none s.attemptQueue
  apply post_handleAttemptRegistrationResult h
  · intro pending hPending hOld
    apply Hunt.of_terminating _ hTried
    rw [← Bool.not_eq_false]
    intro hLive
    rcases hOld with ⟨attemptSeq, sessionId, hResult, hOther⟩ | hTerminating
    · obtain ⟨hSeq, hSession⟩ := (hAwaited hLive pending hPending).2 attemptSeq sessionId hResult
      exact hOther.elim (fun hNot => hNot hSeq) fun hNot => hNot hSession
    · exact Bool.false_ne_true (hLive.symm.trans hTerminating)
  · intro pending hPending hLive _
    have hQueue := (hAwaited hLive pending hPending).1
    cases h.stage hLive with
    | idle _ hRegistration _ _ _ => exact absurd (hPending.symm.trans hRegistration) (by simp)
    | preparing _ _ hRegistration _ _ _ _ _ =>
        exact absurd (hPending.symm.trans hRegistration) (by simp)
    | registering _ hCandidate hRegistration hSeq hSession hNext hRetry hEnded hOffers _ =>
        obtain rfl := Option.some.inj (hPending.symm.trans hRegistration)
        apply post_adoptAttempt Hunt.ending Hunt.stop
        · intro aggregate hEvolved
          exact Tried.aside hTried (.reshaped s.call.caller s.call.currentBridgeId hEvolved)
        · intro aggregate target hTarget hEntered
          obtain ⟨hAdopted, hSucc⟩ := adopted_tried hTried hSeq hSession hNext hEnded hTarget
            hEntered
          refine ⟨hAdopted, fun _ => ?_⟩
          refine .idle hCandidate rfl ?_ hOffers hQueue
          show s.remainingCandidates = List.drop pending.attemptSeq _
          rw [hSucc, ← List.tail_drop]
          exact (congrArg List.tail hNext).symm
  · intro pending reason _ _
    exact failAttemptSetup_hunt hTried

/-- No step of an answer concerns the hunt. -/
theorem handleProvisional_hunt (event : CallLegEvent) :
    KeepsHunt env (handleProvisional event) := by
  apply handleProvisional_keeps Hunt.ending Hunt.stop
  · intro s h hLive _ _ _
    exact h.aside (.assigned .establishing hLive)
  · intro s actionId statusCode startRingTimer sdp h
    exact h.aside (Aside.queue (.of_ending (.refl s)) rfl)

theorem retryAfterAttemptEnded_hunt (status : Nat) :
    KeepsHunt env (retryAfterAttemptEnded status) :=
  retryAfterAttemptEnded_keeps Hunt.ending Hunt.stop beginNextAttempt_hunt

theorem handleDisconnected_hunt (event : CallLegEvent) :
    KeepsHunt env (handleDisconnected event) :=
  handleDisconnected_keeps Hunt.ending Hunt.stop retryAfterAttemptEnded_hunt

theorem handleAnswered_hunt (event : CallLegEvent) : KeepsHunt env (handleAnswered event) := by
  apply handleAnswered_keeps Hunt.ending Hunt.stop
  · intro s h hRetry
    exact post_retryAfterLateAnswer Hunt.ending Hunt.stop beginNextAttempt_hunt h hRetry
      fun t ht => ⟨rfl, ht⟩
  · intro s answer h _ _ _ _
    have hAside : Aside s { s with
        mediaGeneration := satSucc64 s.mediaGeneration, answerInProgress := true } :=
      { Aside.of_ending (.bump s) with }
    apply post_prepareAnswer
    · intro actionId
      apply h.aside (hAside.queue _)
      split
      · rfl
      · rfl
    · exact h.tried.aside hAside

theorem confirmAnswer_hunt (actionId : String) : KeepsHunt env (confirmAnswer actionId) := by
  intro s h
  apply post_confirmAnswer
  · exact fun _ => h
  · intro pending _ _
    exact h.aside (.answer s none false s.deferredCalleeDisconnect)
  · intro pending _ _ hLive
    have hBefore : Hunt { s with pendingAnswer := none } :=
      h.aside (.answer s none s.answerInProgress s.deferredCalleeDisconnect)
    apply post_connectAnswer
    · intro aggregate caller bridge hEvolved _ t hReached
      exact Tried.ending _ t hReached (hBefore.tried.aside (.connected hLive hEvolved))
    · intro aggregate caller bridge hEvolved _ _ t actionId recording callId fast hReached _
      have hConnected := Hunt.ending _ t hReached (hBefore.aside (.connected hLive hEvolved))
      have hQueued : Hunt (t.queued
          (.startAnswerMedia actionId t.mediaGeneration recording callId fast)) :=
        hConnected.aside (.queue (.of_ending (.refl t)) rfl)
      exact hQueued.aside (.answer _ t.pendingAnswer false none)
    · exact fun event _ => handleDisconnected_hunt event

theorem completeAnswer_hunt {callerAnswer : SdpBody} {payloadTypes : List Nat} (h : s.Hunt)
    (hLive : s.call.isTerminating = false) :
    Post (completeAnswer callerAnswer payloadTypes) env s (fun _ => Hunt) Tried := by
  apply post_completeAnswer Hunt.stop h
  intro t actionId hReached hCall
  have hBefore := Hunt.ending s t hReached h
  rw [← hCall] at hLive
  exact (hBefore.aside (.assigned .answering hLive)).aside
    (.answer _ _ t.answerInProgress t.deferredCalleeDisconnect)

/-- A transfer answers with the call that it has, and dials nobody. -/
theorem connectTransfer_hunt (h : s.Hunt) (hLive : s.call.isTerminating = false) :
    Post connectTransfer env s (fun _ => Hunt) Tried := by
  have hConnected : ∀ {aggregate caller bridge}, s.call.aggregate.Evolved aggregate →
      Hunt { s.connected aggregate caller bridge with answerInProgress := false } :=
    fun hEvolved => (h.aside (.connected hLive hEvolved)).aside
      (.answer _ s.pendingAnswer false s.deferredCalleeDisconnect)
  apply post_connectTransfer Hunt.ending Hunt.stop
  · intro aggregate caller bridge hEvolved _ t hReached
    exact Tried.ending _ t hReached (hConnected hEvolved).tried
  · intro aggregate caller bridge hEvolved _ _ t actionId recording callId fast hReached _
    have hQueued : Hunt (t.queued
        (.startAnswerMedia actionId t.mediaGeneration recording callId fast)) :=
      (Hunt.ending _ t hReached (hConnected hEvolved)).aside (.queue (.of_ending (.refl t)) rfl)
    exact Hunt.ending _ _ (.dropTransfer _) hQueued

theorem activateCurrentBridge_hunt (generation activeAtMs : Nat) :
    KeepsHunt env (onCall (CallRuntime.activateCurrentBridge generation activeAtMs)) := by
  intro s h
  apply post_reshapes (activateCurrentBridge_reshapes _ _)
  · rintro _ _ ⟨aggregate, caller, bridge, rfl, hEvolved, _, _⟩
    exact h.aside (.reshaped caller bridge hEvolved)
  · rintro _ ⟨aggregate, caller, bridge, rfl, hEvolved, _, _⟩
    exact h.tried.aside (.reshaped caller bridge hEvolved)

/-- The events of the callee's leg end the current attempt or answer it; a disconnect behind an
answer in progress is deferred. -/
theorem handlePeerLegEvent_hunt (frame : LegFrame) (event : CallLegEvent) :
    KeepsHunt env (handlePeerLegEvent frame event) := by
  intro s h
  have hHeard : Hunt (s.heard frame event) := h.aside
    { core := ⟨_, _, _, _, _, _, rfl, .refl _⟩, live := id, retry := .inl rfl, transfer := .inl rfl
      offers := .refl _, registrations := rfl }
  apply post_handlePeerLegEvent hHeard
  · intro _ _ _ _
    exact hHeard.aside (.answer _ s.pendingAnswer s.answerInProgress (some event))
  · exact fun _ _ _ => handleProvisional_hunt event _ hHeard
  · exact fun _ _ => handleAnswered_hunt event _ hHeard
  · exact fun _ _ => handleFailed_keeps Hunt.ending Hunt.stop retryAfterAttemptEnded_hunt _ hHeard
  · exact fun _ _ _ => handleDisconnected_hunt event _ hHeard

theorem Hunt.managed (s t : Coordinator) (hManaged : Managed s t) (h : s.Hunt) : t.Hunt := by
  obtain ⟨_, _, _, _, _, _, _, _, _, _, _, _, _, rfl, _⟩ := hManaged
  exact h.aside
    { core := ⟨_, _, _, _, _, _, rfl, .refl _⟩, live := id, retry := .inl rfl, transfer := .inl rfl
      offers := .refl _, registrations := rfl }

/-- What ends a call, or fails in its course, keeps the hunt; it is checked here once for all the
handlers. -/
theorem hunt_settles : Settles env Hunt Tried := by
  apply settles_of_ending Hunt.ending Hunt.managed Hunt.stop
    (failed_of_ending Hunt.ending Tried.ending Hunt.of_terminating)
  intro s h
  apply post_start_of_ending (J := Hunt) Hunt.ending Hunt.ending
  · intro s actionId h _
    exact h.aside (.queue (.of_ending (.bump s)) rfl)
  · exact fun _ h => h
  · exact fun _ => h
  · intro _
    exact h.aside
      { core := ⟨_, _, _, _, _, _, rfl, .refl _⟩, live := id, retry := .inl rfl
        transfer := .inl rfl, offers := .refl _, registrations := rfl }

theorem offers_erase (s : Coordinator) (request : MediaAction) :
    (offers { s with mediaQueue := s.mediaQueue.erase request }).Sublist s.offers :=
  (List.erase_sublist (a := request) (l := s.mediaQueue)).filterMap MediaAction.offerSeq

/-- The answer to a request leaves the queue that the hunt waits on. -/
theorem Hunt.answered (h : s.Hunt) (request : AttemptRegistration) :
    Hunt { s with attemptQueue := s.attemptQueue.erase request } := by
  have hTried := h.tried.replan s.remainingCandidates s.pendingAttemptCandidate
    s.pendingAttemptRegistration (s.attemptQueue.erase request)
  exact ⟨⟨hTried.attempts, hTried.noTransfer⟩, fun hLive =>
    (h.stage hLive).answered List.erase_sublist⟩

theorem Hunt.taken {input : Input} (h : s.Hunt) : Hunt (s.taken env input) := by
  cases input with
  | registrationResult request result => exact h.answered request
  | mediaResult request result =>
      exact h.aside
        { core := ⟨_, _, _, _, _, _, rfl, .refl _⟩, live := id, retry := .inl rfl
          transfer := .inl rfl, offers := offers_erase s request, registrations := rfl }
  | _ =>
      exact h.aside
        { core := ⟨_, _, _, _, _, _, rfl, .refl _⟩, live := id, retry := .inl rfl
          transfer := .inl rfl, offers := .refl _, registrations := rfl }

/-- An offer that is answered while the next candidate is pending is the only one. -/
theorem awaited_offer {request : MediaAction} {attemptSeq : Nat} {pending : PendingAttemptCandidate}
    (h : s.Hunt) (hRequest : request ∈ s.mediaQueue) (hOffer : request.offerSeq = some attemptSeq)
    (hLive : s.call.isTerminating = false) (hPending : s.pendingAttemptCandidate = some pending) :
    pending.attemptSeq = attemptSeq ∧
      offers { s with mediaQueue := s.mediaQueue.erase request } = [] := by
  have hMem : attemptSeq ∈ s.offers := List.mem_filterMap.mpr ⟨request, hRequest, hOffer⟩
  have hPerm : s.offers.Perm
      (attemptSeq :: offers { s with mediaQueue := s.mediaQueue.erase request }) := by
    have hCons := (List.perm_cons_erase hRequest).filterMap MediaAction.offerSeq
    rwa [List.filterMap_cons, hOffer] at hCons
  cases h.stage hLive with
  | idle _ _ _ hOffers _ =>
      rw [hOffers] at hMem
      exact (List.not_mem_nil hMem).elim
  | registering _ _ _ _ _ _ _ _ hOffers _ =>
      rw [hOffers] at hMem
      exact (List.not_mem_nil hMem).elim
  | preparing candidate hCandidate _ _ _ _ hOffers _ =>
      obtain rfl := Option.some.inj (hPending.symm.trans hCandidate)
      rcases hOffers with hNone | hOne
      · rw [hNone] at hMem
        exact (List.not_mem_nil hMem).elim
      · rw [hOne] at hMem hPerm
        refine ⟨(List.mem_singleton.mp hMem).symm, ?_⟩
        have hLength := hPerm.length_eq
        simpa using hLength

/-- A registration that is answered while one is pending is the only one. -/
theorem awaited_registration {request : AttemptRegistration} {pending : PendingAttemptRegistration}
    (h : s.Hunt) (hRequest : request ∈ s.attemptQueue) (hLive : s.call.isTerminating = false)
    (hPending : s.pendingAttemptRegistration = some pending) :
    s.attemptQueue.erase request = [] ∧ request.attemptSeq = pending.attemptSeq ∧
      request.sessionId = pending.sessionId := by
  cases h.stage hLive with
  | idle _ hRegistration _ _ _ => exact absurd (hPending.symm.trans hRegistration) (by simp)
  | preparing _ _ hRegistration _ _ _ _ _ =>
      exact absurd (hPending.symm.trans hRegistration) (by simp)
  | registering _ _ hRegistration _ _ _ _ _ _ hQueue =>
      obtain rfl := Option.some.inj (hPending.symm.trans hRegistration)
      rcases hQueue with hEmpty | ⟨awaited, hOne, hNamed⟩
      · rw [show s.attemptQueue = [] from hEmpty] at hRequest
        exact (List.not_mem_nil hRequest).elim
      · have hQueue : s.attemptQueue = [awaited] := hOne
        rw [hQueue] at hRequest ⊢
        obtain rfl := List.mem_singleton.mp hRequest
        exact ⟨by simp, hNamed⟩

/-- The steps of a call that no request transfers. -/
def keepsCallee (s : Coordinator) (label : Env × Input) : Bool :=
  match s.stimulus label.1 label.2 with
  | some (.aiAction request) => !request.action.isTransfer
  | _ => true

/-- A media result that is not stale belongs to the live call. An offer that is ready is dialled,
and one that failed is the end of its attempt. -/
theorem mediaResult_hunt {request : MediaAction} {result : MediaActionResult} (h : s.Hunt)
    (hRequest : request ∈ s.mediaQueue) (hAnswers : request.answeredBy result = true) :
    Post (handleMediaActionResult result) env (s.taken env (.mediaResult request result))
      (fun _ => Hunt) Tried := by
  have hTaken : Hunt (s.taken env (.mediaResult request result)) := h.taken
  have hLive : ∀ {generation purpose}, (s.taken env (.mediaResult request result)).staleSdp
      generation purpose = false → s.call.isTerminating = false := by
    intro generation purpose hFresh
    simp only [staleSdp, Bool.or_eq_false_iff] at hFresh
    exact hFresh.1.2
  apply post_handleMediaActionResult Hunt.ending Hunt.stop hTaken
  · rintro actionId generation attemptSeq outcome rfl _
    apply handleAttemptOfferPrepared_hunt hTaken
    intro hRunning pending hPending
    apply awaited_offer h hRequest _ hRunning hPending
    cases request with
    | prepareSdp _ _ purpose _ _ =>
        simp only [MediaAction.answeredBy, Bool.and_eq_true, decide_eq_true_eq] at hAnswers
        rw [← hAnswers.2]
        rfl
    | _ => exact (Bool.false_ne_true hAnswers).elim
  · intro actionId generation purpose prepared _ _ _ hFresh _
    exact completeAnswer_hunt hTaken (hLive hFresh)
  · intro actionId generation prepared _ hFresh
    exact connectTransfer_hunt hTaken (hLive hFresh)
  · intro generation
    exact activateCurrentBridge_hunt _ _

theorem registrationResult_hunt {request : AttemptRegistration} {result : AttemptRegistrationResult}
    (h : s.Hunt) (hRequest : request ∈ s.attemptQueue)
    (hAnswers : request.answeredBy result = true) :
    Post (handleAttemptRegistrationResult result) env
      (s.taken env (.registrationResult request result)) (fun _ => Hunt) Tried := by
  apply handleAttemptRegistrationResult_hunt h.taken
  intro hLive pending hPending
  obtain ⟨hQueue, hSeq, hSession⟩ := awaited_registration h hRequest hLive hPending
  refine ⟨hQueue, ?_⟩
  rintro attemptSeq sessionId rfl
  simp only [AttemptRegistration.answeredBy, Bool.and_eq_true, decide_eq_true_eq] at hAnswers
  exact ⟨hSeq.symm.trans hAnswers.1.symm, hSession.symm.trans hAnswers.2.symm⟩

/-- One input keeps the hunt. The cases are the stimuli; what is queued or recorded first is beside
it. -/
theorem step_hunt {input : Input} (h : s.Hunt) (hAllowed : s.admissible input)
    (hKept : s.keepsCallee (env, input) = true) : Hunt (step env input s) := by
  have hTaken : Hunt (s.taken env input) := h.taken
  have hOriginate : KeepsHunt env retryAfterOriginateFailure :=
    retryAfterOriginateFailure_keeps Hunt.ending beginNextAttempt_hunt
  apply hunt_settles.step hTaken
  intro stimulus hStimulus
  cases stimulus with
  | callerEvent frame event =>
      apply handleCallerLegEvent_keeps Hunt.ending Hunt.stop _
        (handleDisconnected_hunt event) _ hTaken
      intro s h
      exact h.aside
        { core := ⟨_, _, _, _, _, _, rfl, .refl _⟩, live := id, retry := .inl rfl
          transfer := .inl rfl, offers := .refl _, registrations := rfl }
  | calleeEvent frame event => exact handlePeerLegEvent_hunt frame event _ hTaken
  | actionFailed failure peerFailure =>
      exact handleActionFailure_keeps Hunt.ending Hunt.stop (fun _ _ => hOriginate) _ hTaken
  | actionAck ack =>
      apply post_handleActionAck Hunt.ending Hunt.stop hTaken
      intro _ _ _ completed
      exact confirmAnswer_hunt _ _ (Hunt.ending (s.taken env input) _ (.minor rfl) hTaken)
  | ownedLegAck ack =>
      exact handleOwnedLegActionAck_keeps Hunt.ending Hunt.stop (fun _ => hOriginate) _ hTaken
  | mediaResult result =>
      obtain ⟨request, rfl, hRequest, hAnswers⟩ := stimulus_mediaResult hStimulus hAllowed
      exact mediaResult_hunt h hRequest hAnswers
  | registrationResult result =>
      obtain ⟨request, rfl, hRequest, hAnswers⟩ := stimulus_registrationResult hStimulus hAllowed
      exact registrationResult_hunt h hRequest hAnswers
  | aiAction request =>
      apply handleAiAction_keeps Hunt.ending Hunt.stop _ _ hTaken
      intro number s hAction
      rw [keepsCallee, hStimulus] at hKept
      simp only [hAction, AgentAction.isTransfer, Bool.not_true, Bool.false_eq_true] at hKept
  | gatewayUnavailable =>
      exact handleAiGatewayUnavailable_ending.keeps Hunt.ending Hunt.stop _ hTaken
  | shutdown => exact beginShutdown_ending.keeps Hunt.ending Hunt.stop _ hTaken
  | timer kind generation =>
      apply handleTimerExpiry_keeps Hunt.ending Hunt.stop _ _ _ hTaken
      · intro _ status
        exact waitForRetryCleanup_keeps Hunt.ending Hunt.stop Hunt.wait
      · intro _
        exact forceRetryAfterCleanup_keeps Hunt.ending Hunt.stop beginNextAttempt_hunt
  | removal cause => exact (finishNow_ending cause).keeps Hunt.ending Hunt.stop _ hTaken
  | abandoned => exact finishUnexplained_ending.keeps Hunt.ending Hunt.stop _ hTaken

end Handlers

/-- A new call is at its first candidate, with nothing registered before it. -/
theorem create_hunt {invitation : Invitation} {s : Coordinator}
    (h : create invitation = .ok s) : s.Hunt := by
  obtain ⟨aggregate, ⟨hId, _, _, target, hTarget, hLookup⟩, rfl⟩ := create_spec h
  obtain ⟨first, rest, hCandidates⟩ :=
    List.exists_cons_of_ne_nil invitation.config.candidates_ne_nil
  have hFirst : invitation.config.first = first := by
    simp only [CallConfigSnapshot.first, hCandidates, List.head_cons]
  have hRemaining : invitation.config.candidates.tail = invitation.config.candidates.drop 1 :=
    List.drop_one.symm
  refine ⟨⟨⟨?_, ?_, ?_, ?_, ?_, ?_, ?_⟩, rfl⟩, fun _ => .idle rfl rfl hRemaining rfl rfl⟩
  · exact Nat.le_refl 1
  · exact (by decide : 1 ≤ u16Max)
  · show 1 ≤ invitation.config.candidates.length
    rw [hCandidates, List.length_cons]
    exact Nat.le_add_left 1 _
  · show [_] = CallConfigSnapshot.plan invitation.config _ 1
    rw [CallConfigSnapshot.plan, hCandidates]
    simp [Coordinator.core, Invitation.runtime, CallRuntime.base, hFirst]
  · constructor
    · intro entry hMem
      obtain rfl := List.mem_singleton.mp hMem
      refine ⟨_, (hLookup _).trans (if_pos rfl), rfl, ?_, hTarget⟩
      simp [Coordinator.core, CallRuntime.callId, Invitation.runtime, CallRuntime.base, hId]
    · intro id attempt hFound
      refine ⟨_, List.mem_singleton.mpr rfl, ?_⟩
      have hFound := (hLookup id).symm.trans hFound
      split at hFound
      · next hSame => exact hSame.symm
      · cases hFound
  · rfl
  · intro id attempt hFound _
    have hFound := (hLookup id).symm.trans hFound
    split at hFound
    · next hSame => exact hSame.symm
    · cases hFound

/-- The attempts registered so far, in the order of their registration. -/
def registeredAttempts (s : Coordinator) : List RegisteredAttempt := s.core.registered s.journal

theorem plan_targets (config : CallConfigSnapshot) (callId : CallId) (n : Nat) :
    (config.plan callId n).map (·.target) = (config.candidates.take n).map (·.outboundTarget) := by
  apply List.ext_getElem
  · simp [CallConfigSnapshot.plan]
  · intro i _ _
    simp [CallConfigSnapshot.plan]

theorem plan_increasing (config : CallConfigSnapshot) (callId : CallId) (n : Nat) :
    ((config.plan callId n).map (·.attemptSeq)).Pairwise (· < ·) := by
  rw [List.pairwise_iff_getElem]
  intro i j _ _ hLess
  simpa [CallConfigSnapshot.plan] using hLess

/-- A call that is not transferred tries its candidates in their order, one at a time: the
registered attempts are a prefix of the plan, the aggregate mirrors them, and only the current one
is open. -/
theorem hunt_in_order {s : Coordinator}
    (hRun : Transition.ReachableWithin system (fun s label => s.keepsCallee label = true) s) :
    s.registeredAttempts.map (·.target) <+:
        s.call.configSnapshot.candidates.map (·.outboundTarget) ∧
      (s.registeredAttempts.map (·.attemptSeq)).Pairwise (· < ·) ∧
      Mirrors s.registeredAttempts s.call.aggregate.calleeAttempts ∧
      ∀ id attempt, s.call.aggregate.calleeAttempts.lookup id = some attempt →
        attempt.state.isTerminal = false → id = s.call.currentAttemptId := by
  have hHunt : s.Hunt := by
    apply hRun.invariant
    · rintro s ⟨invitation, hCreate⟩
      exact create_hunt hCreate
    · rintro s label t h hKept ⟨hAllowed, rfl⟩
      exact step_hunt h hAllowed hKept
  have hTried := hHunt.tried.attempts
  refine ⟨?_, ?_, hTried.mirrored, hTried.single⟩
  · rw [registeredAttempts, hTried.order, plan_targets]
    exact (List.take_prefix _ _).map _
  · rw [registeredAttempts, hTried.order]
    exact plan_increasing _ _ _

/-- The second trunk is dialled after the first one failed. -/
theorem hunt_reaches_second_candidate :
    ∃ s : Coordinator, s.registeredAttempts.length = 2 ∧ s.registeredAttempts.map (·.target) <+:
      s.call.configSnapshot.candidates.map (·.outboundTarget) := by
  obtain ⟨s, hRun, h⟩ := reachable_of_schedule keepsCallee
    (fun s => s.registeredAttempts.length = 2) (callTo (.trunk "peer:1") [.trunk "peer:2"])
    [(takingEnv, .enter),
      (takingEnv, calleeEvent .outboundFailed 1 (some 503) none),
      (takingEnv, sdpPrepared "prepare-attempt-offer-c-2" 1 (.calleeAttemptOffer 2) "offer" none
        (.ok "callee-offer")),
      (takingEnv, .registrationResult
        { callId := "c", coordinatorSessionId := "session-c-caller", coordinatorGeneration := 1
          previousSessionId := "session-c-callee-attempt-1", attemptSeq := 2
          sessionId := "session-c-callee-attempt-2"
          session := { id := "session-c-callee-attempt-2", domainId := "d", callId := "c"
                       role := .callee "attempt-2", direction := .outbound
                       endpoint := .trunk "peer:2", state := .dialing, sip := none
                       peer := some "session-c-caller", createdAtMs := 1000, answeredAtMs := none
                       hangupCause := none }
          actionGeneration := 2 }
        (.registered 2 "session-c-callee-attempt-2"))] (by decide)
  exact ⟨s, of_decide_eq_true h, (hunt_in_order hRun).1⟩

end Coordinator

end VoipSwitch
