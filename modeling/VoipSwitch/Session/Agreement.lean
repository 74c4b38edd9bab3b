import VoipSwitch.Session.Handoff
import VoipSwitch.Session.Index

/-! The registry and the aggregate name the same owner of a call. Both copies are advanced in
one step of the driver, and an installation that was committed does not fail. -/
namespace VoipSwitch

open Keyed Stateful
open Coordinator (CalleeActorView Input Invitation)

namespace Coordinator

variable {env : Env} {s : Coordinator} {token : CoordinatorHandoffToken}
  {target : CalleeActorView} {committed : CoordinatorIdentity}

/-- A package that waits for its handoff. -/
structure Packed (token : CoordinatorHandoffToken) (s : Coordinator) : Prop where
  handedOver : s.handedOver = some token
  prepared : s.handoffPrepared token = true

/-- What `prepare_handoff` has checked. -/
structure Departing (token : CoordinatorHandoffToken) (s : Coordinator) : Prop where
  callId : s.call.callId = token.callId
  identity : s.identity
    = { sessionId := token.sourceSessionId, generation := token.sourceGeneration }
  room : token.sourceGeneration < u64Max
  generation : token.sourceGeneration + 1 = token.targetGeneration
  candidate : token.targetSessionId ∈ s.call.aggregate.handoffCandidates none

theorem departing_of_handoffPrepared (h : s.handoffPrepared token = true) : s.Departing token := by
  simp only [handoffPrepared, Bool.and_eq_true, decide_eq_true_eq, List.contains_iff_mem] at h
  obtain ⟨⟨⟨⟨⟨⟨hCall, _⟩, hCoordinator⟩, hGeneration⟩, hRoom⟩, hNext⟩, hCandidate⟩ := h
  refine ⟨hCall, ?_, hRoom, hNext, hCandidate⟩
  rw [identity, hCoordinator, hGeneration]

/-- A candidate is a leg of the call that is there, and not the coordinator's. -/
theorem handoffCandidates_spec {call : CallAggregate} {session : SessionId}
    (hLegs : call.LegsFiled) (h : session ∈ call.handoffCandidates none) :
    session ≠ call.coordinator ∧ ∃ leg, call.legs.lookup session = some leg ∧
      leg.state.isTerminal = false ∧ leg.leftAtMs = none := by
  simp only [CallAggregate.handoffCandidates, List.mem_map, List.mem_insertionSort,
    List.mem_filter, Bool.and_eq_true, decide_eq_true_eq, Bool.not_eq_true',
    Option.isNone_iff_eq_none] at h
  obtain ⟨leg, ⟨hMem, ⟨hOther, hLive⟩, hPresent⟩, rfl⟩ := h
  obtain ⟨⟨key, _⟩, hEntry, rfl⟩ := List.mem_map.mp hMem
  have hLookup := OrdMap.lookup_of_mem hLegs.ascending hEntry
  have hKey := hLegs.filed key _ hLookup
  refine ⟨hOther, _, ?_, hLive, hPresent⟩
  rw [hKey]
  exact hLookup

/-- What a prepared aggregate becomes. -/
theorem handoffCoordinator_departing (h : s.Departing token) (hLegs : s.call.aggregate.LegsFiled) :
    CallAggregate.handoffCoordinator token.sourceSessionId token.sourceGeneration
      token.targetSessionId () s.call.aggregate
    = (.ok token.targetGeneration, { s.call.aggregate with
        coordinator := token.targetSessionId
        coordinatorGeneration := token.targetGeneration }) := by
  obtain ⟨hOther, leg, hLookup, hLive, hPresent⟩ := handoffCandidates_spec hLegs h.candidate
  have hOwner := h.identity
  rw [identity, CoordinatorIdentity.mk.injEq] at hOwner
  have hSource : token.targetSessionId ≠ token.sourceSessionId := hOwner.1 ▸ hOther
  have hRoom : ¬ u64Max ≤ token.sourceGeneration := Nat.not_le_of_lt h.room
  simp [CallAggregate.handoffCoordinator, bind, Proc.get, Proc.modify, pure, hOwner.1, hOwner.2,
    hLookup, hLive, hPresent, hSource, hRoom, h.generation]

/-- A committed package is installed on a target that is ready. -/
theorem installFailure_departing (h : s.Departing token) (hLegs : s.call.aggregate.LegsFiled)
    (hReady : s.targetReady token target = none)
    (hCommitted : committed
      = { sessionId := token.targetSessionId, generation := token.targetGeneration }) :
    s.installFailure token target committed = none := by
  subst hCommitted
  simp only [installFailure, ne_eq, not_true_eq_false, or_self, if_false, hReady,
    handoffCoordinator_departing h hLegs, if_true]

theorem installReady_of_targetReady (hReady : s.targetReady token target = none)
    (hCommitted : committed
      = { sessionId := token.targetSessionId, generation := token.targetGeneration }) :
    s.installReady token target committed = true := by
  subst hCommitted
  simp only [targetReady] at hReady
  split at hReady
  · cases hReady
  · next hTarget =>
      split at hReady
      · cases hReady
      · next hPackage =>
          simp only [not_or, not_not, Bool.not_eq_true] at hTarget hPackage
          simp [installReady, hTarget, hPackage]

/-- The coordinator on its new leg. -/
theorem step_installHandoff (h : s.Packed token) (hLegs : s.call.aggregate.LegsFiled)
    (hReady : s.targetReady token target = none)
    (hCommitted : committed
      = { sessionId := token.targetSessionId, generation := token.targetGeneration }) :
    step env (.installHandoff target committed) s = { s with
      handedOver := none
      call := { s.call with
        aggregate := { s.call.aggregate with
          coordinator := token.targetSessionId
          coordinatorGeneration := token.targetGeneration } }
      ownedSessionId := target.session.id
      legEventDeduper := target.legEventDeduper
      dtmf := { s.dtmf with source := target.dtmfSource }
      ownedActionGeneration := target.actionGeneration
      ownedCompletedActions := target.completedActions } := by
  have hInstall := installReady_of_targetReady hReady hCommitted
  have hMoved := handoffCoordinator_departing (departing_of_handoffPrepared h.prepared) hLegs
  simp [step, handle, installOn, Proc.final, bind, Proc.get, Proc.modify, Proc.attempt,
    h.handedOver, hInstall, onCall, CallRuntime.onAggregate, Proc.focus, hMoved]

theorem step_prepareCoordinatorHandoff (h : s.handoffPrepared token = true)
    (hAwaited : env.handoffAwaited = true) :
    step env (.control .coordinator (.prepareCoordinatorHandoff token)) s
      = { s with running := false, handedOver := some token } := by
  simp [step, handle, receive, Proc.final, bind, Proc.get, Proc.read, Proc.modify, h, hAwaited]

end Coordinator

/-- The two levels at which the owner of a call is written down: the roster of those who hold
an aggregate, each with the owner that it names, and the registry. -/
structure Agrees (roster : List (CallId × CoordinatorIdentity))
    (registry : CallId → Option CoordinatorIdentity) (finished : List CallId) : Prop where
  unique : (roster.map Prod.fst).Nodup
  same : ∀ c owner, (c, owner) ∈ roster → ∀ registered, registry c = some registered →
    registered = owner
  held : ∀ c registered, registry c = some registered → c ∉ finished → ∃ owner, (c, owner) ∈ roster

namespace Agrees

variable {roster roster' : List (CallId × CoordinatorIdentity)}
  {registry registry' : CallId → Option CoordinatorIdentity} {finished : List CallId}
  {c : CallId} {owner : CoordinatorIdentity}

theorem perm (h : Agrees roster registry finished) (hPerm : roster.Perm roster') :
    Agrees roster' registry finished where
  unique := (hPerm.map Prod.fst).nodup_iff.mp h.unique
  same c owner hMem := h.same c owner (hPerm.mem_iff.mpr hMem)
  held c registered hRegistered hLive := by
    obtain ⟨owner, hMem⟩ := h.held c registered hRegistered hLive
    exact ⟨owner, hPerm.mem_iff.mp hMem⟩

/-- Registrations may disappear. -/
theorem unregister (h : Agrees roster registry finished)
    (hLess : ∀ c registered, registry' c = some registered → registry c = some registered) :
    Agrees roster registry' finished where
  unique := h.unique
  same c owner hMem registered hRegistered := h.same c owner hMem registered (hLess _ _ hRegistered)
  held c registered hRegistered := h.held c registered (hLess _ _ hRegistered)

/-- A coordinator reports its end. -/
theorem retire (h : Agrees ((c, owner) :: roster) registry finished) :
    Agrees roster registry (c :: finished) where
  unique := (List.nodup_cons.mp h.unique).2
  same c' owner' hMem := h.same c' owner' (.tail _ hMem)
  held c' registered hRegistered hLive := by
    obtain ⟨owner', hMem⟩ := h.held c' registered hRegistered fun hDone => hLive (.tail _ hDone)
    rcases List.mem_cons.mp hMem with hSame | hRest
    · exact (hLive (by rw [(Prod.mk.inj hSame).1]; exact .head _)).elim
    · exact ⟨owner', hRest⟩

/-- A call is registered with the owner that its new coordinator names. -/
theorem admitCall (h : Agrees roster registry finished) (hFresh : ∀ owner, (c, owner) ∉ roster)
    (hHere : registry' c = some owner) (hOther : ∀ d, d ≠ c → registry' d = registry d) :
    Agrees ((c, owner) :: roster) registry' finished where
  unique := by
    refine List.nodup_cons.mpr ⟨?_, h.unique⟩
    intro hMem
    obtain ⟨⟨_, owner'⟩, hEntry, rfl⟩ := List.mem_map.mp hMem
    exact hFresh owner' hEntry
  same d owner' hMem registered hRegistered := by
    rcases List.mem_cons.mp hMem with hSame | hRest
    · obtain ⟨rfl, rfl⟩ := Prod.mk.inj hSame
      exact Option.some.inj (hRegistered.symm.trans hHere)
    · have hNe : d ≠ c := fun hEq => hFresh owner' (hEq ▸ hRest)
      exact h.same d owner' hRest registered ((hOther d hNe).symm.trans hRegistered)
  held d registered hRegistered hLive := by
    by_cases hSame : d = c
    · exact ⟨owner, by rw [hSame]; exact .head _⟩
    · obtain ⟨owner', hMem⟩ := h.held d registered ((hOther d hSame).symm.trans hRegistered) hLive
      exact ⟨owner', .tail _ hMem⟩

/-- Both levels move on to the same new owner. -/
theorem move {next : CoordinatorIdentity} (h : Agrees ((c, owner) :: roster) registry finished)
    (hHere : registry' c = some next) (hOther : ∀ d, d ≠ c → registry' d = registry d) :
    Agrees ((c, next) :: roster) registry' finished := by
  have hRest : Agrees roster (fun d => if d = c then none else registry d) finished := by
    constructor
    · exact (List.nodup_cons.mp h.unique).2
    · intro d owner' hMem registered hRegistered
      split at hRegistered
      · cases hRegistered
      · exact h.same d owner' (.tail _ hMem) registered hRegistered
    · intro d registered hRegistered hLive
      split at hRegistered
      · cases hRegistered
      · next hNe =>
          obtain ⟨owner', hMem⟩ := h.held d registered hRegistered hLive
          rcases List.mem_cons.mp hMem with hSame | hTail
          · exact (hNe (Prod.mk.inj hSame).1).elim
          · exact ⟨owner', hTail⟩
  refine hRest.admitCall ?_ hHere ?_
  · intro owner' hMem
    exact (List.nodup_cons.mp h.unique).1 (List.mem_map.mpr ⟨(c, owner'), hMem, rfl⟩)
  · intro d hNe
    rw [hOther d hNe, if_neg hNe]

end Agrees

/-- The call that a coordinator serves and the owner that its aggregate names. -/
def Coordinator.badge (s : Coordinator) : CallId × CoordinatorIdentity :=
  (s.call.callId, s.identity)

/-- An actor that stays in its place serves the same call for the same owner. -/
theorem Coordinator.badge_of_seated {s t : Coordinator} {stimulus : Option Stimulus}
    (h : t.Seated (s.deskAfter stimulus)) : t.badge = s.badge := by
  have hPlace : (s.deskAfter stimulus).callId = s.call.callId ∧
      (s.deskAfter stimulus).owner = s.call.aggregate.owner := by
    unfold deskAfter
    split <;> exact ⟨rfl, rfl⟩
  have hCall : t.call.callId = s.call.callId := (congrArg Desk.callId h.1).trans hPlace.1
  have hOwner : t.call.aggregate.owner = s.call.aggregate.owner :=
    (congrArg Desk.owner h.1).trans hPlace.2
  rw [CallAggregate.owner, CallAggregate.owner, Prod.mk.injEq] at hOwner
  rw [badge, badge, identity, identity, hCall, hOwner.1, hOwner.2]

namespace SessionManager

variable {H C : Type} {m m' : SessionManager H C}

theorem identity_bindAdapterLeg (s : SessionId) (leg : AdapterCallLegId) :
    (m.bindAdapterLeg s leg).2.coordinatorIdentity = m.coordinatorIdentity := by
  rw [bindAdapterLeg]
  split <;> rfl

theorem identity_abort (token : CoordinatorHandoffToken) :
    ((abortCoordinatorHandoff token).final () m).coordinatorIdentity = m.coordinatorIdentity := by
  apply Proc.Post.final (P := fun next : SessionManager H C =>
    next.coordinatorIdentity = m.coordinatorIdentity)
  apply abortCoordinatorHandoff_post.mono
  · rintro _ next ⟨_, rfl⟩
    rfl
  · rintro next rfl
    rfl

theorem identity_destroyCall (c d : CallId) (registered : CoordinatorIdentity)
    (h : (m.destroyCall c).coordinatorIdentity d = some registered) :
    m.coordinatorIdentity d = some registered := by
  rw [coordinatorIdentity, destroyCall, Table.get_remove] at h
  split at h
  · simp only [Option.map_none, reduceCtorEq] at h
  · exact h

/-- What a commit leaves of the registry. -/
theorem identity_commit {token : CoordinatorHandoffToken} {committed : CoordinatorIdentity}
    (h : commitCoordinatorHandoff token () m = (.ok committed, m')) :
    committed = { sessionId := token.targetSessionId, generation := token.targetGeneration } ∧
      m'.coordinatorIdentity token.callId = some committed ∧
      ∀ d, d ≠ token.callId → m'.coordinatorIdentity d = m.coordinatorIdentity d := by
  have hPost : Proc.Post (commitCoordinatorHandoff token) () m _ _ :=
    commitCoordinatorHandoff_post
  rw [Proc.Post, h] at hPost
  obtain ⟨rfl, _, _, registration, _, _, rfl⟩ := hPost
  refine ⟨rfl, ?_, ?_⟩
  · simp [coordinatorIdentity, reassigned, CoordinatorRegistration.identity]
  · intro d hNe
    rw [coordinatorIdentity, reassigned, Table.get_insert_of_ne (Ne.symm hNe)]
    rfl

theorem refused_commit {token : CoordinatorHandoffToken} {error : CoordinatorHandoffError}
    (h : commitCoordinatorHandoff token () m = (.error error, m')) : m' = m := by
  have hPost : Proc.Post (commitCoordinatorHandoff token) () m _ _ :=
    commitCoordinatorHandoff_post
  rw [Proc.Post, h] at hPost
  exact hPost

end SessionManager

namespace Runtime

variable {x y : Runtime} {env : Env} {handoff : Handoff}

def roster (x : Runtime) : List (CallId × CoordinatorIdentity) := x.holders.map Coordinator.badge

/-- Both levels agree, and the packages are as they were when they were handed over. -/
structure Agreeing (x : Runtime) : Prop where
  agrees : Agrees x.roster x.manager.coordinatorIdentity x.finished
  packed : ∀ handoff ∈ x.handoffs, ∀ s, handoff.source.actor? = some s → s.Packed handoff.token
  legs : ∀ s ∈ x.holders, s.call.aggregate.LegsFiled

theorem Agreeing.start : Agreeing start where
  agrees :=
    { unique := .nil
      same := fun _ _ hMem => nomatch hMem
      held := fun _ _ hRegistered => nomatch hRegistered }
  packed := fun _ hMem => nomatch hMem
  legs := fun _ hMem => nomatch hMem

/-- Those whose aggregate a handoff holds. -/
def packages (handoffs : List Handoff) : List (CallId × CoordinatorIdentity) :=
  (handoffs.filterMap fun handoff => handoff.source.actor?).map Coordinator.badge

theorem roster_eq (x : Runtime) :
    x.roster = x.coordinators.map Coordinator.badge ++ packages x.handoffs := by
  rw [roster, holders, List.map_append, packages]

theorem packages_append (first later : List Handoff) :
    packages (first ++ later) = packages first ++ packages later := by
  rw [packages, packages, packages, List.filterMap_append, List.map_append]

theorem packages_cons (handoff : Handoff) (rest : List Handoff) :
    packages (handoff :: rest)
      = handoff.source.actor?.toList.map Coordinator.badge ++ packages rest := by
  rw [packages, packages, List.filterMap_cons]
  cases handoff.source.actor? <;> rfl

/-- A coordinator that is held comes first in the roster. -/
theorem roster_split {earlier later : List Handoff} {s : Coordinator}
    (hHandoffs : x.handoffs = earlier ++ handoff :: later)
    (hHeld : handoff.source.actor? = some s) :
    x.roster.Perm (s.badge ::
      (x.coordinators.map Coordinator.badge ++ packages (earlier ++ later))) := by
  rw [roster_eq, hHandoffs, packages_append, packages_append, packages_cons, hHeld,
    Option.toList_some, List.map_singleton, List.singleton_append, ← List.append_assoc,
    ← List.append_assoc]
  exact List.perm_middle

theorem Agreeing.coordinatorActs (h : x.Agreeing) {before after : List Coordinator}
    {s : Coordinator} {input : Input} (hActors : x.coordinators = before ++ s :: after)
    (hOwn : input.isOwn = true) :
    Agreeing { x with
      coordinators := before ++ surviving (s.step env input) ++ after
      finished :=
        if (s.step env input).stopped then s.call.callId :: x.finished else x.finished } := by
  have hHolder : s ∈ x.holders := by simp [holders, hActors]
  have hSeated : (s.step env input).Seated (s.deskAfter (s.stimulus env input)) := by
    apply Coordinator.step_seated _ (h.legs s hHolder)
    rintro target committed rfl
    cases hOwn
  have hBadge := Coordinator.badge_of_seated hSeated
  have hAgrees := h.agrees
  rw [roster_eq, hActors] at hAgrees
  constructor
  · rw [roster_eq]
    cases hStopped : (s.step env input).stopped with
    | false =>
        simpa [surviving, hStopped, hBadge] using hAgrees
    | true =>
        have hRetired : Agrees (s.badge :: (before.map Coordinator.badge ++
            (after.map Coordinator.badge ++ packages x.handoffs))) x.manager.coordinatorIdentity
            x.finished := by
          apply hAgrees.perm
          simp only [List.map_append, List.map_cons, List.append_assoc, List.cons_append]
          exact List.perm_middle
        simpa [surviving, hStopped] using hRetired.retire
  · exact h.packed
  · intro t hMem
    simp only [holders, List.mem_append] at hMem
    rcases hMem with ((hBefore | hStep) | hAfter) | hHeld
    · exact h.legs t (by simp [holders, hActors, hBefore])
    · rw [surviving] at hStep
      split at hStep
      · exact (List.not_mem_nil hStep).elim
      · obtain rfl := List.mem_singleton.mp hStep
        exact hSeated.2
    · exact h.legs t (by simp [holders, hActors, hAfter])
    · exact h.legs t (List.mem_append_right _ hHeld)

theorem mem_holders_of_handoff {earlier later : List Handoff} {s : Coordinator}
    (hHandoffs : x.handoffs = earlier ++ handoff :: later)
    (hHeld : handoff.source.actor? = some s) :
    s ∈ x.holders := by
  apply List.mem_append_right
  exact List.mem_filterMap.mpr ⟨handoff, by simp [hHandoffs], hHeld⟩

theorem mem_holders_of_rest {earlier later : List Handoff} {s : Coordinator}
    (hHandoffs : x.handoffs = earlier ++ handoff :: later)
    (hMem : s ∈ (earlier ++ later).filterMap fun handoff => handoff.source.actor?) :
    s ∈ x.holders := by
  apply List.mem_append_right
  obtain ⟨other, hOther, hHeld⟩ := List.mem_filterMap.mp hMem
  refine List.mem_filterMap.mpr ⟨other, ?_, hHeld⟩
  rw [hHandoffs]
  rcases List.mem_append.mp hOther with hFirst | hLater
  · exact List.mem_append_left _ hFirst
  · exact List.mem_append_right _ (.tail _ hLater)

/-- The actors of a handoff that failed take up what they held. -/
theorem Agreeing.recoverActors (h : x.Agreeing) {earlier later : List Handoff}
    {manager : SessionManager SessionId CallId}
    (hHandoffs : x.handoffs = earlier ++ handoff :: later)
    (hSame : manager.coordinatorIdentity = x.manager.coordinatorIdentity) :
    Agreeing (recoverActors env handoff
      { x with handoffs := earlier ++ later, manager := manager }) := by
  have hPacked : ∀ other ∈ earlier ++ later, ∀ s, other.source.actor? = some s →
      s.Packed other.token := by
    intro other hMem s hHeld
    apply h.packed other _ s hHeld
    rw [hHandoffs]
    rcases List.mem_append.mp hMem with hFirst | hLater
    · exact List.mem_append_left _ hFirst
    · exact List.mem_append_right _ (.tail _ hLater)
  cases hHeld : handoff.source.actor? with
  | none =>
      refine ⟨?_, hPacked, ?_⟩
      · have hAgrees := h.agrees
        rw [roster_eq, hHandoffs, packages_append, packages_cons, hHeld] at hAgrees
        rw [roster_eq, Runtime.recoverActors, hHeld, packages_append, hSame]
        simpa using hAgrees
      · intro s hMem
        simp only [holders, Runtime.recoverActors, hHeld, Option.map_none, Option.toList_none,
          List.append_nil] at hMem
        rcases List.mem_append.mp hMem with hActor | hOther
        · exact h.legs s (List.mem_append_left _ hActor)
        · exact h.legs s (mem_holders_of_rest hHandoffs hOther)
  | some s =>
      refine ⟨?_, hPacked, ?_⟩
      · have hAgrees := h.agrees.perm (roster_split hHandoffs hHeld)
        rw [roster_eq, Runtime.recoverActors, hHeld, hSame]
        apply hAgrees.perm
        simp only [List.map_append, Option.map_some, Option.toList_some, List.map_cons,
          List.map_nil, List.append_assoc]
        exact List.perm_middle.symm
      · intro t hMem
        simp only [holders, Runtime.recoverActors, hHeld, Option.map_some, Option.toList_some,
          List.mem_append, List.mem_singleton] at hMem
        rcases hMem with (hActor | rfl) | hOther
        · exact h.legs t (List.mem_append_left _ hActor)
        · exact h.legs s (mem_holders_of_handoff hHandoffs hHeld)
        · exact h.legs t (mem_holders_of_rest hHandoffs hOther)

/-- Changes of the manager that leave the registry alone, or take entries out of it. -/
theorem Agreeing.withManager (h : x.Agreeing) {manager : SessionManager SessionId CallId}
    (hLess : ∀ c registered, manager.coordinatorIdentity c = some registered →
      x.manager.coordinatorIdentity c = some registered) : Agreeing { x with manager } where
  agrees := h.agrees.unregister hLess
  packed := h.packed
  legs := h.legs

theorem Agreeing.requestHandoff (h : x.Agreeing) (callId : CallId) (target : SessionId) :
    Agreeing (x.beginCoordinatorHandoff callId target).2 := by
  rw [beginCoordinatorHandoff]
  split
  · exact h
  split
  · exact h
  · next source _ =>
      split
      · exact h
      split
      · exact h
      have hPost : Proc.Post (SessionManager.prepareCoordinatorHandoff callId source.sessionId
          source.generation target) () x.manager _ _ :=
        SessionManager.prepareCoordinatorHandoff_post
      rw [Proc.Post] at hPost
      split
      · next error manager hRun =>
          rw [hRun] at hPost
          subst hPost
          exact h
      · next token manager hRun =>
          rw [hRun] at hPost
          obtain ⟨_, _, _, _, _, _, rfl⟩ := hPost
          refine ⟨?_, ?_, ?_⟩
          · show Agrees _ x.manager.coordinatorIdentity x.finished
            have hAgrees := h.agrees
            rw [roster_eq] at hAgrees ⊢
            simpa [packages_append, packages_cons, packages, Readiness.actor?] using hAgrees
          · intro handoff hMem s hHeld
            rcases List.mem_append.mp hMem with hOld | hNew
            · exact h.packed handoff hOld s hHeld
            · obtain rfl := List.mem_singleton.mp hNew
              simp only [Readiness.actor?, reduceCtorEq] at hHeld
          · intro s hMem
            apply h.legs s
            simpa [holders, Readiness.actor?] using hMem

theorem Agreeing.admitCall (h : x.Agreeing) {invitation : Invitation} {s : Coordinator}
    {callee : CalleeActorView} (hCreate : Coordinator.create invitation = .ok s)
    (hFresh : x.FreshCall invitation.callId) :
    Agreeing { x with
      manager := (x.manager.registerCaller invitation.callerSessionId invitation.callId
        invitation.callerAdapterLegId invitation.callerSessionId
        invitation.callId).registerCallee callee.session.id invitation.callId callee.session.id
      coordinators := x.coordinators ++ [s]
      callees := x.callees ++ [callee] } := by
  have hSeated := Coordinator.create_seated hCreate
  have hCall : s.call.callId = invitation.callId := congrArg Desk.callId hSeated.1
  have hIdentity : s.identity = { sessionId := invitation.callerSessionId, generation := 1 } := by
    have hOwner : s.call.aggregate.owner = (invitation.callerSessionId, 1) :=
      congrArg Desk.owner hSeated.1
    rw [CallAggregate.owner, Prod.mk.injEq] at hOwner
    rw [Coordinator.identity, hOwner.1, hOwner.2]
  refine ⟨?_, h.packed, ?_⟩
  · have hAdmitted : Agrees (s.badge :: x.roster) (SessionManager.coordinatorIdentity
        ((x.manager.registerCaller invitation.callerSessionId invitation.callId
          invitation.callerAdapterLegId invitation.callerSessionId
          invitation.callId).registerCallee callee.session.id invitation.callId
          callee.session.id)) x.finished := by
      apply h.agrees.admitCall
      · intro owner hMem
        obtain ⟨t, hHolder, hBadge⟩ := List.mem_map.mp hMem
        exact hFresh.holders t hHolder ((Prod.mk.inj hBadge).1.trans hCall)
      · rw [hCall, hIdentity]
        simp [SessionManager.coordinatorIdentity, SessionManager.registerCallee,
          SessionManager.registerCaller, CoordinatorRegistration.identity]
      · intro d hNe
        rw [hCall] at hNe
        simp [SessionManager.coordinatorIdentity, SessionManager.registerCallee,
          SessionManager.registerCaller, Table.get_insert_of_ne (Ne.symm hNe)]
    apply hAdmitted.perm
    rw [roster_eq, roster_eq, List.map_append, List.append_assoc]
    exact List.perm_middle.symm
  · intro t hMem
    simp only [holders, List.mem_append, List.mem_singleton] at hMem
    rcases hMem with (hActor | rfl) | hHeld
    · exact h.legs t (List.mem_append_left _ hActor)
    · exact hSeated.2
    · exact h.legs t (List.mem_append_right _ hHeld)

theorem mem_before_after {α : Type} {xs before after : List α} {a b : α}
    (hSplit : xs = before ++ a :: after) (h : b ∈ before ∨ b ∈ after) : b ∈ xs := by
  rw [hSplit]
  rcases h with hBefore | hAfter
  · exact List.mem_append_left _ hBefore
  · exact List.mem_append_right _ (.tail _ hAfter)

/-- An answer leaves the agreement when it neither adds nor takes the coordinator of a handoff. -/
theorem Agreeing.answered (h : x.Agreeing) {earlier later : List Handoff} {answer : Handoff}
    (hHandoffs : x.handoffs = earlier ++ handoff :: later) (hToken : answer.token = handoff.token)
    (hActor : answer.source.actor? = handoff.source.actor?) (callees : List CalleeActorView) :
    Agreeing { x with callees := callees, handoffs := earlier ++ answer :: later } := by
  have hSame : (earlier ++ answer :: later).filterMap (fun handoff => handoff.source.actor?)
      = x.handoffs.filterMap fun handoff => handoff.source.actor? := by
    simp [hHandoffs, List.filterMap_append, List.filterMap_cons, hActor]
  refine ⟨?_, ?_, ?_⟩
  · have hAgrees := h.agrees
    rw [roster, holders] at hAgrees ⊢
    rw [hSame]
    exact hAgrees
  · intro other hMem s hHeld
    rcases List.mem_append.mp hMem with hFirst | hRest
    · exact h.packed other (mem_before_after hHandoffs (.inl hFirst)) s hHeld
    · rcases List.mem_cons.mp hRest with rfl | hLater
      · rw [hActor] at hHeld
        rw [hToken]
        exact h.packed handoff (by rw [hHandoffs]; simp) s hHeld
      · exact h.packed other (mem_before_after hHandoffs (.inr hLater)) s hHeld
  · intro s hMem
    apply h.legs s
    rw [holders, hSame] at hMem
    exact hMem

/-- An answer that holds no coordinator changes nothing. -/
theorem Agreeing.failSource (h : x.Agreeing) {earlier later : List Handoff}
    (hHandoffs : x.handoffs = earlier ++ handoff :: later)
    (hAwaited : handoff.source.isAwaited = true) (failure : HandoffFailure) :
    Agreeing { x with
      handoffs := earlier ++ { handoff with source := .failed failure } :: later } := by
  apply h.answered hHandoffs
  · rfl
  · cases hSource : handoff.source with
    | awaited => rfl
    | _ =>
        rw [hSource] at hAwaited
        cases hAwaited

/-- The answer of the target's actor does not matter to the agreement. -/
theorem Agreeing.answerTarget (h : x.Agreeing) {earlier later : List Handoff}
    (hHandoffs : x.handoffs = earlier ++ handoff :: later) (target : Readiness CalleeActorView)
    (callees : List CalleeActorView) :
    Agreeing { x with
      callees := callees
      handoffs := earlier ++ { handoff with target := target } :: later } := by
  apply h.answered hHandoffs
  · rfl
  · rfl

/-- A coordinator that gives itself up moves from its task to the handoff. -/
theorem Agreeing.sourceAnswers (h : x.Agreeing) {before after : List Coordinator}
    {s : Coordinator} {earlier later : List Handoff}
    (hActors : x.coordinators = before ++ s :: after)
    (hHandoffs : x.handoffs = earlier ++ handoff :: later)
    (hAwaited : handoff.source.isAwaited = true) (hReply : env.handoffAwaited = true) :
    Agreeing { x with
      coordinators := before ++ (if s.handoffPrepared handoff.token then [] else [s]) ++ after
      handoffs := earlier ++
        { handoff with source := s.prepareHandoff env handoff.token } :: later } := by
  cases hPrepared : s.handoffPrepared handoff.token with
  | false =>
      have hFailed := h.failSource hHandoffs hAwaited
        (.reason "coordinator_handoff_prepare_mismatch")
      simpa [Coordinator.prepareHandoff, hPrepared, ← hActors] using hFailed
  | true =>
      have hStep := Coordinator.step_prepareCoordinatorHandoff hPrepared hReply
      have hNone : handoff.source.actor? = none := by
        cases hSource : handoff.source with
        | awaited => rfl
        | _ =>
            rw [hSource] at hAwaited
            cases hAwaited
      have hHolder : s ∈ x.holders := by simp [holders, hActors]
      rw [Coordinator.prepareHandoff, if_pos hPrepared, hStep]
      refine ⟨?_, ?_, ?_⟩
      · have hAgrees := h.agrees
        rw [roster_eq, hActors, hHandoffs, packages_append, packages_cons, hNone] at hAgrees
        rw [roster_eq, packages_append, packages_cons]
        apply hAgrees.perm
        simp only [Readiness.actor?, List.map_append, List.map_cons, List.map_nil,
          Option.toList_none, Option.toList_some, List.append_nil, List.nil_append, if_true,
          List.append_assoc, List.cons_append]
        have hMoved : (before.map Coordinator.badge ++ after.map Coordinator.badge
            ++ packages earlier ++ s.badge :: packages later).Perm _ := List.perm_middle
        simp only [List.append_assoc] at hMoved
        exact List.perm_middle.trans hMoved.symm
      · intro other hMem t hHeld
        rcases List.mem_append.mp hMem with hFirst | hRest
        · exact h.packed other (mem_before_after hHandoffs (.inl hFirst)) t hHeld
        · rcases List.mem_cons.mp hRest with rfl | hLater
          · obtain rfl := Option.some.inj hHeld
            exact ⟨rfl, hPrepared⟩
          · exact h.packed other (mem_before_after hHandoffs (.inr hLater)) t hHeld
      · intro t hMem
        rcases List.mem_append.mp hMem with hActor | hHeld
        · apply h.legs t (List.mem_append_left _ _)
          apply mem_before_after hActors
          simpa using hActor
        · obtain ⟨other, hOther, hPackage⟩ := List.mem_filterMap.mp hHeld
          rcases List.mem_append.mp hOther with hFirst | hRest
          · exact h.legs t (List.mem_append_right _ (List.mem_filterMap.mpr
              ⟨other, mem_before_after hHandoffs (.inl hFirst), hPackage⟩))
          · rcases List.mem_cons.mp hRest with rfl | hLater
            · obtain rfl := Option.some.inj hPackage
              exact h.legs s hHolder
            · exact h.legs t (List.mem_append_right _ (List.mem_filterMap.mpr
                ⟨other, mem_before_after hHandoffs (.inr hLater), hPackage⟩))

/-- A handoff that succeeds: the token is committed and the package is installed. -/
structure Installed (env : Env) (handoff : Handoff) (x : Runtime) (package : Coordinator)
    (callee : CalleeActorView) (committed : CoordinatorIdentity)
    (manager : SessionManager SessionId CallId) : Prop where
  source : handoff.source.actor? = some package
  target : handoff.target.actor? = some callee
  ready : package.targetReady handoff.token callee = none
  commit : SessionManager.commitCoordinatorHandoff handoff.token
    () x.manager = (.ok committed, manager)
  result : x.completeCoordinatorHandoff env handoff = (.ok committed, { x with
    manager := manager.unregisterSession handoff.token.sourceSessionId
    coordinators := x.coordinators ++ [package.step env (.installHandoff callee committed)] })

/-- A handoff either succeeds as a whole, or leaves the registry alone and starts its actors
again. No installation fails behind a commit. -/
theorem complete_cases (env : Env) (handoff : Handoff) (x : Runtime)
    (hPacked : ∀ s, handoff.source.actor? = some s →
      s.Packed handoff.token ∧ s.call.aggregate.LegsFiled) :
    (∃ package target committed manager,
      Installed env handoff x package target committed manager) ∨
    ∃ failure manager, manager.coordinatorIdentity = x.manager.coordinatorIdentity ∧
      x.completeCoordinatorHandoff env handoff
        = (.error failure, recoverActors env handoff { x with manager := manager }) := by
  have hAborted : ∀ failure, ∃ manager,
      manager.coordinatorIdentity = x.manager.coordinatorIdentity ∧
      ((.error failure, x.abortHandoff env handoff) : Except HandoffFailure
        CoordinatorIdentity × Runtime)
        = (.error failure, recoverActors env handoff { x with manager := manager }) :=
    fun failure => ⟨_, SessionManager.identity_abort handoff.token, rfl⟩
  rw [completeCoordinatorHandoff]
  split
  · next package target hSource hTarget =>
      obtain ⟨hPackage, hLegs⟩ := hPacked package hSource
      have hDeparting := Coordinator.departing_of_handoffPrepared hPackage.prepared
      split
      · exact .inr ⟨_, hAborted _⟩
      · next hReady =>
          split
          · next error manager hRun =>
              obtain rfl := SessionManager.refused_commit hRun
              exact .inr ⟨_, hAborted _⟩
          · next committed manager hRun =>
              have hCommitted := (SessionManager.identity_commit hRun).1
              have hInstalls :=
                Coordinator.installFailure_departing hDeparting hLegs hReady hCommitted
              refine .inl ⟨package, target, committed, manager, hSource, hTarget, hReady, hRun, ?_⟩
              simp only [completeCoordinatorHandoff, hSource, hTarget, hReady, hRun, hInstalls]
  · exact .inr ⟨_, hAborted _⟩

/-- The installed coordinator serves the same call and names the target as its owner. -/
theorem Installed.badge {x : Runtime} {package : Coordinator} {target : CalleeActorView}
    {committed : CoordinatorIdentity} {manager : SessionManager SessionId CallId}
    (hPackage : package.Packed handoff.token) (hLegs : package.call.aggregate.LegsFiled)
    (h : Installed env handoff x package target committed manager) :
    (package.step env (.installHandoff target committed)).badge = (package.call.callId, committed) ∧
      (package.step env (.installHandoff target committed)).call.aggregate.LegsFiled := by
  have hCommitted := (SessionManager.identity_commit h.commit).1
  rw [Coordinator.step_installHandoff hPackage hLegs h.ready hCommitted, hCommitted]
  exact ⟨rfl, hLegs.of_legs rfl⟩

theorem Agreeing.completeHandoff (h : x.Agreeing) {earlier later : List Handoff}
    (hHandoffs : x.handoffs = earlier ++ handoff :: later) :
    Agreeing (completeCoordinatorHandoff env handoff
      { x with handoffs := earlier ++ later }).2 := by
  have hPacked : ∀ s, handoff.source.actor? = some s →
      s.Packed handoff.token ∧ s.call.aggregate.LegsFiled := by
    intro s hHeld
    exact ⟨h.packed handoff (by simp [hHandoffs]) s hHeld,
      h.legs s (mem_holders_of_handoff hHandoffs hHeld)⟩
  rcases complete_cases env handoff { x with handoffs := earlier ++ later } hPacked with
    ⟨package, target, committed, manager, hInstalled⟩ | ⟨failure, manager, hSame, hResult⟩
  · obtain ⟨hPackage, hLegs⟩ := hPacked package hInstalled.source
    obtain ⟨hBadge, hFiled⟩ := hInstalled.badge hPackage hLegs
    obtain ⟨_, hHere, hOther⟩ := SessionManager.identity_commit hInstalled.commit
    have hCall : package.call.callId = handoff.token.callId :=
      (Coordinator.departing_of_handoffPrepared hPackage.prepared).callId
    rw [hInstalled.result]
    refine ⟨?_, ?_, ?_⟩
    · have hSplit : Agrees ((package.call.callId, package.identity) :: _) _ _ :=
        h.agrees.perm (roster_split hHandoffs hInstalled.source)
      have hMoved : Agrees ((package.call.callId, committed) :: _) manager.coordinatorIdentity
          x.finished := hSplit.move (hCall ▸ hHere) fun d hNe => hOther d (hCall ▸ hNe)
      show Agrees _ manager.coordinatorIdentity x.finished
      apply hMoved.perm
      rw [roster_eq, List.map_append, List.map_singleton, hBadge, List.append_assoc]
      exact List.perm_middle.symm
    · intro other hMem s hHeld
      exact h.packed other (mem_before_after hHandoffs (List.mem_append.mp hMem)) s hHeld
    · intro t hMem
      simp only [holders, List.mem_append, List.mem_singleton] at hMem
      rcases hMem with (hActor | rfl) | hHeld
      · exact h.legs t (List.mem_append_left _ hActor)
      · exact hFiled
      · exact h.legs t (mem_holders_of_rest hHandoffs hHeld)
  · rw [hResult]
    exact h.recoverActors hHandoffs hSame

theorem Agreeing.next (h : x.Agreeing) (hNext : x.Next y) : y.Agreeing := by
  cases hNext with
  | admitCall hCreate _ hFresh _ _ _ => exact h.admitCall hCreate hFresh
  | registerCallee callId _ => exact ⟨h.agrees, h.packed, h.legs⟩
  | bindAdapterLeg sessionId leg =>
      apply h.withManager
      intro c registered hRegistered
      rwa [SessionManager.identity_bindAdapterLeg] at hRegistered
  | unregisterSession sessionId => exact h.withManager fun _ _ hRegistered => hRegistered
  | destroyCall callId => exact h.withManager (SessionManager.identity_destroyCall callId)
  | requestHandoff callId target => exact h.requestHandoff callId target
  | coordinatorActs env input hActors _ hOwn => exact h.coordinatorActs hActors hOwn
  | calleeActs _ _ => exact ⟨h.agrees, h.packed, h.legs⟩
  | calleeStops _ => exact ⟨h.agrees, h.packed, h.legs⟩
  | sourceAnswers env hActors hHandoffs hAwaited _ _ hReply =>
      exact h.sourceAnswers hActors hHandoffs hAwaited hReply
  | sourceLost hHandoffs hAwaited => exact h.failSource hHandoffs hAwaited _
  | targetAnswers _ hHandoffs _ _ => exact h.answerTarget hHandoffs _ _
  | targetLost hHandoffs _ => exact h.answerTarget hHandoffs _ x.callees
  | completeHandoff env hHandoffs _ _ => exact h.completeHandoff hHandoffs
  | abandonHandoff env hHandoffs _ _ => exact h.recoverActors hHandoffs rfl

theorem Agreeing.of_reachable (h : Transition.Reachable system x) : x.Agreeing := by
  apply h.invariant
  · rintro _ rfl
    exact .start
  · intro x _ y hAgreeing hNext
    exact hAgreeing.next hNext

end Runtime

namespace SessionManager

variable {H C : Type} {m m₁ m₂ : SessionManager H C} {token : CoordinatorHandoffToken}

/-- The requests by which other events take sessions and calls out of the tables. -/
def Request.isTeardown : Request H C → Bool
  | .unregisterSession _ | .destroyCall _ => true
  | _ => false

/-- Later states of the manager that only teardowns lead to. -/
abbrev TornDown (m m' : SessionManager H C) : Prop :=
  Transition.RunsWithin (system H C) (fun _ request => request.isTeardown = true) m m'

/-- Teardowns drop registrations and tokens, they do not rewrite them. -/
theorem TornDown.entry (h : TornDown m m₁) (c : CallId) :
    (m₁.callCoordinators.get c = m.callCoordinators.get c ∨ m₁.callCoordinators.get c = none) ∧
      (m.pendingCoordinatorHandoffs.get c = none → m₁.pendingCoordinatorHandoffs.get c = none) := by
  apply Transition.RunsWithin.invariant (P := fun m₁ : SessionManager H C =>
    (m₁.callCoordinators.get c = m.callCoordinators.get c ∨ m₁.callCoordinators.get c = none) ∧
      (m.pendingCoordinatorHandoffs.get c = none → m₁.pendingCoordinatorHandoffs.get c = none)) h
  · exact ⟨.inl rfl, id⟩
  · rintro m₁ request _ ⟨hEntry, hToken⟩ hTeardown ⟨_, rfl⟩
    cases request with
    | unregisterSession sessionId =>
        refine ⟨hEntry, fun hNone => ?_⟩
        rw [perform, unregisterSession, Table.get_retain, hToken hNone]
        rfl
    | destroyCall callId =>
        by_cases hSame : callId = c
        · rw [hSame]
          exact ⟨.inr Table.get_remove_self, fun _ => Table.get_remove_self⟩
        · rw [perform, destroyCall, Table.get_remove_of_ne hSame, Table.get_remove_of_ne hSame]
          exact ⟨hEntry, hToken⟩
    | _ => cases hTeardown

/-- The call is still registered and so is the session that a rollback gives it back to. -/
def canRestore (m : SessionManager H C) (token : CoordinatorHandoffToken) : Bool :=
  m.callCoordinators.contains token.callId && m.isMember token.sourceSessionId token.callId

/-- What a rollback behind a commit does: it brings the entry back that preceded the commit,
or it is refused and changes nothing. -/
structure RollsBack (token : CoordinatorHandoffToken) (m m₂ : SessionManager H C) : Prop where
  restored : m₂.canRestore token = true →
    (rollbackCommittedCoordinatorHandoff token () m₂).1
        = .ok { sessionId := token.sourceSessionId, generation := token.sourceGeneration } ∧
      (rollbackCommittedCoordinatorHandoff token () m₂).2.callCoordinators.get token.callId
        = m.callCoordinators.get token.callId
  refused : m₂.canRestore token = false →
    ∃ error, rollbackCommittedCoordinatorHandoff token () m₂ = (.error error, m₂)

theorem rollsBack_of_commit {committed : CoordinatorIdentity}
    (hCommit : commitCoordinatorHandoff token () m = (.ok committed, m₁)) (hTorn : TornDown m₁ m₂) :
    RollsBack token m m₂ := by
  have hPost : Proc.Post (commitCoordinatorHandoff token) () m _ _ :=
    commitCoordinatorHandoff_post
  rw [Proc.Post, hCommit] at hPost
  obtain ⟨rfl, _, _, registration, hOwner, hIdentity, rfl⟩ := hPost
  obtain ⟨hEntry, hPending⟩ := hTorn.entry token.callId
  have hFree : m₂.pendingCoordinatorHandoffs.contains token.callId = false :=
    Table.not_contains_iff.mpr (hPending Table.get_remove_self)
  simp only [reassigned, Table.get_insert_self] at hEntry
  simp only [CoordinatorRegistration.identity, CoordinatorIdentity.mk.injEq] at hIdentity
  rcases hEntry with hSame | hGone
  · have hRegistered : m₂.callCoordinators.contains token.callId = true :=
      Table.contains_iff.mpr ⟨_, hSame⟩
    constructor
    · intro hCan
      rw [canRestore, hRegistered, Bool.true_and, ← hIdentity.1] at hCan
      simp [rollbackCommittedCoordinatorHandoff, bind, Proc.get, Proc.modify, pure, hFree, hSame,
        hCan, hOwner, ← hIdentity.1, ← hIdentity.2]
    · intro hCannot
      rw [canRestore, hRegistered, Bool.true_and] at hCannot
      refine ⟨.invalidTarget, ?_⟩
      simp [rollbackCommittedCoordinatorHandoff, bind, Proc.get, Proc.fail, hFree, hSame, hCannot]
  · constructor
    · intro hCan
      rw [canRestore, Table.not_contains_iff.mpr hGone] at hCan
      cases hCan
    · intro _
      refine ⟨.callNotFound, ?_⟩
      simp [rollbackCommittedCoordinatorHandoff, bind, Proc.get, Proc.fail, hFree, hGone]

end SessionManager

namespace Runtime

open SessionManager

variable {x : Runtime}

/-- The registered owner of a call is the one that the call's only coordinator, a running one,
names in its aggregate. -/
def OwnedAsRegistered (x : Runtime) (callId : CallId) (owner : CoordinatorIdentity) : Prop :=
  ∃ s ∈ x.coordinators, s.call.callId = callId ∧ s.identity = owner ∧
    ∀ t ∈ x.holders, t.call.callId = callId → t = s

theorem Agreeing.holders_unique (h : x.Agreeing) :
    (x.holders.map fun s => s.call.callId).Nodup := by
  have hUnique := h.agrees.unique
  rw [roster, List.map_map] at hUnique
  exact hUnique

/-- A coordinator that is not under way to another session runs. -/
theorem Agreeing.ownedAsRegistered (h : x.Agreeing) {callId : CallId} {owner : CoordinatorIdentity}
    (hRegistered : x.manager.coordinatorIdentity callId = some owner)
    (hLive : callId ∉ x.finished) (hStays : ∀ handoff ∈ x.handoffs, handoff.token.callId ≠ callId) :
    x.OwnedAsRegistered callId owner := by
  obtain ⟨named, hMem⟩ := h.agrees.held callId owner hRegistered hLive
  have hSame : owner = named := h.agrees.same callId named hMem owner hRegistered
  obtain ⟨s, hHolder, hBadge⟩ := List.mem_map.mp hMem
  obtain ⟨hCall, hIdentity⟩ := Prod.mk.inj hBadge
  refine ⟨s, ?_, hCall, hIdentity.trans hSame.symm, ?_⟩
  · rcases List.mem_append.mp hHolder with hActor | hHeld
    · exact hActor
    · obtain ⟨handoff, hHandoff, hPackage⟩ := List.mem_filterMap.mp hHeld
      have hPacked := h.packed handoff hHandoff s hPackage
      have hDeparting := Coordinator.departing_of_handoffPrepared hPacked.prepared
      exact (hStays handoff hHandoff (hDeparting.callId.symm.trans hCall)).elim
  · intro t hOther hSameCall
    exact List.inj_on_of_nodup_map h.holders_unique hOther hHolder (hSameCall.trans hCall.symm)

/-- In every run of the driver the registry and the aggregates agree, nobody owns an aggregate
beside its coordinator, and a rollback behind a commit either restores the registry's entry
or, where the previous owner is gone, changes nothing. -/
theorem handoff_agreement (h : Transition.Reachable system x) :
    (∀ callId owner, x.manager.coordinatorIdentity callId = some owner → callId ∉ x.finished →
      (∀ handoff ∈ x.handoffs, handoff.token.callId ≠ callId) →
        x.OwnedAsRegistered callId owner) ∧
    (x.holders.map fun s => s.call.callId).Nodup ∧
    ∀ token committed m₁ m₂, commitCoordinatorHandoff token () x.manager = (.ok committed, m₁) →
      TornDown m₁ m₂ → RollsBack token x.manager m₂ := by
  have hAgreeing := Agreeing.of_reachable h
  refine ⟨?_, hAgreeing.holders_unique, ?_⟩
  · intro callId owner hRegistered hLive hStays
    exact hAgreeing.ownedAsRegistered hRegistered hLive hStays
  · intro token committed m₁ m₂ hCommit hTorn
    exact rollsBack_of_commit hCommit hTorn

/-- A call that was handed over to its callee's session. -/
def handedOver : List Move :=
  [.admitCall (Coordinator.callTo (.trunk "peer:1") []),
    .coordinatorActs Coordinator.takingEnv .enter] ++
  handoffMoves Coordinator.takingEnv "c" "session-c-callee-attempt-1"

theorem handoff_agreement_handedOver :
    ∃ x, Transition.Reachable system x ∧
      x.OwnedAsRegistered "c" { sessionId := "session-c-callee-attempt-1", generation := 2 } := by
  have hPlay : (play handedOver).any (fun x =>
      x.manager.coordinatorIdentity "c"
          = some { sessionId := "session-c-callee-attempt-1", generation := 2 }
        ∧ "c" ∉ x.finished ∧ x.handoffs.isEmpty) = true := by decide
  rw [Option.any_eq_true] at hPlay
  obtain ⟨x, hRun, hState⟩ := hPlay
  simp only [decide_eq_true_eq, List.isEmpty_iff] at hState
  have hReachable := reachable_of_play hRun
  refine ⟨x, hReachable, (handoff_agreement hReachable).1 _ _ hState.1 hState.2.1 ?_⟩
  intro handoff hMem
  rw [hState.2.2] at hMem
  exact (List.not_mem_nil hMem).elim

/-- The token of the first handoff of the call. -/
def firstToken : CoordinatorHandoffToken where
  callId := "c"
  sourceSessionId := "session-c-caller"
  targetSessionId := "session-c-callee-attempt-1"
  sourceGeneration := 1
  targetGeneration := 2

/-- A handoff is committed although the session that it leaves is gone, and so it cannot be
given back. -/
theorem committed_handoff_stays :
    ¬ ∀ x : Runtime, Transition.Reachable system x → ∀ token committed m₁,
      commitCoordinatorHandoff token () x.manager = (.ok committed, m₁) →
        (rollbackCommittedCoordinatorHandoff token () m₁).2.callCoordinators.get token.callId
          = x.manager.callCoordinators.get token.callId := by
  intro hRestores
  have hPlay : (play [.admitCall (Coordinator.callTo (.trunk "peer:1") []),
      .unregisterSession "session-c-caller",
      .requestHandoff "c" "session-c-callee-attempt-1"]).any (fun x =>
        match commitCoordinatorHandoff firstToken () x.manager with
        | (.ok _, m₁) =>
          (rollbackCommittedCoordinatorHandoff firstToken () m₁).2.callCoordinators.get "c"
            ≠ x.manager.callCoordinators.get "c"
        | (.error _, _) => false) = true := by decide
  rw [Option.any_eq_true] at hPlay
  obtain ⟨x, hRun, hStays⟩ := hPlay
  split at hStays
  · next committed m₁ hCommit =>
      have hRestored := hRestores x (reachable_of_play hRun) firstToken committed m₁ hCommit
      exact of_decide_eq_true hStays hRestored
  · simp only [Bool.false_eq_true] at hStays

end Runtime

end VoipSwitch
