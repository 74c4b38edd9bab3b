import VoipSwitch.Session.Agreement

/-! Routing across a handoff. The session that the coordinator leaves is taken out of the
tables; every other session stays reachable, the target's through the coordinator that now
reads its mailbox. -/
namespace VoipSwitch

open Keyed Stateful
open Coordinator (CalleeActorView)

namespace SessionManager

/-- A session's handle leads to the session's own mailbox. -/
def Request.ownHandle : Request SessionId CallId → Bool
  | .registerCaller sessionId _ _ handle _ | .registerCallee sessionId _ handle =>
    handle = sessionId
  | _ => true

/-- Requests to the manager that the runtime makes. -/
abbrev Requested (m m' : SessionManager SessionId CallId) : Prop :=
  Transition.RunsWithin (system SessionId CallId) (fun _ request => request.ownHandle = true) m m'

variable {m m' : SessionManager SessionId CallId} {token : CoordinatorHandoffToken}

theorem Requested.request (request : Request SessionId CallId) (hOwn : request.ownHandle = true)
    (hFresh : m.fresh request = true) : Requested m (m.perform request) :=
  Transition.RunsWithin.refl.step hOwn ⟨hFresh, rfl⟩

theorem Requested.abort (token : CoordinatorHandoffToken) :
    Requested m ((abortCoordinatorHandoff token).final () m) :=
  .request (.abort token) rfl rfl

/-- A commit that ran is one request, whatever came of it. -/
theorem Requested.commit {result : Except CoordinatorHandoffError CoordinatorIdentity}
    (h : commitCoordinatorHandoff token () m = (result, m')) : Requested m m' := by
  have hFinal : (commitCoordinatorHandoff token).final () m = m' := by
    rw [Proc.final, h]
  rw [← hFinal]
  exact .request (.commit token) rfl rfl

theorem Requested.prepare {callId : CallId} {source target : SessionId} {generation : Nat}
    {result : Except CoordinatorHandoffError CoordinatorHandoffToken}
    (h : prepareCoordinatorHandoff callId source generation target () m = (result, m')) :
    Requested m m' := by
  have hFinal : (prepareCoordinatorHandoff callId source generation target).final () m = m' := by
    rw [Proc.final, h]
  rw [← hFinal]
  exact .request (.prepare callId source generation target) rfl rfl

/-- The session table only holds handles of the sessions themselves. -/
def Handled (m : SessionManager SessionId CallId) : Prop :=
  ∀ session mailbox, m.sessions.get session = some mailbox → mailbox = session

theorem Handled.insert (h : m.Handled) (s : SessionId) (session mailbox : SessionId)
    (hGet : (m.sessions.insert s s).get session = some mailbox) : mailbox = session := by
  rw [Table.get_insert] at hGet
  split at hGet
  · next hSame => exact (Option.some.inj hGet).symm.trans hSame
  · exact h session mailbox hGet

/-- Requests that bring their own handle keep the session table in order. -/
theorem Handled.perform (h : m.Handled) {request : Request SessionId CallId}
    (hOwn : request.ownHandle = true) : (m.perform request).Handled := by
  have hKept : ∀ next : SessionManager SessionId CallId, next.sessions = m.sessions →
      next.Handled := by
    intro next hSame session mailbox hGet
    rw [hSame] at hGet
    exact h session mailbox hGet
  cases request with
  | registerCaller sessionId callId leg handle coordinator =>
      obtain rfl := of_decide_eq_true hOwn
      exact h.insert handle
  | registerCallee sessionId callId handle =>
      obtain rfl := of_decide_eq_true hOwn
      exact h.insert handle
  | bindAdapterLeg sessionId leg =>
      apply hKept
      rw [SessionManager.perform, bindAdapterLeg]
      split <;> rfl
  | unregisterSession sessionId =>
      intro session mailbox hGet
      exact h session mailbox (Table.get_retain_eq_some.mp hGet).1
  | prepare callId source generation target =>
      apply Proc.Post.final (prepareCoordinatorHandoff_post.mono _ _)
      · rintro _ next ⟨_, _, _, _, _, _, rfl⟩
        exact hKept _ rfl
      · rintro next rfl
        exact h
  | commit token =>
      apply Proc.Post.final (commitCoordinatorHandoff_post.mono _ _)
      · rintro _ next ⟨_, _, _, _, _, _, rfl⟩
        exact hKept _ rfl
      · rintro next rfl
        exact h
  | abort token =>
      apply Proc.Post.final (abortCoordinatorHandoff_post.mono _ _)
      · rintro _ next ⟨_, rfl⟩
        exact hKept _ rfl
      · rintro next rfl
        exact h
  | rollback token =>
      apply Proc.Post.final (rollbackCommittedCoordinatorHandoff_post.mono _ _)
      · rintro _ next ⟨_, _, _, _, _, _, rfl⟩
        exact hKept _ rfl
      · rintro next rfl
        exact h
  | destroyCall callId =>
      intro session mailbox hGet
      exact h session mailbox (Table.get_retain_eq_some.mp hGet).1

theorem Requested.sound (h : Requested .empty m) : m.Consistent ∧ m.Handled := by
  constructor
  · exact .of_reachable ⟨.empty, rfl, h.runs⟩
  · apply h.invariant
    · intro session mailbox hGet
      cases hGet
    · rintro m request _ hHandled hOwn ⟨_, rfl⟩
      exact hHandled.perform hOwn

end SessionManager

namespace Runtime

open SessionManager

variable {x y : Runtime} {env : Env} {handoff : Handoff}

theorem requested_complete (env : Env) (handoff : Handoff) (x : Runtime) :
    Requested x.manager (x.completeCoordinatorHandoff env handoff).2.manager := by
  rw [completeCoordinatorHandoff]
  split
  · split
    · exact .abort handoff.token
    · split
      · next hCommit => exact (Requested.commit hCommit).trans (Requested.abort handoff.token)
      · next hCommit =>
          split
          · exact (Requested.commit hCommit).trans
              (Requested.request (.unregisterSession handoff.token.sourceSessionId) rfl rfl)
          · exact (Requested.commit hCommit).trans
              (Requested.request (.rollback handoff.token) rfl rfl)
  · exact .abort handoff.token

/-- Whatever the runtime does, its manager sees requests only, and ids that are not in use. -/
theorem Next.requested (h : x.Next y) : Requested x.manager y.manager := by
  cases h with
  | @admitCall invitation s callee hCreate hFirst hFresh hCaller hCallee hDistinct =>
      have hCall : x.manager.callCoordinators.contains invitation.callId = false :=
        Table.not_contains_iff.mpr hFresh.registered
      have hStill : (x.manager.registerCaller invitation.callerSessionId invitation.callId
          invitation.callerAdapterLegId invitation.callerSessionId
          invitation.callId).sessions.contains callee.session.id = false := by
        rw [Table.not_contains_iff] at hCallee ⊢
        rw [registerCaller, Table.get_insert_of_ne (Ne.symm hDistinct)]
        exact hCallee
      apply Transition.RunsWithin.trans
      · apply Requested.request (.registerCaller invitation.callerSessionId invitation.callId
          invitation.callerAdapterLegId invitation.callerSessionId invitation.callId)
        · exact decide_eq_true rfl
        · rw [fresh, hCaller, hCall]
          rfl
      · apply Requested.request
          (.registerCallee callee.session.id invitation.callId callee.session.id)
        · exact decide_eq_true rfl
        · rw [fresh, SessionManager.perform, hStill]
          rfl
  | @registerCallee callee callId hCallee =>
      apply Requested.request (.registerCallee callee.session.id callId callee.session.id)
      · exact decide_eq_true rfl
      · rw [fresh, hCallee]
        rfl
  | bindAdapterLeg sessionId leg => exact .request (.bindAdapterLeg sessionId leg) rfl rfl
  | unregisterSession sessionId => exact .request (.unregisterSession sessionId) rfl rfl
  | destroyCall callId => exact .request (.destroyCall callId) rfl rfl
  | requestHandoff callId target =>
      rw [beginCoordinatorHandoff]
      split
      · exact .refl
      split
      · exact .refl
      split
      · exact .refl
      split
      · exact .refl
      split
      · next hPrepare => exact .prepare hPrepare
      · next hPrepare => exact .prepare hPrepare
  | coordinatorActs _ _ _ _ _ | calleeActs _ _ | calleeStops _ | sourceAnswers _ _ _ _ _ _ _
  | sourceLost _ _ | targetAnswers _ _ _ _ | targetLost _ _ => exact .refl
  | @completeHandoff earlier later handoff env _ _ _ =>
      exact requested_complete env handoff { x with handoffs := earlier ++ later }
  | abandonHandoff env _ _ _ => exact .refl

theorem requested_of_reachable (h : Transition.Reachable system x) :
    Requested .empty x.manager := by
  apply h.invariant
  · rintro _ rfl
    exact .refl
  · intro x _ y hRequested hNext
    exact hRequested.trans hNext.requested

/-- An actor of the call reads this mailbox. -/
def Serves (x : Runtime) (callId : CallId) (mailbox : SessionId) : Prop :=
  (∃ s ∈ x.holders, s.call.callId = callId ∧ s.ownedSessionId = mailbox) ∨
    ∃ callee ∈ x.targets, callee.session.callId = callId ∧ callee.session.id = mailbox

/-- The session is listed for the call and its handle leads to an actor of the call. -/
structure Routable (x : Runtime) (callId : CallId) (session : SessionId) : Prop where
  listed : x.manager.sessionCalls.get session = some callId
  served : ∃ mailbox, x.manager.lookupBySession session = some mailbox ∧ x.Serves callId mailbox

/-- What a handoff does to the routing: the session that it leaves goes, everything else stays. -/
structure Rerouted (token : CoordinatorHandoffToken) (x y : Runtime) : Prop where
  left : y.manager.lookupBySession token.sourceSessionId = none ∧
    ∀ leg, y.manager.lookupByAdapterLeg leg ≠ some token.sourceSessionId
  target : y.Routable token.callId token.targetSessionId ∧
    ∃ s ∈ y.coordinators, s.call.callId = token.callId ∧ s.ownedSessionId = token.targetSessionId
  routable : ∀ callId session, session ≠ token.sourceSessionId →
    x.Routable callId session → y.Routable callId session
  bound : ∀ leg session, session ≠ token.sourceSessionId →
    x.manager.lookupByAdapterLeg leg = some session →
      y.manager.lookupByAdapterLeg leg = some session
  peer : ∀ walk, walk.Perm y.manager.sessionCalls.entries →
    (∀ peer, y.manager.peerSession walk token.callId = some peer →
      peer ≠ token.targetSessionId ∧ y.manager.isMember peer token.callId = true) ∧
    ((∃ session, session ≠ token.targetSessionId ∧
      y.manager.sessionCalls.get session = some token.callId) →
        (y.manager.peerSession walk token.callId).isSome = true)

end Runtime

namespace SessionManager

variable {H C : Type} {m : SessionManager H C} {callId : CallId} {owner : SessionId}
  {walk : List (SessionId × CallId)}

/-- The peer is a session of the call other than the coordinator's. -/
theorem peerSession_sound (h : m.Consistent) (hOwner : m.coordinatorSession callId = some owner)
    (hWalk : walk.Perm m.sessionCalls.entries) {peer : SessionId}
    (hPeer : m.peerSession walk callId = some peer) :
    peer ≠ owner ∧ m.isMember peer callId = true := by
  obtain ⟨⟨found, call⟩, hFound, rfl⟩ := Option.map_eq_some_iff.mp hPeer
  have hMem := List.mem_of_find?_eq_some hFound
  have hMatch := List.find?_some hFound
  simp only [hOwner, ne_eq, Option.some.injEq, decide_eq_true_eq] at hMatch
  have hListed : m.sessionCalls.get found = some callId := by
    rw [← Table.mem_entries, ← hMatch.1]
    exact hWalk.mem_iff.mp hMem
  refine ⟨fun hSame => hMatch.2 hSame.symm, isMember_iff.mpr ⟨?_, hListed⟩⟩
  rw [h.sameKeys]
  exact Table.contains_iff.mpr ⟨callId, hListed⟩

/-- The peer is found wherever there is one. -/
theorem peerSession_complete (hOwner : m.coordinatorSession callId = some owner)
    (hWalk : walk.Perm m.sessionCalls.entries) {session : SessionId} (hOther : session ≠ owner)
    (hListed : m.sessionCalls.get session = some callId) :
    (m.peerSession walk callId).isSome = true := by
  rw [peerSession, Option.isSome_map, List.find?_isSome]
  refine ⟨(session, callId), hWalk.mem_iff.mpr (Table.mem_entries.mpr hListed), ?_⟩
  simp only [hOwner, ne_eq, Option.some.injEq, decide_eq_true_eq, true_and]
  exact fun hSame => hOther hSame.symm

end SessionManager

namespace Runtime

open SessionManager

variable {x y : Runtime} {env : Env} {handoff : Handoff}

/-- The tables after a commit and the end of the source's registration. -/
structure Released (token : CoordinatorHandoffToken) (m m' : SessionManager SessionId CallId) :
    Prop where
  owner : m'.coordinatorSession token.callId = some token.targetSessionId
  member : m.isMember token.targetSessionId token.callId = true
  sessions : m'.sessions = m.sessions.remove token.sourceSessionId
  sessionCalls : m'.sessionCalls = m.sessionCalls.remove token.sourceSessionId
  legSessions : m'.legSessions = m.legSessions.retain fun _ s => s ≠ token.sourceSessionId

theorem released_of_commit {token : CoordinatorHandoffToken} {committed : CoordinatorIdentity}
    {m m' : SessionManager SessionId CallId}
    (h : commitCoordinatorHandoff token () m = (.ok committed, m')) :
    Released token m (m'.unregisterSession token.sourceSessionId) := by
  have hPost : Proc.Post (commitCoordinatorHandoff token) () m _ _ :=
    commitCoordinatorHandoff_post
  rw [Proc.Post, h] at hPost
  obtain ⟨rfl, _, hMember, registration, _, _, rfl⟩ := hPost
  refine ⟨?_, hMember, rfl, rfl, rfl⟩
  simp [coordinatorSession, unregisterSession, reassigned]

theorem Released.session {token : CoordinatorHandoffToken}
    {m m' : SessionManager SessionId CallId} (h : Released token m m') {session : SessionId}
    (hOther : session ≠ token.sourceSessionId) :
    m'.sessions.get session = m.sessions.get session ∧
      m'.sessionCalls.get session = m.sessionCalls.get session := by
  rw [h.sessions, h.sessionCalls]
  exact ⟨Table.get_remove_of_ne (Ne.symm hOther), Table.get_remove_of_ne (Ne.symm hOther)⟩

/-- The places of the two actors that a package and its target were checked for. -/
theorem places_of_targetReady {token : CoordinatorHandoffToken} {package : Coordinator}
    {target : CalleeActorView} (h : package.targetReady token target = none) :
    package.ownedSessionId = token.sourceSessionId ∧ target.session.callId = token.callId ∧
      target.session.id = token.targetSessionId := by
  simp only [Coordinator.targetReady] at h
  split at h
  · cases h
  · next hTarget =>
      split at h
      · cases h
      · next hPackage =>
          simp only [not_or, not_not] at hTarget hPackage
          exact ⟨hPackage.2.1, hTarget.1, hTarget.2.1⟩

/-- A successful handoff: the coordinator serves the target's mailbox, every other actor the
mailbox that it served before. -/
theorem Installed.serves {x : Runtime} {package : Coordinator} {target : CalleeActorView}
    {committed : CoordinatorIdentity} {manager : SessionManager SessionId CallId}
    {earlier later : List Handoff} (hHandoffs : x.handoffs = earlier ++ handoff :: later)
    (h : Installed env handoff { x with handoffs := earlier ++ later } package target committed
      manager)
    (hInstalled : (package.step env (.installHandoff target committed)).call.callId
        = handoff.token.callId ∧
      (package.step env (.installHandoff target committed)).ownedSessionId
        = handoff.token.targetSessionId)
    (callId : CallId) (mailbox : SessionId) (hOther : mailbox ≠ handoff.token.sourceSessionId)
    (hServes : x.Serves callId mailbox) :
    (completeCoordinatorHandoff env handoff
      { x with handoffs := earlier ++ later }).2.Serves callId mailbox := by
  obtain ⟨hOwned, hTarget⟩ := places_of_targetReady h.ready
  rw [h.result]
  rcases hServes with ⟨s, hHolder, hCall, hMailbox⟩ | ⟨callee, hActor, hCall, hMailbox⟩
  · left
    refine ⟨s, ?_, hCall, hMailbox⟩
    rcases List.mem_append.mp hHolder with hRuns | hHeld
    · exact List.mem_append_left _ (List.mem_append_left _ hRuns)
    · apply List.mem_append_right
      obtain ⟨other, hMem, hPackage⟩ := List.mem_filterMap.mp hHeld
      refine List.mem_filterMap.mpr ⟨other, ?_, hPackage⟩
      rw [hHandoffs] at hMem
      rcases List.mem_append.mp hMem with hEarlier | hRest
      · exact List.mem_append_left _ hEarlier
      · rcases List.mem_cons.mp hRest with rfl | hLater
        · obtain rfl := Option.some.inj (hPackage.symm.trans h.source)
          exact (hOther (hMailbox.symm.trans hOwned)).elim
        · exact List.mem_append_right _ hLater
  · rcases List.mem_append.mp hActor with hRuns | hHeld
    · exact .inr ⟨callee, List.mem_append_left _ hRuns, hCall, hMailbox⟩
    · obtain ⟨other, hMem, hActor⟩ := List.mem_filterMap.mp hHeld
      have hStays : other ∈ earlier ++ later → callee ∈ (earlier ++ later).filterMap
          fun handoff => handoff.target.actor? :=
        fun hOther => List.mem_filterMap.mpr ⟨other, hOther, hActor⟩
      rw [hHandoffs] at hMem
      rcases List.mem_append.mp hMem with hEarlier | hRest
      · exact .inr ⟨callee, List.mem_append_right _ (hStays (List.mem_append_left _ hEarlier)),
          hCall, hMailbox⟩
      · rcases List.mem_cons.mp hRest with rfl | hLater
        · -- the actor of the target gave its mailbox to the coordinator
          obtain rfl := Option.some.inj (hActor.symm.trans h.target)
          left
          refine ⟨_, List.mem_append_left _ (List.mem_append_right _ (List.mem_singleton_self _)),
            ?_, ?_⟩
          · exact hInstalled.1.trans (hTarget.1.symm.trans hCall)
          · exact hInstalled.2.trans (hTarget.2.symm.trans hMailbox)
        · exact .inr ⟨callee, List.mem_append_right _ (hStays (List.mem_append_right _ hLater)),
            hCall, hMailbox⟩

/-- A session that is not left is as routable as it was, as long as its actor serves it. -/
theorem Routable.released {token : CoordinatorHandoffToken} (hHandled : x.manager.Handled)
    (hReleased : Released token x.manager y.manager) {callId : CallId} {session : SessionId}
    (hOther : session ≠ token.sourceSessionId)
    (hServes : x.Serves callId session → y.Serves callId session) (h : x.Routable callId session) :
    y.Routable callId session := by
  obtain ⟨hListed, mailbox, hLookup, hServed⟩ := h
  obtain ⟨hSession, hCall⟩ := hReleased.session hOther
  obtain rfl : mailbox = session := hHandled session mailbox hLookup
  exact ⟨hCall.trans hListed, mailbox, hSession.trans hLookup, hServes hServed⟩

/-- The tables of a call that was handed over. -/
theorem rerouted_of_released {token : CoordinatorHandoffToken} (hHandled : x.manager.Handled)
    (hConsistent : y.manager.Consistent) (hReleased : Released token x.manager y.manager)
    (hDistinct : token.targetSessionId ≠ token.sourceSessionId)
    (hInstalled : ∃ s ∈ y.coordinators, s.call.callId = token.callId ∧
      s.ownedSessionId = token.targetSessionId)
    (hServes : ∀ callId mailbox, mailbox ≠ token.sourceSessionId → x.Serves callId mailbox →
      y.Serves callId mailbox) : Rerouted token x y := by
  constructor
  · constructor
    · rw [lookupBySession, hReleased.sessions]
      exact Table.get_remove_self
    · intro leg hBound
      rw [lookupByAdapterLeg, hReleased.legSessions, Table.get_retain_eq_some,
        decide_eq_true_eq] at hBound
      exact hBound.2 rfl
  · obtain ⟨hSession, hCall⟩ := hReleased.session hDistinct
    obtain ⟨hKnown, hListed⟩ := isMember_iff.mp hReleased.member
    obtain ⟨mailbox, hLookup⟩ := Table.contains_iff.mp hKnown
    obtain rfl : mailbox = token.targetSessionId := hHandled _ mailbox hLookup
    obtain ⟨s, hActor, hPlace⟩ := hInstalled
    refine ⟨⟨hCall.trans hListed, _, hSession.trans hLookup, .inl ⟨s, ?_, hPlace⟩⟩, s, hActor,
      hPlace⟩
    exact List.mem_append_left _ hActor
  · intro callId session hOther hRoutable
    exact hRoutable.released hHandled hReleased hOther (hServes callId session hOther)
  · intro leg session hOther hBound
    rw [lookupByAdapterLeg, hReleased.legSessions, Table.get_retain_eq_some, decide_eq_true_eq]
    exact ⟨hBound, hOther⟩
  · intro walk hWalk
    constructor
    · intro peer hPeer
      exact peerSession_sound hConsistent hReleased.owner hWalk hPeer
    · rintro ⟨session, hOther, hListed⟩
      exact peerSession_complete hReleased.owner hWalk hOther hListed

/-- A handoff that succeeds keeps everything routable but the session that it leaves. The call then
belongs to the target, and the peer that is found for it is another member of the call. -/
theorem handoff_keeps_routing (h : Transition.Reachable system x) {earlier later : List Handoff}
    (hHandoffs : x.handoffs = earlier ++ handoff :: later) {committed : CoordinatorIdentity}
    (hResult : completeCoordinatorHandoff env handoff { x with handoffs := earlier ++ later }
      = (.ok committed, y)) : Rerouted handoff.token x y := by
  have hAgreeing := Agreeing.of_reachable h
  have hPacked : ∀ s, handoff.source.actor? = some s →
      s.Packed handoff.token ∧ s.call.aggregate.LegsFiled := by
    intro s hHeld
    exact ⟨hAgreeing.packed handoff (by simp [hHandoffs]) s hHeld,
      hAgreeing.legs s (mem_holders_of_handoff hHandoffs hHeld)⟩
  rcases complete_cases env handoff { x with handoffs := earlier ++ later } hPacked with
    ⟨package, target, installed, manager, hInstalled⟩ | ⟨failure, manager, _, hFailed⟩
  · obtain ⟨hPackage, hLegs⟩ := hPacked package hInstalled.source
    have hDeparting := Coordinator.departing_of_handoffPrepared hPackage.prepared
    have hStep : package.step env (.installHandoff target installed) = _ :=
      Coordinator.step_installHandoff hPackage hLegs hInstalled.ready
        (identity_commit hInstalled.commit).1
    have hPlace : (package.step env (.installHandoff target installed)).call.callId
          = handoff.token.callId ∧
        (package.step env (.installHandoff target installed)).ownedSessionId
          = handoff.token.targetSessionId := by
      rw [hStep]
      exact ⟨hDeparting.callId, (places_of_targetReady hInstalled.ready).2.2⟩
    have hDistinct : handoff.token.targetSessionId ≠ handoff.token.sourceSessionId := by
      have hOwner : package.call.aggregate.coordinator = handoff.token.sourceSessionId :=
        congrArg CoordinatorIdentity.sessionId hDeparting.identity
      rw [← hOwner]
      exact (Coordinator.handoffCandidates_spec hLegs hDeparting.candidate).1
    have hServes := hInstalled.serves hHandoffs hPlace
    have hRequested := (requested_of_reachable h).trans
      (requested_complete env handoff { x with handoffs := earlier ++ later })
    rw [hInstalled.result] at hServes hRequested
    obtain ⟨-, rfl⟩ := Prod.mk.inj (hInstalled.result.symm.trans hResult)
    apply rerouted_of_released (requested_of_reachable h).sound.2 (Requested.sound hRequested).1
      (released_of_commit hInstalled.commit) hDistinct
    · exact ⟨_, List.mem_append_right _ (List.mem_singleton_self _), hPlace⟩
    · exact hServes
  · rw [hResult] at hFailed
    simp only [Prod.mk.injEq, reduceCtorEq, false_and] at hFailed

/-- A call whose two actors are ready for the handoff to the callee's session. -/
def readyToMove : List Move :=
  [.admitCall (Coordinator.callTo (.trunk "peer:1") []),
    .bindAdapterLeg "session-c-callee-attempt-1" "leg-1",
    .coordinatorActs Coordinator.takingEnv .enter,
    .requestHandoff "c" "session-c-callee-attempt-1",
    .sourceAnswers { Coordinator.takingEnv with handoffAwaited := true }, .targetAnswers]

/-- The result of the only handoff under way. -/
def completed (x : Runtime) : Option (Except HandoffFailure CoordinatorIdentity × Runtime) :=
  match x.handoffs with
  | [handoff] =>
    some (completeCoordinatorHandoff Coordinator.takingEnv handoff { x with handoffs := [] })
  | _ => none

theorem readyToMove_completes (P : Runtime → Runtime → Bool)
    (h : (play readyToMove).any (fun x =>
      match x.completed with
      | some (.ok _, y) => P x y
      | _ => false) = true) :
    ∃ x handoff committed y, Transition.Reachable system x ∧ x.handoffs = [handoff] ∧
      completeCoordinatorHandoff Coordinator.takingEnv handoff { x with handoffs := [] }
        = (.ok committed, y) ∧ P x y = true := by
  rw [Option.any_eq_true] at h
  obtain ⟨x, hPlay, hDone⟩ := h
  split at hDone
  · next committed y hCompleted =>
      rw [completed] at hCompleted
      split at hCompleted
      · next handoff hHandoffs =>
          exact ⟨x, handoff, committed, y, reachable_of_play hPlay, hHandoffs,
            Option.some.inj hCompleted, hDone⟩
      · cases hCompleted
  · simp only [Bool.false_eq_true] at hDone

theorem handoff_keeps_routing_ready :
    ∃ x y handoff, Transition.Reachable system x ∧ x.handoffs = [handoff] ∧
      Rerouted handoff.token x y := by
  obtain ⟨x, handoff, committed, y, hReachable, hHandoffs, hResult, -⟩ :=
    readyToMove_completes (fun _ _ => true) (by decide)
  exact ⟨x, y, handoff, hReachable, hHandoffs,
    @handoff_keeps_routing x y _ handoff hReachable [] [] hHandoffs committed hResult⟩

/-- The leg of the session that a handoff leaves may be up: it is no longer routable. -/
theorem handoff_cuts_source_off :
    ¬ ∀ x y : Runtime, Transition.Reachable system x → ∀ env earlier later handoff committed,
      x.handoffs = earlier ++ handoff :: later →
      completeCoordinatorHandoff env handoff { x with handoffs := earlier ++ later }
        = (.ok committed, y) →
      ∀ s ∈ y.coordinators, s.call.callId = handoff.token.callId →
        ∀ session leg, s.call.aggregate.legs.lookup session = some leg → leg.leftAtMs = none →
          leg.state ≠ .destroyed → x.Routable handoff.token.callId session →
            y.Routable handoff.token.callId session := by
  intro hRoutable
  obtain ⟨x, handoff, committed, y, hReachable, hHandoffs, hResult, hState⟩ :=
    readyToMove_completes (fun x y =>
      (x.handoffs.all fun handoff => handoff.token.callId = "c")
        && x.manager.sessionCalls.get "session-c-caller" = some "c"
        && x.manager.lookupBySession "session-c-caller" = some "session-c-caller"
        && (x.holders.any fun s => s.call.callId = "c" ∧ s.ownedSessionId = "session-c-caller")
        && (y.manager.lookupBySession "session-c-caller").isNone
        && (y.coordinators.any fun s => s.call.callId = "c" &&
          (s.call.aggregate.legs.lookup "session-c-caller").any (fun leg =>
            leg.leftAtMs.isNone && leg.state ≠ .destroyed))) (by decide)
  simp only [hHandoffs, Bool.and_eq_true, List.all_cons, List.all_nil, Bool.and_true,
    decide_eq_true_eq, List.any_eq_true, Option.any_eq_true, Option.isNone_iff_eq_none] at hState
  obtain ⟨⟨⟨⟨⟨hToken, hListed⟩, hKnown⟩, hHolder⟩, hGone⟩, s, hActor, hCall, leg, hLookup,
    hPresent, hUp⟩ := hState
  have hBefore : x.Routable handoff.token.callId "session-c-caller" := by
    rw [hToken]
    exact ⟨hListed, _, hKnown, .inl hHolder⟩
  obtain ⟨-, mailbox, hStill, -⟩ := hRoutable x y hReachable Coordinator.takingEnv [] [] handoff
    committed hHandoffs hResult s hActor (hCall.trans hToken.symm) "session-c-caller" leg hLookup
    hPresent hUp hBefore
  rw [hGone] at hStill
  cases hStill

end Runtime

end VoipSwitch
