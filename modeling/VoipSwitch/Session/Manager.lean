import VoipSwitch.Call.Event
import VoipSwitch.Lib.Proc
import VoipSwitch.Lib.Table
import VoipSwitch.Lib.Transition

/-! The index of the running session actors: which session belongs to which call, which
session owns a call's coordinator, and which session an adapter leg is routed to. -/
namespace VoipSwitch

open Keyed Stateful

/-- The owner of a call's coordinator, and the way to its mailboxes. -/
structure CoordinatorRegistration (C : Type) where
  sessionId : SessionId
  generation : Nat
  handle : C
deriving DecidableEq

def CoordinatorRegistration.identity {C : Type} (registration : CoordinatorRegistration C) :
    CoordinatorIdentity where
  sessionId := registration.sessionId
  generation := registration.generation

inductive CoordinatorHandoffError where
  | callNotFound
  | handoffInProgress
  | staleOwner
  | invalidTarget
  | generationExhausted
  | tokenMismatch
deriving DecidableEq

/-- Session handles `H` and coordinator handles `C` are senders of mailboxes; the manager
stores them and hands them out. -/
structure SessionManager (H C : Type) where
  sessions : Table SessionId H
  sessionCalls : Table SessionId CallId
  callOriginators : Table CallId SessionId
  callCoordinators : Table CallId (CoordinatorRegistration C)
  pendingCoordinatorHandoffs : Table CallId CoordinatorHandoffToken
  legSessions : Table AdapterCallLegId SessionId
deriving DecidableEq

namespace SessionManager

variable {H C : Type}

abbrev Op (H C α : Type) : Type := Proc Unit (SessionManager H C) CoordinatorHandoffError α

def empty : SessionManager H C where
  sessions := .empty
  sessionCalls := .empty
  callOriginators := .empty
  callCoordinators := .empty
  pendingCoordinatorHandoffs := .empty
  legSessions := .empty

def registerCaller (sessionId : SessionId) (callId : CallId) (adapterCallLegId : AdapterCallLegId)
    (handle : H) (coordinator : C) (m : SessionManager H C) : SessionManager H C :=
  { m with
    sessions := m.sessions.insert sessionId handle
    sessionCalls := m.sessionCalls.insert sessionId callId
    callOriginators := m.callOriginators.insert callId sessionId
    callCoordinators := m.callCoordinators.insert callId
      { sessionId, generation := 1, handle := coordinator }
    legSessions := m.legSessions.insert adapterCallLegId sessionId }

def registerCallee (sessionId : SessionId) (callId : CallId) (handle : H)
    (m : SessionManager H C) : SessionManager H C :=
  { m with
    sessions := m.sessions.insert sessionId handle
    sessionCalls := m.sessionCalls.insert sessionId callId }

/-- Whether the session is known, and the manager after it. -/
def bindAdapterLeg (sessionId : SessionId) (adapterCallLegId : AdapterCallLegId)
    (m : SessionManager H C) : Bool × SessionManager H C :=
  if ¬ m.sessions.contains sessionId then (false, m)
  else
    (true, { m with
      legSessions := (m.legSessions.retain fun _ candidate => candidate ≠ sessionId).insert
        adapterCallLegId sessionId })

def unregisterSession (sessionId : SessionId) (m : SessionManager H C) : SessionManager H C :=
  { m with
    pendingCoordinatorHandoffs := m.pendingCoordinatorHandoffs.retain fun _ handoff =>
      handoff.sourceSessionId ≠ sessionId ∧ handoff.targetSessionId ≠ sessionId
    sessionCalls := m.sessionCalls.remove sessionId
    legSessions := m.legSessions.retain fun _ candidate => candidate ≠ sessionId
    sessions := m.sessions.remove sessionId }

def coordinatorSession (m : SessionManager H C) (callId : CallId) : Option SessionId :=
  (m.callCoordinators.get callId).map (·.sessionId)

def coordinatorIdentity (m : SessionManager H C) (callId : CallId) : Option CoordinatorIdentity :=
  (m.callCoordinators.get callId).map (·.identity)

/-- The coordinator's handle, as long as its mailbox is open. -/
def coordinatorHandle (m : SessionManager H C) (isClosed : C → Bool) (callId : CallId) : Option C :=
  ((m.callCoordinators.get callId).filter fun registration => !isClosed registration.handle).map
    (·.handle)

/-- A registered session of the call. -/
def isMember (m : SessionManager H C) (sessionId : SessionId) (callId : CallId) : Bool :=
  m.sessions.contains sessionId && m.sessionCalls.get sessionId = some callId

def prepareCoordinatorHandoff (callId : CallId) (sourceSessionId : SessionId)
    (sourceGeneration : Nat) (targetSessionId : SessionId) : Op H C CoordinatorHandoffToken := do
  let m ← Proc.get
  if m.pendingCoordinatorHandoffs.contains callId then Proc.fail .handoffInProgress
  else
    match m.callCoordinators.get callId with
    | none => Proc.fail .callNotFound
    | some registration =>
      if registration.sessionId ≠ sourceSessionId ∨ registration.generation ≠ sourceGeneration then
        Proc.fail .staleOwner
      else if targetSessionId = sourceSessionId ∨ ¬ m.isMember targetSessionId callId then
        Proc.fail .invalidTarget
      else if u64Max ≤ sourceGeneration then Proc.fail .generationExhausted
      else do
        let token : CoordinatorHandoffToken :=
          { callId, sourceSessionId, targetSessionId, sourceGeneration
            targetGeneration := sourceGeneration + 1 }
        Proc.modify fun m =>
          { m with pendingCoordinatorHandoffs := m.pendingCoordinatorHandoffs.insert callId token }
        pure token

def commitCoordinatorHandoff (token : CoordinatorHandoffToken) : Op H C CoordinatorIdentity := do
  let m ← Proc.get
  if m.pendingCoordinatorHandoffs.get token.callId ≠ some token then Proc.fail .tokenMismatch
  else
    match m.callCoordinators.get token.callId with
    | none => Proc.fail .callNotFound
    | some registration =>
      if registration.sessionId ≠ token.sourceSessionId
          ∨ registration.generation ≠ token.sourceGeneration then Proc.fail .staleOwner
      else if ¬ m.isMember token.targetSessionId token.callId then Proc.fail .invalidTarget
      else do
        Proc.modify fun m =>
          { m with
            callCoordinators := m.callCoordinators.insert token.callId
              { registration with
                sessionId := token.targetSessionId, generation := token.targetGeneration }
            pendingCoordinatorHandoffs := m.pendingCoordinatorHandoffs.remove token.callId }
        pure { sessionId := token.targetSessionId, generation := token.targetGeneration }

def abortCoordinatorHandoff (token : CoordinatorHandoffToken) : Op H C Unit := do
  let m ← Proc.get
  if m.pendingCoordinatorHandoffs.get token.callId ≠ some token then Proc.fail .tokenMismatch
  else
    Proc.modify fun m =>
      { m with pendingCoordinatorHandoffs := m.pendingCoordinatorHandoffs.remove token.callId }

def rollbackCommittedCoordinatorHandoff (token : CoordinatorHandoffToken) :
    Op H C CoordinatorIdentity := do
  let m ← Proc.get
  if m.pendingCoordinatorHandoffs.contains token.callId then Proc.fail .handoffInProgress
  else
    match m.callCoordinators.get token.callId with
    | none => Proc.fail .callNotFound
    | some registration =>
      if registration.sessionId ≠ token.targetSessionId
          ∨ registration.generation ≠ token.targetGeneration then Proc.fail .staleOwner
      else if ¬ m.isMember token.sourceSessionId token.callId then Proc.fail .invalidTarget
      else do
        Proc.modify fun m =>
          { m with
            callCoordinators := m.callCoordinators.insert token.callId
              { registration with
                sessionId := token.sourceSessionId, generation := token.sourceGeneration } }
        pure { sessionId := token.sourceSessionId, generation := token.sourceGeneration }

/-- The first session of the call that is not its coordinator, in the order in which the
session table happens to be walked. -/
def peerSession (m : SessionManager H C) (walk : List (SessionId × CallId)) (callId : CallId) :
    Option SessionId :=
  (walk.find? fun entry =>
    entry.2 = callId ∧ m.coordinatorSession callId ≠ some entry.1).map Prod.fst

def sessionsOf (m : SessionManager H C) (callId : CallId) : List SessionId :=
  (m.sessionCalls.entries.filter fun entry => entry.2 = callId).map Prod.fst

def destroyCall (callId : CallId) (m : SessionManager H C) : SessionManager H C :=
  let sessionIds := m.sessionsOf callId
  { sessions := m.sessions.retain fun sessionId _ => ¬ sessionIds.contains sessionId
    sessionCalls := m.sessionCalls.retain fun sessionId _ => ¬ sessionIds.contains sessionId
    callOriginators := m.callOriginators.remove callId
    callCoordinators := m.callCoordinators.remove callId
    pendingCoordinatorHandoffs := m.pendingCoordinatorHandoffs.remove callId
    legSessions := m.legSessions.retain fun _ sessionId => ¬ sessionIds.contains sessionId }

def lookupBySession (m : SessionManager H C) (sessionId : SessionId) : Option H :=
  m.sessions.get sessionId

def lookupByAdapterLeg (m : SessionManager H C) (adapterCallLegId : AdapterCallLegId) :
    Option SessionId :=
  m.legSessions.get adapterCallLegId

/-- The calls that change the manager. -/
inductive Request (H C : Type) where
  | registerCaller (sessionId : SessionId) (callId : CallId) (adapterCallLegId : AdapterCallLegId)
      (handle : H) (coordinator : C)
  | registerCallee (sessionId : SessionId) (callId : CallId) (handle : H)
  | bindAdapterLeg (sessionId : SessionId) (adapterCallLegId : AdapterCallLegId)
  | unregisterSession (sessionId : SessionId)
  | prepare (callId : CallId) (sourceSessionId : SessionId) (sourceGeneration : Nat)
      (targetSessionId : SessionId)
  | commit (token : CoordinatorHandoffToken)
  | abort (token : CoordinatorHandoffToken)
  | rollback (token : CoordinatorHandoffToken)
  | destroyCall (callId : CallId)

def perform (m : SessionManager H C) : Request H C → SessionManager H C
  | .registerCaller sessionId callId leg handle coordinator =>
    m.registerCaller sessionId callId leg handle coordinator
  | .registerCallee sessionId callId handle => m.registerCallee sessionId callId handle
  | .bindAdapterLeg sessionId leg => (m.bindAdapterLeg sessionId leg).2
  | .unregisterSession sessionId => m.unregisterSession sessionId
  | .prepare callId source generation target =>
    (prepareCoordinatorHandoff callId source generation target).final () m
  | .commit token => (commitCoordinatorHandoff token).final () m
  | .abort token => (abortCoordinatorHandoff token).final () m
  | .rollback token => (rollbackCommittedCoordinatorHandoff token).final () m
  | .destroyCall callId => m.destroyCall callId

/-- Sessions are registered under ids, and calls under call ids, that are not in use. -/
def fresh (m : SessionManager H C) : Request H C → Bool
  | .registerCaller sessionId callId _ _ _ =>
    !m.sessions.contains sessionId && !m.callCoordinators.contains callId
  | .registerCallee sessionId _ _ => !m.sessions.contains sessionId
  | _ => true

/-- The manager as a transition system, one request after the other. -/
def system (H C : Type) : Transition.System (SessionManager H C) (Request H C) where
  init m := m = empty
  next m request m' := m.fresh request = true ∧ m' = m.perform request

/-! What each request that may be refused does; a refusal changes nothing. -/

variable {m : SessionManager H C} {token : CoordinatorHandoffToken}

theorem isMember_iff {sessionId : SessionId} {callId : CallId} :
    m.isMember sessionId callId = true ↔
      m.sessions.contains sessionId = true ∧ m.sessionCalls.get sessionId = some callId := by
  simp [isMember]

/-- A token is issued to the registered owner only, and for one generation further. -/
theorem prepareCoordinatorHandoff_post {callId : CallId} {source target : SessionId}
    {generation : Nat} :
    Proc.Post (prepareCoordinatorHandoff callId source generation target) () m
      (fun token next =>
        token = { callId, sourceSessionId := source, targetSessionId := target,
                  sourceGeneration := generation, targetGeneration := generation + 1 }
        ∧ m.pendingCoordinatorHandoffs.get callId = none
        ∧ m.coordinatorIdentity callId = some { sessionId := source, generation }
        ∧ target ≠ source ∧ m.isMember target callId = true ∧ generation < u64Max
        ∧ next = { m with
            pendingCoordinatorHandoffs := m.pendingCoordinatorHandoffs.insert callId token })
      fun next => next = m := by
  unfold prepareCoordinatorHandoff
  simp only [Proc.post_bind, Proc.post_get, Proc.post_ite]
  split
  · rfl
  · next hFree =>
      cases hOwner : m.callCoordinators.get callId with
      | none => rfl
      | some registration =>
          simp only [Proc.post_ite]
          split
          · rfl
          · next hIdentity =>
              split
              · rfl
              · next hTarget =>
                  split
                  · rfl
                  · next hRoom =>
                      simp only [not_or, not_not] at hIdentity hTarget
                      have hNone := Table.not_contains_iff.mp (Bool.eq_false_iff.mpr hFree)
                      refine ⟨rfl, hNone, ?_, hTarget.1, hTarget.2, Nat.lt_of_not_le hRoom, rfl⟩
                      rw [coordinatorIdentity, hOwner, Option.map_some,
                        CoordinatorRegistration.identity, hIdentity.1, hIdentity.2]

/-- The registration that a commit or a rollback leaves behind. -/
def reassigned (m : SessionManager H C) (registration : CoordinatorRegistration C)
    (callId : CallId) (owner : CoordinatorIdentity) : Table CallId (CoordinatorRegistration C) :=
  m.callCoordinators.insert callId
    { registration with sessionId := owner.sessionId, generation := owner.generation }

/-- A commit moves the registration from the token's source to its target. -/
theorem commitCoordinatorHandoff_post :
    Proc.Post (commitCoordinatorHandoff token) () m
      (fun identity next =>
        identity = { sessionId := token.targetSessionId, generation := token.targetGeneration }
        ∧ m.pendingCoordinatorHandoffs.get token.callId = some token
        ∧ m.isMember token.targetSessionId token.callId = true
        ∧ ∃ registration, m.callCoordinators.get token.callId = some registration
          ∧ registration.identity
            = { sessionId := token.sourceSessionId, generation := token.sourceGeneration }
          ∧ next = { m with
              callCoordinators := m.reassigned registration token.callId identity
              pendingCoordinatorHandoffs := m.pendingCoordinatorHandoffs.remove token.callId })
      fun next => next = m := by
  unfold commitCoordinatorHandoff
  simp only [Proc.post_bind, Proc.post_get, Proc.post_ite]
  split
  · rfl
  · next hPending =>
      cases hOwner : m.callCoordinators.get token.callId with
      | none => rfl
      | some registration =>
          simp only [Proc.post_ite]
          split
          · rfl
          · next hIdentity =>
              split
              · rfl
              · next hTarget =>
                  simp only [not_or, not_not] at hPending hIdentity hTarget
                  refine ⟨rfl, hPending, hTarget, registration, rfl, ?_, rfl⟩
                  rw [CoordinatorRegistration.identity, hIdentity.1, hIdentity.2]

theorem abortCoordinatorHandoff_post :
    Proc.Post (abortCoordinatorHandoff token) () m
      (fun _ next =>
        m.pendingCoordinatorHandoffs.get token.callId = some token
        ∧ next = { m with
            pendingCoordinatorHandoffs := m.pendingCoordinatorHandoffs.remove token.callId })
      fun next => next = m := by
  unfold abortCoordinatorHandoff
  simp only [Proc.post_bind, Proc.post_get, Proc.post_ite]
  split
  · rfl
  · next hPending => exact ⟨not_not.mp hPending, rfl⟩

/-- A rollback moves the registration back from the token's target to its source. -/
theorem rollbackCommittedCoordinatorHandoff_post :
    Proc.Post (rollbackCommittedCoordinatorHandoff token) () m
      (fun identity next =>
        identity = { sessionId := token.sourceSessionId, generation := token.sourceGeneration }
        ∧ m.pendingCoordinatorHandoffs.get token.callId = none
        ∧ m.isMember token.sourceSessionId token.callId = true
        ∧ ∃ registration, m.callCoordinators.get token.callId = some registration
          ∧ registration.identity
            = { sessionId := token.targetSessionId, generation := token.targetGeneration }
          ∧ next = { m with
              callCoordinators := m.reassigned registration token.callId identity })
      fun next => next = m := by
  unfold rollbackCommittedCoordinatorHandoff
  simp only [Proc.post_bind, Proc.post_get, Proc.post_ite]
  split
  · rfl
  · next hFree =>
      cases hOwner : m.callCoordinators.get token.callId with
      | none => rfl
      | some registration =>
          simp only [Proc.post_ite]
          split
          · rfl
          · next hIdentity =>
              split
              · rfl
              · next hSource =>
                  simp only [not_or, not_not] at hIdentity hSource
                  have hNone := Table.not_contains_iff.mp (Bool.eq_false_iff.mpr hFree)
                  refine ⟨rfl, hNone, hSource, registration, rfl, ?_, rfl⟩
                  rw [CoordinatorRegistration.identity, hIdentity.1, hIdentity.2]

theorem mem_sessionsOf {callId : CallId} {sessionId : SessionId} :
    sessionId ∈ m.sessionsOf callId ↔ m.sessionCalls.get sessionId = some callId := by
  rw [sessionsOf, ← Table.mem_entries]
  constructor
  · intro hMem
    obtain ⟨⟨owned, ofCall⟩, hFiltered, rfl⟩ := List.mem_map.mp hMem
    obtain ⟨hEntry, hCall⟩ := List.mem_filter.mp hFiltered
    have hSame : ofCall = callId := of_decide_eq_true hCall
    exact hSame ▸ hEntry
  · intro hEntry
    exact List.mem_map_of_mem (List.mem_filter.mpr ⟨hEntry, decide_eq_true rfl⟩)

end SessionManager

end VoipSwitch
