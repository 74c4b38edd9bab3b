import VoipSwitch.Session.Manager

/-! The tables of the session manager agree with each other, whatever is registered,
bound, handed over and torn down. -/
namespace VoipSwitch

open Keyed Stateful

namespace SessionManager

variable {H C : Type} {m m' : SessionManager H C}

/-- What holds between the tables. -/
structure Consistent (m : SessionManager H C) : Prop where
  sameKeys : ∀ s, m.sessions.contains s = m.sessionCalls.contains s
  bound : ∀ leg s, m.legSessions.get leg = some s → m.sessions.contains s = true
  boundOnce : ∀ leg leg' s, m.legSessions.get leg = some s → m.legSessions.get leg' = some s →
    leg = leg'
  pending : ∀ c token, m.pendingCoordinatorHandoffs.get c = some token → token.callId = c ∧
    m.coordinatorIdentity c
      = some { sessionId := token.sourceSessionId, generation := token.sourceGeneration }

/-- What tearing a call down leaves: nothing of the call, all of the others. -/
structure Removed (c : CallId) (m m' : SessionManager H C) : Prop where
  sessions : ∀ s, m.sessionCalls.get s = some c → m'.sessions.get s = none
    ∧ m'.sessionCalls.get s = none ∧ ∀ leg, m'.legSessions.get leg ≠ some s
  tokens : ∀ d token, m'.pendingCoordinatorHandoffs.get d = some token → token.callId ≠ c
  coordinator : m'.callCoordinators.get c = none
  originator : m'.callOriginators.get c = none
  otherSessions : ∀ s, m.sessionCalls.get s ≠ some c → m'.sessions.get s = m.sessions.get s
    ∧ m'.sessionCalls.get s = m.sessionCalls.get s
    ∧ ∀ leg, m.legSessions.get leg = some s ↔ m'.legSessions.get leg = some s
  otherCalls : ∀ d, d ≠ c → m'.callCoordinators.get d = m.callCoordinators.get d
    ∧ m'.callOriginators.get d = m.callOriginators.get d
    ∧ m'.pendingCoordinatorHandoffs.get d = m.pendingCoordinatorHandoffs.get d

theorem Consistent.empty : Consistent (SessionManager.empty : SessionManager H C) where
  sameKeys _ := rfl
  bound _ _ h := by cases h
  boundOnce _ _ _ h := by cases h
  pending _ _ h := by cases h

/-- A session enters both tables at once. -/
theorem contains_insert {κ υ υ' : Type} [LinearOrder κ] {t : Table κ υ} {t' : Table κ υ'}
    (h : ∀ k, t.contains k = t'.contains k) (key : κ) (v : υ) (v' : υ') (k : κ) :
    (t.insert key v).contains k = (t'.insert key v').contains k := by
  have hOld := h k
  rw [Table.contains_eq, Table.contains_eq] at hOld ⊢
  rw [Table.get_insert, Table.get_insert]
  split
  · rfl
  · exact hOld

theorem contains_insert_of_contains {κ υ : Type} [LinearOrder κ] {t : Table κ υ} {k : κ}
    (h : t.contains k = true) (key : κ) (v : υ) : (t.insert key v).contains k = true := by
  rw [Table.contains_eq, Table.get_insert]
  split
  · rfl
  · exact h

theorem Consistent.registerCallee (h : Consistent m) (s : SessionId) (c : CallId) (handle : H) :
    Consistent (m.registerCallee s c handle) where
  sameKeys := contains_insert h.sameKeys s handle c
  bound leg owner hBound := contains_insert_of_contains (h.bound leg owner hBound) s handle
  boundOnce := h.boundOnce
  pending := h.pending

/-- Writing the binding of a session that has none keeps every session's binding unique. -/
theorem boundOnce_insert {legs : Table AdapterCallLegId SessionId} {s : SessionId}
    {leg : AdapterCallLegId}
    (hOnce : ∀ leg leg' s, legs.get leg = some s → legs.get leg' = some s → leg = leg')
    (hFree : ∀ leg, legs.get leg ≠ some s) (leg₁ leg₂ : AdapterCallLegId) (owner : SessionId)
    (h₁ : (legs.insert leg s).get leg₁ = some owner)
    (h₂ : (legs.insert leg s).get leg₂ = some owner) : leg₁ = leg₂ := by
  rw [Table.get_insert] at h₁ h₂
  split at h₁
  · next hFirst =>
      obtain rfl := Option.some.inj h₁
      split at h₂
      · next hSecond => exact hFirst.symm.trans hSecond
      · exact (hFree _ h₂).elim
  · split at h₂
    · obtain rfl := Option.some.inj h₂
      exact (hFree _ h₁).elim
    · exact hOnce _ _ _ h₁ h₂

theorem Consistent.registerCaller (h : Consistent m) {s : SessionId} {c : CallId}
    (leg : AdapterCallLegId) (handle : H) (coordinator : C)
    (hSession : m.sessions.contains s = false) (hCall : m.callCoordinators.contains c = false) :
    Consistent (m.registerCaller s c leg handle coordinator) where
  sameKeys := contains_insert h.sameKeys s handle c
  bound leg' owner hBound := by
    simp only [SessionManager.registerCaller, Table.get_insert] at hBound
    split at hBound
    · obtain rfl := Option.some.inj hBound
      rw [SessionManager.registerCaller, Table.contains_eq, Table.get_insert_self]
      rfl
    · exact contains_insert_of_contains (h.bound leg' owner hBound) s handle
  boundOnce := by
    apply boundOnce_insert h.boundOnce
    intro leg' hBound
    have hContains := h.bound leg' s hBound
    rw [hSession] at hContains
    cases hContains
  pending d token hPending := by
    obtain ⟨hSame, hSource⟩ := h.pending d token hPending
    have hOther : c ≠ d := by
      intro hEq
      rw [coordinatorIdentity, ← hEq, Table.not_contains_iff.mp hCall] at hSource
      cases hSource
    refine ⟨hSame, ?_⟩
    rw [coordinatorIdentity, SessionManager.registerCaller, Table.get_insert_of_ne hOther]
    exact hSource

theorem Consistent.bindAdapterLeg (h : Consistent m) (s : SessionId) (leg : AdapterCallLegId) :
    Consistent (m.bindAdapterLeg s leg).2 := by
  rw [SessionManager.bindAdapterLeg]
  split
  · exact h
  · next hKnown =>
      have hKnown : m.sessions.contains s = true := not_not.mp hKnown
      refine { h with bound := ?_, boundOnce := ?_ }
      · intro leg' owner hBound
        rw [Table.get_insert] at hBound
        split at hBound
        · obtain rfl := Option.some.inj hBound
          exact hKnown
        · exact h.bound leg' owner (Table.get_retain_eq_some.mp hBound).1
      · apply boundOnce_insert
        · intro leg₁ leg₂ owner h₁ h₂
          exact h.boundOnce leg₁ leg₂ owner (Table.get_retain_eq_some.mp h₁).1
            (Table.get_retain_eq_some.mp h₂).1
        · intro leg' hBound
          have hOther := of_decide_eq_true (Table.get_retain_eq_some.mp hBound).2
          exact hOther rfl

theorem Consistent.unregisterSession (h : Consistent m) (s : SessionId) :
    Consistent (m.unregisterSession s) where
  sameKeys s' := by
    have hOld := h.sameKeys s'
    rw [Table.contains_eq, Table.contains_eq] at hOld ⊢
    rw [SessionManager.unregisterSession, Table.get_remove, Table.get_remove]
    split
    · rfl
    · exact hOld
  bound leg owner hBound := by
    obtain ⟨hOld, hOther⟩ := Table.get_retain_eq_some.mp hBound
    have hNe : owner ≠ s := of_decide_eq_true hOther
    rw [SessionManager.unregisterSession, Table.contains_eq, Table.get_remove_of_ne hNe.symm]
    exact h.bound leg owner hOld
  boundOnce leg leg' owner h₁ h₂ :=
    h.boundOnce leg leg' owner (Table.get_retain_eq_some.mp h₁).1 (Table.get_retain_eq_some.mp h₂).1
  pending c token hPending := h.pending c token (Table.get_retain_eq_some.mp hPending).1

theorem Consistent.prepare (h : Consistent m) (c : CallId) (source target : SessionId)
    (generation : Nat) :
    Consistent ((prepareCoordinatorHandoff c source generation target).final () m) := by
  refine (prepareCoordinatorHandoff_post.mono ?_ ?_).final
  · rintro token next ⟨rfl, _, hSource, _, _, _, rfl⟩
    refine { h with pending := ?_ }
    intro d token hPending
    rw [Table.get_insert] at hPending
    split at hPending
    · next hSame =>
        obtain rfl := Option.some.inj hPending
        exact ⟨hSame, hSame ▸ hSource⟩
    · exact h.pending d token hPending
  · intro next hSame
    exact hSame ▸ h

/-- Registrations of a call without a pending token may change freely. -/
theorem Consistent.reassign (h : Consistent m) {c : CallId}
    (registration : CoordinatorRegistration C) (owner : CoordinatorIdentity)
    (tokens : Table CallId CoordinatorHandoffToken) (hFree : tokens.get c = none)
    (hTokens : ∀ d token, tokens.get d = some token →
      m.pendingCoordinatorHandoffs.get d = some token) :
    Consistent { m with
      callCoordinators := m.reassigned registration c owner
      pendingCoordinatorHandoffs := tokens } where
  sameKeys := h.sameKeys
  bound := h.bound
  boundOnce := h.boundOnce
  pending d token hPending := by
    have hOther : c ≠ d := by
      rintro rfl
      rw [hFree] at hPending
      cases hPending
    obtain ⟨hSame, hSource⟩ := h.pending d token (hTokens d token hPending)
    refine ⟨hSame, ?_⟩
    rw [coordinatorIdentity, reassigned, Table.get_insert_of_ne hOther]
    exact hSource

theorem pending_of_remove {tokens : Table CallId CoordinatorHandoffToken} {c d : CallId}
    {token : CoordinatorHandoffToken} (h : (tokens.remove c).get d = some token) :
    tokens.get d = some token :=
  (Table.get_retain_eq_some.mp h).1

theorem Consistent.commit (h : Consistent m) (token : CoordinatorHandoffToken) :
    Consistent ((commitCoordinatorHandoff token).final () m) := by
  refine (commitCoordinatorHandoff_post.mono ?_ ?_).final
  · rintro identity next ⟨_, _, _, registration, _, _, rfl⟩
    exact h.reassign registration identity _ Table.get_remove_self fun d token hPending =>
      pending_of_remove hPending
  · intro next hSame
    exact hSame ▸ h

theorem Consistent.rollback (h : Consistent m) (token : CoordinatorHandoffToken) :
    Consistent ((rollbackCommittedCoordinatorHandoff token).final () m) := by
  refine (rollbackCommittedCoordinatorHandoff_post.mono ?_ ?_).final
  · rintro identity next ⟨_, hFree, _, registration, _, _, rfl⟩
    exact h.reassign registration identity _ hFree fun d token hPending => hPending
  · intro next hSame
    exact hSame ▸ h

theorem Consistent.abort (h : Consistent m) (token : CoordinatorHandoffToken) :
    Consistent ((abortCoordinatorHandoff token).final () m) := by
  refine (abortCoordinatorHandoff_post.mono ?_ ?_).final
  · rintro _ next ⟨_, rfl⟩
    exact { h with
      pending := fun d token hPending => h.pending d token (pending_of_remove hPending) }
  · intro next hSame
    exact hSame ▸ h

theorem destroyCall_sessions {c : CallId} {s : SessionId} (h : m.sessionCalls.get s = some c) :
    (m.destroyCall c).sessions.get s = none ∧ (m.destroyCall c).sessionCalls.get s = none := by
  have hListed : s ∈ m.sessionsOf c := mem_sessionsOf.mpr h
  simp [destroyCall, Table.get_retain, hListed]

theorem destroyCall_otherSessions {c : CallId} {s : SessionId}
    (h : m.sessionCalls.get s ≠ some c) :
    (m.destroyCall c).sessions.get s = m.sessions.get s
    ∧ (m.destroyCall c).sessionCalls.get s = m.sessionCalls.get s := by
  have hListed : s ∉ m.sessionsOf c := fun hMem => h (mem_sessionsOf.mp hMem)
  constructor
  · cases hSession : m.sessions.get s <;> simp [destroyCall, Table.get_retain, hSession, hListed]
  · cases hCall : m.sessionCalls.get s <;> simp [destroyCall, Table.get_retain, hCall, hListed]

theorem destroyCall_legSessions {c : CallId} {leg : AdapterCallLegId} {s : SessionId} :
    (m.destroyCall c).legSessions.get leg = some s ↔
      m.legSessions.get leg = some s ∧ m.sessionCalls.get s ≠ some c := by
  rw [destroyCall, Table.get_retain_eq_some, decide_eq_true_iff, List.contains_iff_mem,
    mem_sessionsOf]

theorem Consistent.destroyCall (h : Consistent m) (c : CallId) :
    Consistent (m.destroyCall c) where
  sameKeys s := by
    rw [Table.contains_eq, Table.contains_eq]
    by_cases hOwned : m.sessionCalls.get s = some c
    · rw [(destroyCall_sessions hOwned).1, (destroyCall_sessions hOwned).2]
      rfl
    · rw [(destroyCall_otherSessions hOwned).1, (destroyCall_otherSessions hOwned).2]
      exact h.sameKeys s
  bound leg s hBound := by
    obtain ⟨hOld, hOwned⟩ := destroyCall_legSessions.mp hBound
    rw [Table.contains_eq, (destroyCall_otherSessions hOwned).1]
    exact h.bound leg s hOld
  boundOnce leg leg' s h₁ h₂ :=
    h.boundOnce leg leg' s (destroyCall_legSessions.mp h₁).1 (destroyCall_legSessions.mp h₂).1
  pending d token hPending := by
    have hOther : c ≠ d := by
      rintro rfl
      rw [SessionManager.destroyCall, Table.get_remove_self] at hPending
      cases hPending
    obtain ⟨hSame, hSource⟩ := h.pending d token (pending_of_remove hPending)
    refine ⟨hSame, ?_⟩
    rw [coordinatorIdentity, SessionManager.destroyCall, Table.get_remove_of_ne hOther]
    exact hSource

theorem Consistent.removed (h : Consistent m) (c : CallId) : Removed c m (m.destroyCall c) where
  sessions s hOwned := by
    refine ⟨(destroyCall_sessions hOwned).1, (destroyCall_sessions hOwned).2, ?_⟩
    intro leg hBound
    exact (destroyCall_legSessions.mp hBound).2 hOwned
  tokens d token hPending := by
    have hSame := (h.destroyCall c).pending d token hPending
    rintro rfl
    rw [hSame.1, SessionManager.destroyCall, Table.get_remove_self] at hPending
    cases hPending
  coordinator := Table.get_remove_self
  originator := Table.get_remove_self
  otherSessions s hOwned := by
    obtain ⟨hSession, hCall⟩ := destroyCall_otherSessions hOwned
    refine ⟨hSession, hCall, ?_⟩
    intro leg
    rw [destroyCall_legSessions]
    exact (and_iff_left hOwned).symm
  otherCalls d hOther :=
    ⟨Table.get_remove_of_ne hOther.symm, Table.get_remove_of_ne hOther.symm,
      Table.get_remove_of_ne hOther.symm⟩

/-- One request keeps the tables in agreement. -/
theorem Consistent.perform (h : Consistent m) {request : Request H C}
    (hFresh : m.fresh request = true) : Consistent (m.perform request) := by
  cases request with
  | registerCaller s c leg handle coordinator =>
      simp only [fresh, Bool.and_eq_true, Bool.not_eq_true'] at hFresh
      exact h.registerCaller leg handle coordinator hFresh.1 hFresh.2
  | registerCallee s c handle => exact h.registerCallee s c handle
  | bindAdapterLeg s leg => exact h.bindAdapterLeg s leg
  | unregisterSession s => exact h.unregisterSession s
  | prepare c source generation target => exact h.prepare c source target generation
  | commit token => exact h.commit token
  | abort token => exact h.abort token
  | rollback token => exact h.rollback token
  | destroyCall c => exact h.destroyCall c

theorem Consistent.of_reachable (h : Transition.Reachable (system H C) m) : Consistent m := by
  apply h.invariant
  · rintro _ rfl
    exact .empty
  · rintro m request _ hConsistent ⟨hFresh, rfl⟩
    exact hConsistent.perform hFresh

/-- The tables of a session manager agree after every sequence of requests, and tearing a
call down removes exactly what belongs to it. -/
theorem index_consistent (h : Transition.Reachable (system H C) m) :
    Consistent m ∧ ∀ c, Removed c m (m.destroyCall c) := by
  have hConsistent := Consistent.of_reachable h
  exact ⟨hConsistent, hConsistent.removed⟩

/-- Requests that each find their ids unused lead to a reachable manager. -/
def followAll (requests : List (Request H C)) : Option (SessionManager H C) :=
  Transition.follow fresh perform requests empty

theorem reachable_of_followAll {requests : List (Request H C)}
    (h : followAll requests = some m) : Transition.Reachable (system H C) m :=
  ⟨empty, rfl, Transition.follow_runsWithin (fun _ _ hFresh => ⟨trivial, hFresh, rfl⟩) h⟩

/-- Two calls, a handoff under way in the first of them. -/
def twoCalls : List (Request Unit Unit) :=
  [.registerCaller "caller-a" "call-a" "leg-a" () (), .registerCallee "callee-a" "call-a" (),
    .bindAdapterLeg "callee-a" "leg-b", .registerCaller "caller-b" "call-b" "leg-c" () (),
    .prepare "call-a" "caller-a" 1 "callee-a"]

theorem index_consistent_twoCalls :
    ∃ m, followAll twoCalls = some m ∧ Consistent m ∧ ∀ c, Removed c m (m.destroyCall c) := by
  have hRun : (followAll twoCalls).isSome = true := by decide
  obtain ⟨m, hm⟩ := Option.isSome_iff_exists.mp hRun
  exact ⟨m, hm, index_consistent (reachable_of_followAll hm)⟩

end SessionManager

end VoipSwitch
