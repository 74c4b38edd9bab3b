import VoipSwitch.Lib.Transition
import Mathlib.Logic.Function.Basic

/-! Clients that change a store and then publish what they read of it. A reading takes several
steps, and nothing keeps others from changing the store before it is published. -/
namespace Publishing

open Transition

variable {σ ρ κ τ ω : Type}

/-- How a store is read part by part. What was read so far may hold of a store or not; a reading
that holds to its end is a view of the store. -/
structure Reader (σ ρ κ ω : Type) where
  view : σ → ω
  start : ρ
  read : σ → ρ → ρ ⊕ κ
  observe : κ → ω
  Holds : σ → ρ → Prop
  holds_start : ∀ store, Holds store start
  holds_read : ∀ {store p q}, Holds store p → read store p = .inl q → Holds store q
  observe_read : ∀ {store p k}, Holds store p → read store p = .inr k → observe k = view store

namespace Reader

variable {α β ε : Type}

/-- Queries are asked one after the other, up to the first that fails. -/
def sequence (queries : List (σ → Except ε α)) (finish : List α → β) :
    Reader σ (List α × List (σ → Except ε α)) (Except ε β) (Except ε β) where
  view store := Except.map finish (queries.mapM fun query => query store)
  start := ([], queries)
  read store p :=
    match p with
    | (answers, []) => .inr (.ok (finish answers))
    | (answers, query :: rest) =>
        match query store with
        | .ok answer => .inl (answers ++ [answer], rest)
        | .error error => .inr (.error error)
  observe result := result
  Holds store p := ∃ asked, queries = asked ++ p.2 ∧ (asked.mapM fun query => query store) = .ok p.1
  holds_start _ := ⟨[], rfl, rfl⟩
  holds_read := by
    rintro store ⟨answers, rest⟩ q ⟨asked, hQueries, hAnswers⟩ hRead
    cases rest with
    | nil => cases hRead
    | cons query rest =>
        simp only at hRead
        split at hRead
        · next answer hAnswer =>
            obtain rfl := Sum.inl.inj hRead
            refine ⟨asked ++ [query], ?_, ?_⟩
            · rw [hQueries, List.append_assoc, List.singleton_append]
            · rw [List.mapM_append, hAnswers, List.mapM_cons, hAnswer, List.mapM_nil]
              rfl
        · cases hRead
  observe_read := by
    rintro store ⟨answers, rest⟩ k ⟨asked, hQueries, hAnswers⟩ hRead
    cases rest with
    | nil =>
        rw [List.append_nil] at hQueries
        rw [← Sum.inr.inj hRead, hQueries, hAnswers]
        rfl
    | cons query rest =>
        simp only at hRead
        split at hRead
        · cases hRead
        · next error hError =>
            rw [← Sum.inr.inj hRead, hQueries, List.mapM_append, hAnswers, List.mapM_cons, hError]
            rfl

end Reader

/-- How a reading is published. -/
structure Protocol (σ ρ κ τ ω : Type) extends Reader σ ρ κ ω where
  publish : κ → τ → τ
  shows : τ → ω
  shows_publish : ∀ k t, shows (publish k t) = observe k

/-- What a client is about to do. -/
inductive Phase (ρ κ : Type) where
  | idle
  | writing
  | reading (p : ρ)
  | publishing (k : κ)

structure World (σ ρ κ τ : Type) where
  store : σ
  published : τ
  clients : Nat → Phase ρ κ

inductive Action (σ : Type) where
  | start (client : Nat)
  | write (client : Nat) (change : σ → σ)
  | reload (client : Nat)
  | read (client : Nat)
  | publish (client : Nat)
  /-- The command ends with an error, and publishes nothing. -/
  | fail (client : Nat)

variable {P : Protocol σ ρ κ τ ω} {w v : World σ ρ κ τ} {action : Action σ}

def World.to (w : World σ ρ κ τ) (client : Nat) (phase : Phase ρ κ) : World σ ρ κ τ :=
  { w with clients := Function.update w.clients client phase }

namespace Protocol

def step (P : Protocol σ ρ κ τ ω) (w : World σ ρ κ τ) : Action σ → Option (World σ ρ κ τ)
  | .start client =>
      match w.clients client with
      | .idle => some (w.to client .writing)
      | _ => none
  | .write client change =>
      match w.clients client with
      | .writing => some { w with store := change w.store }
      | _ => none
  | .reload client =>
      match w.clients client with
      | .writing => some (w.to client (.reading P.start))
      | _ => none
  | .read client =>
      match w.clients client with
      | .reading p =>
          match P.read w.store p with
          | .inl q => some (w.to client (.reading q))
          | .inr k => some (w.to client (.publishing k))
      | _ => none
  | .publish client =>
      match w.clients client with
      | .publishing k => some { w.to client .idle with published := P.publish k w.published }
      | _ => none
  | .fail client =>
      match w.clients client with
      | .writing | .reading _ => some (w.to client .idle)
      | _ => none

/-- What is published is what the store has. -/
def UpToDate (P : Protocol σ ρ κ τ ω) (w : World σ ρ κ τ) : Prop :=
  P.shows w.published = P.view w.store

/-- The client is going to read the store, or has read what still holds. -/
def Informed (P : Protocol σ ρ κ τ ω) (w : World σ ρ κ τ) (client : Nat) : Prop :=
  match w.clients client with
  | .idle => False
  | .writing => True
  | .reading p => P.Holds w.store p
  | .publishing k => P.observe k = P.view w.store

/-- What is published is up to date, or a client will see to that. -/
def Attended (P : Protocol σ ρ κ τ ω) (w : World σ ρ κ τ) : Prop :=
  P.UpToDate w ∨ ∃ client, P.Informed w client

/-- A client that publishes an old reading, or none at all, leaves it to another one. -/
def Careful (P : Protocol σ ρ κ τ ω) (w : World σ ρ κ τ) : Action σ → Prop
  | .publish client =>
      P.Informed w client ∨ ∃ other, other ≠ client ∧ P.Informed w other
  | .fail client => P.UpToDate w ∨ ∃ other, other ≠ client ∧ P.Informed w other
  | _ => True

def system (P : Protocol σ ρ κ τ ω) (init : World σ ρ κ τ → Prop) :
    System (World σ ρ κ τ) (Action σ) where
  init w := init w ∧ P.UpToDate w ∧ ∀ client, w.clients client = .idle
  next w action v := P.step w action = some v

theorem informed_to_self (client : Nat) (phase : Phase ρ κ) :
    P.Informed (w.to client phase) client ↔
      match phase with
      | .idle => False
      | .writing => True
      | .reading p => P.Holds w.store p
      | .publishing k => P.observe k = P.view w.store := by
  rw [Informed]
  simp only [World.to, Function.update_self]

theorem informed_to_of_ne {client other : Nat} (h : other ≠ client) (phase : Phase ρ κ) :
    P.Informed (w.to client phase) other ↔ P.Informed w other := by
  rw [Informed, Informed]
  simp only [World.to, Function.update_of_ne h]

/-- A client goes on; if it was informed it still is. -/
theorem Attended.to {client : Nat} {phase : Phase ρ κ} (h : P.Attended w)
    (hClient : P.Informed w client → P.Informed (w.to client phase) client) :
    P.Attended (w.to client phase) := by
  rcases h with hUp | ⟨other, hOther⟩
  · exact .inl hUp
  · right
    by_cases hSame : other = client
    · subst hSame
      exact ⟨other, hClient hOther⟩
    · exact ⟨other, (informed_to_of_ne hSame phase).mpr hOther⟩

/-- After a client has left, it is up to the others. -/
theorem attended_to_idle (client : Nat) :
    P.Attended (w.to client .idle) ↔
      P.UpToDate w ∨ ∃ other, other ≠ client ∧ P.Informed w other := by
  refine or_congr_right ⟨?_, ?_⟩
  · rintro ⟨other, hOther⟩
    by_cases hSame : other = client
    · subst hSame
      exact ((informed_to_self other .idle).mp hOther).elim
    · exact ⟨other, hSame, (informed_to_of_ne hSame .idle).mp hOther⟩
  · rintro ⟨other, hSame, hOther⟩
    exact ⟨other, (informed_to_of_ne hSame .idle).mpr hOther⟩

/-- Careful steps are those after which a client still attends to what is published. -/
theorem Attended.step_iff (h : P.Attended w) (hStep : P.step w action = some v) :
    P.Attended v ↔ P.Careful w action := by
  cases action with
  | start client =>
      rw [step] at hStep
      split at hStep
      · rw [← Option.some.inj hStep]
        exact iff_of_true (h.to fun _ => (informed_to_self client .writing).mpr trivial) trivial
      · cases hStep
  | write client change =>
      rw [step] at hStep
      split at hStep
      · next hWriting =>
          rw [← Option.some.inj hStep]
          refine iff_of_true (.inr ⟨client, ?_⟩) trivial
          rw [Informed]
          simp only [hWriting]
      · cases hStep
  | reload client =>
      rw [step] at hStep
      split at hStep
      · rw [← Option.some.inj hStep]
        refine iff_of_true (h.to fun _ => ?_) trivial
        exact (informed_to_self client _).mpr (P.holds_start w.store)
      · cases hStep
  | read client =>
      rw [step] at hStep
      split at hStep
      · next p hReading =>
          have hHolds : P.Informed w client → P.Holds w.store p := by
            intro hInformed
            rw [Informed, hReading] at hInformed
            exact hInformed
          split at hStep
          · next q hRead =>
              rw [← Option.some.inj hStep]
              refine iff_of_true (h.to fun hInformed => ?_) trivial
              exact (informed_to_self client _).mpr (P.holds_read (hHolds hInformed) hRead)
          · next k hRead =>
              rw [← Option.some.inj hStep]
              refine iff_of_true (h.to fun hInformed => ?_) trivial
              exact (informed_to_self client _).mpr (P.observe_read (hHolds hInformed) hRead)
      · cases hStep
  | publish client =>
      rw [step] at hStep
      split at hStep
      · next k hPublishing =>
          rw [← Option.some.inj hStep]
          have hOwn : P.Informed w client ↔ P.observe k = P.view w.store := by
            rw [Informed, hPublishing]
          have hUp : P.UpToDate { w.to client .idle with published := P.publish k w.published } ↔
              P.observe k = P.view w.store := by
            rw [UpToDate, P.shows_publish]
            rfl
          have hOthers : (∃ other, P.Informed
              { w.to client .idle with published := P.publish k w.published } other) ↔
              ∃ other, other ≠ client ∧ P.Informed w other := by
            constructor
            · rintro ⟨other, hOther⟩
              by_cases hSame : other = client
              · subst hSame
                exact ((informed_to_self other .idle).mp hOther).elim
              · exact ⟨other, hSame, (informed_to_of_ne hSame .idle).mp hOther⟩
            · rintro ⟨other, hSame, hOther⟩
              exact ⟨other, (informed_to_of_ne hSame .idle).mpr hOther⟩
          rw [Attended, Careful, hUp, hOthers, hOwn]
      · cases hStep
  | fail client =>
      rw [step] at hStep
      split at hStep
      · rw [← Option.some.inj hStep]
        exact attended_to_idle client
      · rw [← Option.some.inj hStep]
        exact attended_to_idle client
      · cases hStep

/-- Only publications change what is published. -/
theorem published_step (hStep : P.step w action = some v) :
    v.published = w.published ∨ ∃ k, v.published = P.publish k w.published := by
  cases action with
  | start client =>
      rw [step] at hStep
      split at hStep
      · rw [← Option.some.inj hStep]
        exact .inl rfl
      · cases hStep
  | write client change =>
      rw [step] at hStep
      split at hStep
      · rw [← Option.some.inj hStep]
        exact .inl rfl
      · cases hStep
  | reload client =>
      rw [step] at hStep
      split at hStep
      · rw [← Option.some.inj hStep]
        exact .inl rfl
      · cases hStep
  | read client =>
      rw [step] at hStep
      split at hStep
      · split at hStep
        · rw [← Option.some.inj hStep]
          exact .inl rfl
        · rw [← Option.some.inj hStep]
          exact .inl rfl
      · cases hStep
  | publish client =>
      rw [step] at hStep
      split at hStep
      · next k _ =>
          rw [← Option.some.inj hStep]
          exact .inr ⟨k, rfl⟩
      · cases hStep
  | fail client =>
      rw [step] at hStep
      split at hStep
      · rw [← Option.some.inj hStep]
        exact .inl rfl
      · rw [← Option.some.inj hStep]
        exact .inl rfl
      · cases hStep

/-- While all are careful, somebody attends. -/
theorem attended_of_careful {init : World σ ρ κ τ → Prop}
    (h : ReachableWithin (P.system init) P.Careful w) : P.Attended w := by
  apply h.invariant
  · rintro w ⟨_, hUp, _⟩
    exact .inl hUp
  · exact fun w action v hAttended hCareful hStep => (hAttended.step_iff hStep).mpr hCareful

/-- When all commands have ended, what is published is what the store has. -/
theorem Attended.upToDate (h : P.Attended w) (hIdle : ∀ client, w.clients client = .idle) :
    P.UpToDate w := by
  apply h.resolve_right
  rintro ⟨client, hClient⟩
  rw [Informed, hIdle client] at hClient
  exact hClient

end Protocol

end Publishing
