import Mathlib.Logic.Basic

/-! Procedures that read an environment, update a state in place and may stop
early with an error. An early stop keeps the updates made before it, which is
what a method with a mutable receiver and the `?` operator does. -/
namespace Stateful

/-- One procedure over environments `ρ`, states `σ` and errors `ε`. The final
state is returned on both outcomes; nothing is rolled back. -/
def Proc (ρ σ ε α : Type) : Type := ρ → σ → Except ε α × σ

namespace Proc

variable {ρ ρ' σ τ ε ε' α β : Type}

instance : Monad (Proc ρ σ ε) where
  pure a := fun _ s => (.ok a, s)
  bind m f := fun env s =>
    match m env s with
    | (.ok a, s') => f a env s'
    | (.error e, s') => (.error e, s')

/-- The current state. -/
def get : Proc ρ σ ε σ := fun _ s => (.ok s, s)

/-- The environment of this run. -/
def read : Proc ρ σ ε ρ := fun env s => (.ok env, s)

def modify (f : σ → σ) : Proc ρ σ ε Unit := fun _ s => (.ok (), f s)

/-- Stop early; the state reached so far is the final one. -/
def fail (e : ε) : Proc ρ σ ε α := fun _ s => (.error e, s)

/-- Run `m` only if `c` holds. -/
def when (c : Prop) [Decidable c] (m : Proc ρ σ ε Unit) : Proc ρ σ ε Unit :=
  if c then m else pure ()

/-- Run `f` on the value that is there, if one is. -/
def whenSome (value : Option α) (f : α → Proc ρ σ ε Unit) : Proc ρ σ ε Unit :=
  match value with
  | none => pure ()
  | some a => f a

/-- Run `m` to its end and hand its outcome over as a value. The state that a
failed `m` leaves behind is kept. -/
def attempt (m : Proc ρ σ ε α) : Proc ρ σ ε (Except ε α) := fun env s =>
  ((.ok (m env s).1), (m env s).2)

/-- Run a procedure of a component `τ` of the state. Errors are translated and
the component's final value is written back on both outcomes. -/
def focus (view : σ → τ) (put : τ → σ → σ) (onError : ε' → ε) (env' : ρ')
    (m : Proc ρ' τ ε' α) : Proc ρ σ ε α := fun _ s =>
  match m env' (view s) with
  | (.ok a, t) => (.ok a, put t s)
  | (.error e, t) => (.error (onError e), put t s)

/-- The state in which a run ends, on either outcome. -/
def final (m : Proc ρ σ ε α) (env : ρ) (s : σ) : σ := (m env s).2

/-- Weakest precondition: `Q` holds of a normal return, `E` of the state that an
early stop leaves behind. -/
def Post (m : Proc ρ σ ε α) (env : ρ) (s : σ) (Q : α → σ → Prop) (E : σ → Prop) : Prop :=
  match m env s with
  | (.ok a, s') => Q a s'
  | (.error _, s') => E s'

variable {env : ρ} {s : σ} {Q Q' : α → σ → Prop} {E E' : σ → Prop}

@[simp] theorem post_pure {a : α} : Post (pure a : Proc ρ σ ε α) env s Q E ↔ Q a s := Iff.rfl

@[simp] theorem post_bind {m : Proc ρ σ ε β} {f : β → Proc ρ σ ε α} :
    Post (m >>= f) env s Q E ↔ Post m env s (fun b s' => Post (f b) env s' Q E) E := by
  simp only [Post, bind]
  rcases m env s with ⟨result, s'⟩
  cases result <;> rfl

@[simp] theorem post_get {Q : σ → σ → Prop} :
    Post (get : Proc ρ σ ε σ) env s Q E ↔ Q s s := Iff.rfl

@[simp] theorem post_read {Q : ρ → σ → Prop} :
    Post (read : Proc ρ σ ε ρ) env s Q E ↔ Q env s := Iff.rfl

@[simp] theorem post_modify {f : σ → σ} {Q : Unit → σ → Prop} :
    Post (modify f : Proc ρ σ ε Unit) env s Q E ↔ Q () (f s) := Iff.rfl

@[simp] theorem post_fail {e : ε} : Post (fail e : Proc ρ σ ε α) env s Q E ↔ E s := Iff.rfl

theorem post_ite {c : Prop} [Decidable c] {m n : Proc ρ σ ε α} :
    Post (if c then m else n) env s Q E ↔
      if c then Post m env s Q E else Post n env s Q E := by
  split <;> rfl

@[simp] theorem post_when {c : Prop} [Decidable c] {m : Proc ρ σ ε Unit} {Q : Unit → σ → Prop} :
    Post (when c m) env s Q E ↔ (c → Post m env s Q E) ∧ (¬ c → Q () s) := by
  unfold when
  by_cases hc : c <;> simp [hc]

theorem post_whenSome {value : Option β} {f : β → Proc ρ σ ε Unit} {Q : Unit → σ → Prop}
    (hNone : value = none → Q () s) (hSome : ∀ b, value = some b → Post (f b) env s Q E) :
    Post (whenSome value f) env s Q E := by
  cases value with
  | none => exact hNone rfl
  | some b => exact hSome b rfl

theorem post_attempt {m : Proc ρ σ ε α} {Q : Except ε α → σ → Prop} :
    Post (attempt m) env s Q E ↔
      Q (m env s).1 (m env s).2 := Iff.rfl

/-- A caught procedure needs its postconditions only, whatever its outcome. -/
theorem post_attempt_of {m : Proc ρ σ ε α} {Q : Except ε α → σ → Prop}
    (h : Post m env s (fun a s' => Q (.ok a) s') (fun s' => ∀ e, Q (.error e) s')) :
    Post (attempt m) env s Q E := by
  rw [post_attempt]
  simp only [Post] at h
  rcases hm : m env s with ⟨result, s'⟩
  rw [hm] at h
  cases result with
  | ok a => exact h
  | error e => exact h e

@[simp] theorem post_focus {view : σ → τ} {put : τ → σ → σ} {onError : ε' → ε} {env' : ρ'}
    {m : Proc ρ' τ ε' α} :
    Post (focus view put onError env' m) env s Q E ↔
      Post m env' (view s) (fun a t => Q a (put t s)) (fun t => E (put t s)) := by
  simp only [Post, focus]
  rcases m env' (view s) with ⟨result, t⟩
  cases result <;> rfl

/-- Rule of consequence. -/
theorem Post.mono {m : Proc ρ σ ε α} (h : Post m env s Q E)
    (hQ : ∀ a s', Q a s' → Q' a s') (hE : ∀ s', E s' → E' s') : Post m env s Q' E' := by
  simp only [Post] at h ⊢
  rcases hm : m env s with ⟨result, s'⟩
  rw [hm] at h
  cases result with
  | ok a => exact hQ a s' h
  | error e => exact hE s' h

/-- Run `m`, then `f`: what `m` establishes is what `f` starts from. -/
theorem Post.bind {m : Proc ρ σ ε β} {f : β → Proc ρ σ ε α} {M : β → σ → Prop}
    (hm : Post m env s M E) (hf : ∀ b s', M b s' → Post (f b) env s' Q E) :
    Post (m >>= f) env s Q E := by
  rw [post_bind]
  exact hm.mono hf fun _ h => h

/-- What the last part of a procedure achieves from anywhere, whatever comes before it. -/
theorem Post.last {m : Proc ρ σ ε β} {f : β → Proc ρ σ ε α}
    (hf : ∀ b t, Post (f b) env t Q fun _ => True) : Post (m >>= f) env s Q fun _ => True := by
  rw [post_bind, Post]
  rcases m env s with ⟨result, t⟩
  cases result with
  | ok b => exact hf b t
  | error _ => trivial

theorem Post.and {m : Proc ρ σ ε α} (h : Post m env s Q E) (h' : Post m env s Q' E') :
    Post m env s (fun a t => Q a t ∧ Q' a t) fun t => E t ∧ E' t := by
  simp only [Post] at h h' ⊢
  rcases hm : m env s with ⟨result, s'⟩
  rw [hm] at h h'
  cases result with
  | ok a => exact ⟨h, h'⟩
  | error e => exact ⟨h, h'⟩

/-- A run that does not stop early keeps its postcondition whatever early stops leave. -/
theorem Post.resolve {m : Proc ρ σ ε α} (hTotal : Post m env s (fun _ _ => True) fun _ => False)
    (h : Post m env s Q E) : Post m env s Q E' := by
  simp only [Post] at hTotal h ⊢
  rcases hm : m env s with ⟨result, s'⟩
  rw [hm] at hTotal h
  cases result with
  | ok a => exact h
  | error e => exact hTotal.elim

/-- What never stops early returns. -/
theorem Post.returns {m : Proc ρ σ ε α} (h : Post m env s Q fun _ => False) :
    ∃ a s', m env s = (.ok a, s') ∧ Q a s' := by
  simp only [Post] at h
  rcases hm : m env s with ⟨result, s'⟩
  rw [hm] at h
  cases result with
  | ok a => exact ⟨a, s', rfl, h⟩
  | error e => exact h.elim

/-- A property of every outcome is a property of the final state. -/
theorem Post.final {m : Proc ρ σ ε α} {P : σ → Prop} (h : Post m env s (fun _ => P) P) :
    P (m.final env s) := by
  simp only [Post] at h
  simp only [Proc.final]
  rcases hm : m env s with ⟨result, s'⟩
  rw [hm] at h
  cases result <;> exact h

/-- A property of the final state is a property of every outcome. -/
theorem Post.of_final {m : Proc ρ σ ε α} {P : σ → Prop} (h : P (m.final env s)) :
    Post m env s (fun _ => P) P := by
  simp only [Proc.final] at h
  simp only [Post]
  rcases hm : m env s with ⟨result, s'⟩
  rw [hm] at h
  cases result <;> exact h

/-- A procedure that never stops early ends where its postcondition holds. -/
theorem Post.final_of_total {m : Proc ρ σ ε α} {P : σ → Prop}
    (h : Post m env s (fun _ => P) fun _ => False) : P (m.final env s) :=
  Post.final (h.mono (fun _ _ hP => hP) fun _ hFalse => hFalse.elim)

/-- A normal return is where its postcondition holds. -/
theorem Post.returned {m : Proc ρ σ ε α} {a : α} (h : Post m env s Q E)
    (hReturned : (m env s).1 = .ok a) : Q a (m.final env s) := by
  simp only [Post] at h
  simp only [Proc.final]
  rcases hm : m env s with ⟨result, s'⟩
  rw [hm] at h hReturned
  obtain rfl : result = .ok a := hReturned
  exact h

/-- An early stop is where its postcondition holds. -/
theorem Post.stopped {m : Proc ρ σ ε α} {e : ε} (h : Post m env s Q E)
    (hStopped : (m env s).1 = .error e) : E (m.final env s) := by
  simp only [Post] at h
  simp only [Proc.final]
  rcases hm : m env s with ⟨result, s'⟩
  rw [hm] at h hStopped
  obtain rfl : result = .error e := hStopped
  exact h

/-- What a procedure returns does not matter to the state in which it ends. -/
theorem final_bind_pure {m : Proc ρ σ ε α} {b : β} :
    (m >>= fun _ => (Pure.pure b : Proc ρ σ ε β)).final env s = m.final env s := by
  simp only [Proc.final, bind]
  rcases m env s with ⟨result, s'⟩
  cases result <;> rfl

/-- Every normal return of `m` is related to the state it started from by `R`, and every
early stop by `F`. -/
def Within (R : σ → σ → Prop) (F : ρ → σ → σ → Prop) (m : Proc ρ σ ε α) : Prop :=
  ∀ env s, Post m env s (fun _ s' => R s s') (fun s' => F env s s')

section Within

variable {R : σ → σ → Prop} {F : ρ → σ → σ → Prop}

theorem Within.pure (hRefl : ∀ s, R s s) (a : α) : Within R F (pure a : Proc ρ σ ε α) :=
  fun _ s => hRefl s

theorem Within.fail (hRefl : ∀ env s, F env s s) (e : ε) : Within R F (fail e : Proc ρ σ ε α) :=
  fun env s => hRefl env s

theorem Within.get (hRefl : ∀ s, R s s) : Within R F (get : Proc ρ σ ε σ) := fun _ s => hRefl s

theorem Within.read (hRefl : ∀ s, R s s) : Within R F (read : Proc ρ σ ε ρ) :=
  fun _ s => hRefl s

theorem Within.modify {f : σ → σ} (h : ∀ s, R s (f s)) :
    Within R F (modify f : Proc ρ σ ε Unit) := fun _ s => h s

theorem Within.bind (hTrans : ∀ s t u, R s t → R t u → R s u)
    (hStop : ∀ env s t u, R s t → F env t u → F env s u) {m : Proc ρ σ ε β} {f : β → Proc ρ σ ε α}
    (hm : Within R F m) (hf : ∀ b, Within R F (f b)) : Within R F (m >>= f) := by
  intro env s
  rw [post_bind]
  refine (hm env s).mono (fun b t hFirst => ?_) fun _ h => h
  exact (hf b env t).mono (fun _ u hSecond => hTrans s t u hFirst hSecond)
    fun u hSecond => hStop env s t u hFirst hSecond

theorem Within.ite {c : Prop} [Decidable c] {m n : Proc ρ σ ε α} (hm : Within R F m)
    (hn : Within R F n) : Within R F (if c then m else n) := by
  split
  · exact hm
  · exact hn

theorem Within.when (hRefl : ∀ s, R s s) {c : Prop} [Decidable c] {m : Proc ρ σ ε Unit}
    (hm : Within R F m) : Within R F (when c m) := .ite hm (.pure hRefl _)

theorem Within.whenSome (hRefl : ∀ s, R s s) {value : Option β} {f : β → Proc ρ σ ε Unit}
    (hf : ∀ b, Within R F (f b)) : Within R F (whenSome value f) := by
  cases value with
  | none => exact .pure hRefl _
  | some b => exact hf b

theorem Within.forM (hRefl : ∀ s, R s s) (hTrans : ∀ s t u, R s t → R t u → R s u)
    (hStop : ∀ env s t u, R s t → F env t u → F env s u) {f : β → Proc ρ σ ε PUnit}
    (hf : ∀ b, Within R F (f b)) (xs : List β) : Within R F (xs.forM f) := by
  induction xs with
  | nil => exact .pure hRefl _
  | cons x rest ih => exact .bind hTrans hStop (hf x) fun _ => ih

end Within

/-- From a state with `P`, `m` ends in one or stops early with `E`. -/
def Keeps (env : ρ) (P E : σ → Prop) (m : Proc ρ σ ε α) : Prop :=
  ∀ s, P s → Post m env s (fun _ => P) E

namespace Keeps

variable {P : σ → Prop}

theorem pure (a : α) : Keeps env P E (pure a : Proc ρ σ ε α) := fun _ h => h

theorem fail (hE : ∀ s, P s → E s) (e : ε) : Keeps env P E (fail e : Proc ρ σ ε α) := hE

theorem modify {f : σ → σ} (h : ∀ s, P s → P (f s)) : Keeps env P E (modify f : Proc ρ σ ε Unit) :=
  h

theorem bind {m : Proc ρ σ ε β} {f : β → Proc ρ σ ε α} (hm : Keeps env P E m)
    (hf : ∀ b, Keeps env P E (f b)) : Keeps env P E (m >>= f) :=
  fun s h => (hm s h).bind fun b t ht => hf b t ht

/-- A procedure that looks at the state first. -/
theorem withState {f : σ → Proc ρ σ ε α} (hf : ∀ s, Keeps env P E (f s)) :
    Keeps env P E (get >>= f) := bind (fun _ h => h) hf

theorem withEnv {f : ρ → Proc ρ σ ε α} (hf : Keeps env P E (f env)) :
    Keeps env P E (read >>= f) := fun s h => hf s h

theorem ite {c : Prop} [Decidable c] {m n : Proc ρ σ ε α} (hm : Keeps env P E m)
    (hn : Keeps env P E n) : Keeps env P E (if c then m else n) := by
  split
  · exact hm
  · exact hn

theorem when {c : Prop} [Decidable c] {m : Proc ρ σ ε Unit} (hm : Keeps env P E m) :
    Keeps env P E (when c m) := ite hm (pure ())

theorem whenSome {value : Option β} {f : β → Proc ρ σ ε Unit} (hf : ∀ b, Keeps env P E (f b)) :
    Keeps env P E (whenSome value f) := by
  cases value with
  | none => exact pure ()
  | some b => exact hf b

theorem mono {m : Proc ρ σ ε α} (hm : Keeps env P E m) (hE : ∀ s, E s → E' s) :
    Keeps env P E' m := fun s h => (hm s h).mono (fun _ _ ht => ht) hE

theorem post {m : Proc ρ σ ε α} (hm : Keeps env P E m) (h : P s) (hQ : ∀ a t, P t → Q a t) :
    Post m env s Q E := (hm s h).mono hQ fun _ ht => ht

/-- A caught procedure needs an early stop to keep `P` too. -/
theorem attempt {m : Proc ρ σ ε α} (hm : Keeps env P P m) : Keeps env P E (attempt m) :=
  fun s h => post_attempt_of ((hm s h).mono (fun _ _ ht => ht) fun _ ht _ => ht)

end Keeps

end Proc

end Stateful
