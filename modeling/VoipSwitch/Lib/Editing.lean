import VoipSwitch.Lib.Publication

/-! Two editors of one record. Each merges its change into a published copy of the record, writes
the whole record to the store, and then reads the store and publishes what it read. -/
namespace Editing

open Transition Publishing

/-- How a record is copied, changed, checked and written. The fields of a record have values; of a
copy a merge keeps what the change does not set. -/
structure Record (σ τ κ μ φ υ ε : Type) where
  copy : τ → Except ε κ
  merge : μ → κ → Except ε κ
  checks : List (τ → κ → Except ε Unit)
  write : κ → σ → Except ε σ
  stored : σ → φ → Option υ
  value : κ → φ → υ
  kept : κ → φ → υ
  Sets : μ → φ → Prop
  /-- The record is the one that the editors edit. -/
  Own : κ → Prop
  own_copy : ∀ {t base}, copy t = .ok base → Own base
  own_merge : ∀ {change base record}, Own base → merge change base = .ok record → Own record
  value_merge : ∀ {change base record field}, merge change base = .ok record →
    ¬ Sets change field → value record field = kept base field
  stored_write : ∀ {record store store'}, Own record → write record store = .ok store' →
    ∀ field, stored store' field = some (value record field)

inductive Stage (ρ ν ε τ κ : Type) where
  | received
  | checking (rest : List (τ → κ → Except ε Unit))
  | written
  | reading (p : ρ)
  | publishing (k : ν)
  | succeeded
  | failed

namespace Stage

variable {ρ ν ε τ κ : Type}

def isBefore : Stage ρ ν ε τ κ → Bool
  | .received | .checking _ => true
  | _ => false

def isAfter : Stage ρ ν ε τ κ → Bool
  | .written | .reading _ | .publishing _ | .succeeded => true
  | _ => false

end Stage

/-- An editor, with the copy it took and what it made of it. -/
structure Editor (ρ ν ε τ κ : Type) where
  taken : Option (κ × κ)
  wrote : Bool
  stage : Stage ρ ν ε τ κ

/-- The store, what is published, the two editors, and which of them wrote last. -/
structure Desk (σ τ κ ρ ν ε : Type) where
  store : σ
  published : τ
  editors : Bool → Editor ρ ν ε τ κ
  last : Option Bool

/-- One of the editors goes on, or ends with an error. -/
structure Turn where
  editor : Bool
  fails : Bool
deriving DecidableEq

variable {σ τ κ μ φ υ ε ρ ν ω : Type} {R : Record σ τ κ μ φ υ ε} {P : Protocol σ ρ ν τ ω}
  {changes : Bool → μ} {d d' : Desk σ τ κ ρ ν ε} {turn : Turn}

namespace Desk

def set (d : Desk σ τ κ ρ ν ε) (editor : Bool) (state : Editor ρ ν ε τ κ) : Desk σ τ κ ρ ν ε :=
  { d with editors := Function.update d.editors editor state }

def moved (d : Desk σ τ κ ρ ν ε) (editor : Bool) (stage : Stage ρ ν ε τ κ) : Desk σ τ κ ρ ν ε :=
  d.set editor { d.editors editor with stage }

theorem set_self (editor : Bool) (state : Editor ρ ν ε τ κ) :
    (d.set editor state).editors editor = state :=
  Function.update_self ..

theorem set_of_ne {editor other : Bool} (h : other ≠ editor) (state : Editor ρ ν ε τ κ) :
    (d.set editor state).editors other = d.editors other :=
  Function.update_of_ne h ..

end Desk

namespace Record

/-- The next step of an editor, which may fail at any of its accesses to the store. -/
def step (R : Record σ τ κ μ φ υ ε) (P : Protocol σ ρ ν τ ω) (changes : Bool → μ)
    (d : Desk σ τ κ ρ ν ε) (turn : Turn) : Option (Desk σ τ κ ρ ν ε) :=
  let editor := d.editors turn.editor
  match editor.stage with
  | .received =>
      match R.copy d.published with
      | .error _ => some (d.moved turn.editor .failed)
      | .ok base =>
          match R.merge (changes turn.editor) base with
          | .error _ => some (d.moved turn.editor .failed)
          | .ok record =>
              some (d.set turn.editor
                { editor with taken := some (base, record), stage := .checking R.checks })
  | .checking (check :: rest) =>
      editor.taken.map fun taken =>
        match check d.published taken.2 with
        | .error _ => d.moved turn.editor .failed
        | .ok () => d.moved turn.editor (.checking rest)
  | .checking [] =>
      editor.taken.map fun taken =>
        match turn.fails, R.write taken.2 d.store with
        | false, .ok store =>
            { d.set turn.editor { editor with wrote := true, stage := .written } with
              store, last := some turn.editor }
        | _, _ => d.moved turn.editor .failed
  | .written => some (d.moved turn.editor (if turn.fails then .failed else .reading P.start))
  | .reading p =>
      if turn.fails then some (d.moved turn.editor .failed)
      else
        match P.read d.store p with
        | .inl q => some (d.moved turn.editor (.reading q))
        | .inr k => some (d.moved turn.editor (.publishing k))
  | .publishing k =>
      some { d.moved turn.editor .succeeded with published := P.publish k d.published }
  | .succeeded | .failed => none

def system (R : Record σ τ κ μ φ υ ε) (P : Protocol σ ρ ν τ ω) (changes : Bool → μ) :
    System (Desk σ τ κ ρ ν ε) Turn where
  init d := d.last = none ∧ ∀ editor,
    d.editors editor = { taken := none, wrote := false, stage := .received }
  next d turn d' := R.step P changes d turn = some d'

/-- The stored record has the values that an editor has set. -/
def Carries (R : Record σ τ κ μ φ υ ε) (changes : Bool → μ) (d : Desk σ τ κ ρ ν ε)
    (editor : Bool) : Prop :=
  ∃ base record, (d.editors editor).taken = some (base, record) ∧
    ∀ field, R.Sets (changes editor) field → R.stored d.store field = some (R.value record field)

/-- Once both have written, nothing that one of them has set is lost. -/
def NothingLost (R : Record σ τ κ μ φ υ ε) (changes : Bool → μ) (d : Desk σ τ κ ρ ν ε) : Prop :=
  (∀ editor, (d.editors editor).wrote = true) → ∀ editor, R.Carries changes d editor

/-- The step writes a record. -/
structure Writes (R : Record σ τ κ μ φ υ ε) (d : Desk σ τ κ ρ ν ε) (turn : Turn) (base record : κ)
    (store : σ) : Prop where
  stage : (d.editors turn.editor).stage = .checking []
  goes : turn.fails = false
  taken : (d.editors turn.editor).taken = some (base, record)
  write : R.write record d.store = .ok store

/-- An editor that writes after the other one has a copy with the values that the other has set. -/
def Informed (R : Record σ τ κ μ φ υ ε) (changes : Bool → μ) (d : Desk σ τ κ ρ ν ε)
    (turn : Turn) : Prop :=
  ∀ base record store, R.Writes d turn base record store →
    (d.editors !turn.editor).wrote = true →
      ∀ base' record', (d.editors !turn.editor).taken = some (base', record') →
        ∀ field, R.Sets (changes !turn.editor) field → R.kept base field = R.value record' field

/-- What is known of the editors and of the stored record. -/
structure Sound (R : Record σ τ κ μ φ υ ε) (changes : Bool → μ) (d : Desk σ τ κ ρ ν ε) : Prop where
  merged : ∀ editor base record, (d.editors editor).taken = some (base, record) →
    R.Own record ∧ R.merge (changes editor) base = .ok record
  before : ∀ editor, (d.editors editor).stage.isBefore = true → (d.editors editor).wrote = false
  after : ∀ editor, (d.editors editor).stage.isAfter = true → (d.editors editor).wrote = true
  taken : ∀ editor, (d.editors editor).wrote = true → (d.editors editor).taken.isSome = true
  last : ∀ editor, (d.editors editor).wrote = true → ∃ latest, d.last = some latest
  stored : ∀ latest, d.last = some latest → (d.editors latest).wrote = true ∧
    ∀ base record, (d.editors latest).taken = some (base, record) →
      ∀ field, R.stored d.store field = some (R.value record field)

/-- The step only moves its editor on: what is before its write or after it stays so, and the store
is left alone. -/
def Advances (R : Record σ τ κ μ φ υ ε) (d : Desk σ τ κ ρ ν ε) (turn : Turn)
    (d' : Desk σ τ κ ρ ν ε) : Prop :=
  ∃ stage published, d' = { d.moved turn.editor stage with published } ∧
    (stage.isBefore = true → (d.editors turn.editor).stage.isBefore = true) ∧
    (stage.isAfter = true → (d.editors turn.editor).stage.isAfter = true) ∧
    ∀ base record store, ¬ R.Writes d turn base record store

/-- Only an editor with all its checks behind it can write. -/
theorem advances_of_stage {before stage : Stage ρ ν ε τ κ} (published : τ)
    (hStage : (d.editors turn.editor).stage = before) (hChecks : before ≠ .checking [])
    (hBefore : stage.isBefore = true → before.isBefore = true)
    (hAfter : stage.isAfter = true → before.isAfter = true) :
    R.Advances d turn { d.moved turn.editor stage with published } := by
  subst hStage
  exact ⟨stage, published, rfl, hBefore, hAfter, fun _ _ _ hWrites => hChecks hWrites.stage⟩

theorem step_received (hStage : (d.editors turn.editor).stage = .received)
    (hStep : R.step P changes d turn = some d') :
    R.Advances d turn d' ∨ ∃ base record, R.copy d.published = .ok base ∧
      R.merge (changes turn.editor) base = .ok record ∧
      d' = d.set turn.editor { d.editors turn.editor with
        taken := some (base, record), stage := .checking R.checks } := by
  have hFailed : R.Advances d turn (d.moved turn.editor .failed) :=
    advances_of_stage d.published hStage nofun nofun nofun
  simp only [step, hStage] at hStep
  split at hStep
  · rw [← Option.some.inj hStep]
    exact .inl hFailed
  · next base hCopy =>
      split at hStep
      · rw [← Option.some.inj hStep]
        exact .inl hFailed
      · next record hMerge =>
          rw [← Option.some.inj hStep]
          exact .inr ⟨base, record, hCopy, hMerge, rfl⟩

/-- The record is written, or the write fails and the editor with it. -/
theorem step_checked (hStage : (d.editors turn.editor).stage = .checking [])
    (hStep : R.step P changes d turn = some d') :
    R.Advances d turn d' ∨ ∃ base record store, R.Writes d turn base record store ∧
      d' = { d.set turn.editor { d.editors turn.editor with wrote := true, stage := .written } with
        store, last := some turn.editor } := by
  simp only [step, hStage] at hStep
  obtain ⟨⟨base, record⟩, hTaken, rfl⟩ := Option.map_eq_some_iff.mp hStep
  split
  · next store hGoes hWrite =>
      exact .inr ⟨base, record, store, ⟨hStage, hGoes, hTaken, hWrite⟩, rfl⟩
  · next hNot =>
      left
      refine ⟨.failed, d.published, rfl, nofun, nofun, fun base' record' store hWrites => ?_⟩
      have hSame := hTaken.symm.trans hWrites.taken
      simp only [Option.some.injEq, Prod.mk.injEq] at hSame
      obtain ⟨_, rfl⟩ := hSame
      exact hNot store hWrites.goes hWrites.write

/-- A step moves its editor on, lets it take its copy, or writes. -/
theorem step_cases (hStep : R.step P changes d turn = some d') :
    R.Advances d turn d' ∨
      (∃ base record, (d.editors turn.editor).stage = .received ∧ R.copy d.published = .ok base ∧
        R.merge (changes turn.editor) base = .ok record ∧
        d' = d.set turn.editor { d.editors turn.editor with
          taken := some (base, record), stage := .checking R.checks }) ∨
      ∃ base record store, R.Writes d turn base record store ∧
        d' = { d.set turn.editor
          { d.editors turn.editor with wrote := true, stage := .written } with
          store, last := some turn.editor } := by
  cases hStage : (d.editors turn.editor).stage with
  | received =>
      rcases step_received hStage hStep with hAdvances | ⟨base, record, hTakes⟩
      · exact .inl hAdvances
      · exact .inr (.inl ⟨base, record, rfl, hTakes⟩)
  | checking rest =>
      cases rest with
      | cons check rest =>
          simp only [step, hStage] at hStep
          obtain ⟨taken, _, rfl⟩ := Option.map_eq_some_iff.mp hStep
          left
          split
          · exact advances_of_stage d.published hStage nofun nofun nofun
          · exact advances_of_stage d.published hStage nofun (fun _ => rfl) nofun
      | nil => exact (step_checked hStage hStep).imp_right .inr
  | written =>
      simp only [step, hStage] at hStep
      rw [← Option.some.inj hStep]
      left
      split
      · exact advances_of_stage d.published hStage nofun nofun nofun
      · exact advances_of_stage d.published hStage nofun nofun fun _ => rfl
  | reading p =>
      simp only [step, hStage] at hStep
      left
      split at hStep
      · rw [← Option.some.inj hStep]
        exact advances_of_stage d.published hStage nofun nofun nofun
      · split at hStep
        · rw [← Option.some.inj hStep]
          exact advances_of_stage d.published hStage nofun nofun fun _ => rfl
        · rw [← Option.some.inj hStep]
          exact advances_of_stage d.published hStage nofun nofun fun _ => rfl
  | publishing k =>
      simp only [step, hStage] at hStep
      rw [← Option.some.inj hStep]
      exact .inl (advances_of_stage _ hStage nofun nofun fun _ => rfl)
  | succeeded | failed =>
      simp only [step, hStage] at hStep
      cases hStep

/-- What an editor keeps through its steps: only its stage moves, or it takes its copy, or it
writes. -/
theorem Sound.moved (h : R.Sound changes d) {editor : Bool}
    {stage : Stage ρ ν ε τ κ} {published : τ}
    (hBefore : stage.isBefore = true → (d.editors editor).stage.isBefore = true)
    (hAfter : stage.isAfter = true → (d.editors editor).stage.isAfter = true) :
    R.Sound changes { d.moved editor stage with published } := by
  have hSame : ∀ other, ((d.moved editor stage).editors other).taken = (d.editors other).taken ∧
      ((d.moved editor stage).editors other).wrote = (d.editors other).wrote := by
    intro other
    by_cases hOther : other = editor
    · subst hOther
      rw [Desk.moved, Desk.set_self]
      exact ⟨rfl, rfl⟩
    · rw [Desk.moved, Desk.set_of_ne hOther]
      exact ⟨rfl, rfl⟩
  constructor
  · intro other base record hTaken
    rw [(hSame other).1] at hTaken
    exact h.merged other base record hTaken
  · intro other hStage
    rw [(hSame other).2]
    apply h.before other
    by_cases hOther : other = editor
    · subst hOther
      rw [Desk.moved, Desk.set_self] at hStage
      exact hBefore hStage
    · rw [Desk.moved, Desk.set_of_ne hOther] at hStage
      exact hStage
  · intro other hStage
    rw [(hSame other).2]
    apply h.after other
    by_cases hOther : other = editor
    · subst hOther
      rw [Desk.moved, Desk.set_self] at hStage
      exact hAfter hStage
    · rw [Desk.moved, Desk.set_of_ne hOther] at hStage
      exact hStage
  · intro other hWrote
    rw [(hSame other).2] at hWrote
    rw [(hSame other).1]
    exact h.taken other hWrote
  · intro other hWrote
    rw [(hSame other).2] at hWrote
    exact h.last other hWrote
  · intro latest hLast
    obtain ⟨hWrote, hStored⟩ := h.stored latest hLast
    refine ⟨(hSame latest).2.trans hWrote, fun base record hTaken => ?_⟩
    rw [(hSame latest).1] at hTaken
    exact hStored base record hTaken

/-- An editor that takes its copy has written nothing yet; the copy is of what is published. -/
theorem Sound.take (h : R.Sound changes d) {editor : Bool} {base record : κ}
    (hReceived : (d.editors editor).stage = .received) (hCopy : R.copy d.published = .ok base)
    (hMerge : R.merge (changes editor) base = .ok record) :
    R.Sound changes (d.set editor { d.editors editor with
      taken := some (base, record), stage := .checking R.checks }) := by
  have hUnwritten : (d.editors editor).wrote = false := h.before editor (by rw [hReceived]; rfl)
  constructor
  · intro other base' record' hTaken
    by_cases hOther : other = editor
    · subst hOther
      rw [Desk.set_self] at hTaken
      simp only [Option.some.injEq, Prod.mk.injEq] at hTaken
      obtain ⟨rfl, rfl⟩ := hTaken
      exact ⟨R.own_merge (R.own_copy hCopy) hMerge, hMerge⟩
    · rw [Desk.set_of_ne hOther] at hTaken
      exact h.merged other base' record' hTaken
  · intro other hStage
    by_cases hOther : other = editor
    · subst hOther
      rw [Desk.set_self]
      exact hUnwritten
    · rw [Desk.set_of_ne hOther] at hStage ⊢
      exact h.before other hStage
  · intro other hStage
    by_cases hOther : other = editor
    · subst hOther
      rw [Desk.set_self] at hStage
      cases hStage
    · rw [Desk.set_of_ne hOther] at hStage ⊢
      exact h.after other hStage
  · intro other hWrote
    by_cases hOther : other = editor
    · subst hOther
      rw [Desk.set_self]
      rfl
    · rw [Desk.set_of_ne hOther] at hWrote ⊢
      exact h.taken other hWrote
  · intro other hWrote
    by_cases hOther : other = editor
    · subst hOther
      rw [Desk.set_self] at hWrote
      exact h.last other hWrote
    · rw [Desk.set_of_ne hOther] at hWrote
      exact h.last other hWrote
  · intro latest hLast
    obtain ⟨hWrote, hStored⟩ := h.stored latest hLast
    have hOther : latest ≠ editor := by
      rintro rfl
      rw [hUnwritten] at hWrote
      cases hWrote
    rw [Desk.set_of_ne hOther]
    exact ⟨hWrote, hStored⟩

theorem Sound.write (h : R.Sound changes d) {base record : κ} {store : σ}
    (hWrites : R.Writes d turn base record store) :
    R.Sound changes { d.set turn.editor { d.editors turn.editor with
      wrote := true, stage := .written } with store, last := some turn.editor } := by
  constructor
  · intro other base' record' hTaken
    by_cases hOther : other = turn.editor
    · subst hOther
      rw [Desk.set_self] at hTaken
      exact h.merged turn.editor base' record' hTaken
    · rw [Desk.set_of_ne hOther] at hTaken
      exact h.merged other base' record' hTaken
  · intro other hStage
    by_cases hOther : other = turn.editor
    · subst hOther
      rw [Desk.set_self] at hStage
      cases hStage
    · rw [Desk.set_of_ne hOther] at hStage ⊢
      exact h.before other hStage
  · intro other hStage
    by_cases hOther : other = turn.editor
    · subst hOther
      rw [Desk.set_self]
    · rw [Desk.set_of_ne hOther] at hStage ⊢
      exact h.after other hStage
  · intro other hWrote
    by_cases hOther : other = turn.editor
    · subst hOther
      rw [Desk.set_self]
      simp only [hWrites.taken, Option.isSome_some]
    · rw [Desk.set_of_ne hOther] at hWrote ⊢
      exact h.taken other hWrote
  · exact fun _ _ => ⟨turn.editor, rfl⟩
  · intro latest hLast
    obtain rfl := Option.some.inj hLast
    rw [Desk.set_self]
    refine ⟨rfl, fun base' record' hTaken => ?_⟩
    have hSame := hTaken.symm.trans hWrites.taken
    simp only [Option.some.injEq, Prod.mk.injEq] at hSame
    obtain ⟨_, rfl⟩ := hSame
    exact R.stored_write (h.merged _ _ _ hWrites.taken).1 hWrites.write

theorem Sound.step (h : R.Sound changes d) (hStep : R.step P changes d turn = some d') :
    R.Sound changes d' := by
  rcases step_cases hStep with ⟨stage, published, rfl, hBefore, hAfter, _⟩ |
    ⟨base, record, hReceived, hCopy, hMerge, rfl⟩ | ⟨base, record, store, hWrites, rfl⟩
  · exact h.moved hBefore hAfter
  · exact h.take hReceived hCopy hMerge
  · exact h.write hWrites

/-- Where nothing is written, nothing is lost that was not lost before. -/
theorem nothingLost_congr (hWrote : ∀ editor, (d'.editors editor).wrote = (d.editors editor).wrote)
    (hTaken : ∀ editor, (d.editors editor).wrote = true →
      (d'.editors editor).taken = (d.editors editor).taken) (hStore : d'.store = d.store)
    (h : R.NothingLost changes d) : R.NothingLost changes d' := by
  intro hBoth editor
  simp only [hWrote] at hBoth
  obtain ⟨base, record, hEdit, hCarried⟩ := h hBoth editor
  refine ⟨base, record, (hTaken editor (hBoth editor)).trans hEdit, fun field hSets => ?_⟩
  rw [hStore]
  exact hCarried field hSets

/-- A write loses nothing exactly if its editor is informed. -/
theorem Sound.nothingLost_write (h : R.Sound changes d)
    (hDisjoint : ∀ field, ¬ (R.Sets (changes false) field ∧ R.Sets (changes true) field))
    {base record : κ} {store : σ} (hWrites : R.Writes d turn base record store) :
    R.NothingLost changes { d.set turn.editor { d.editors turn.editor with
        wrote := true, stage := .written } with store, last := some turn.editor } ↔
      R.Informed changes d turn := by
  have hOther : (!turn.editor) ≠ turn.editor := by cases turn.editor <;> decide
  obtain ⟨hOwn, hMerge⟩ := h.merged _ _ _ hWrites.taken
  have hValues := R.stored_write hOwn hWrites.write
  have hKept : ∀ field, R.Sets (changes !turn.editor) field →
      R.value record field = R.kept base field := by
    intro field hSets
    apply R.value_merge hMerge
    intro hOwnSets
    cases hEditor : turn.editor with
    | false =>
        rw [hEditor] at hOwnSets hSets
        exact hDisjoint field ⟨hOwnSets, hSets⟩
    | true =>
        rw [hEditor] at hOwnSets hSets
        exact hDisjoint field ⟨hSets, hOwnSets⟩
  constructor
  · intro hNothing base' record' store' hAgain hWrote base₂ record₂ hTaken field hSets
    have hSame := hWrites.taken.symm.trans hAgain.taken
    simp only [Option.some.injEq, Prod.mk.injEq] at hSame
    obtain ⟨rfl, rfl⟩ := hSame
    have hBoth : ∀ editor, ((d.set turn.editor { d.editors turn.editor with
        wrote := true, stage := .written }).editors editor).wrote = true := by
      intro editor
      by_cases hEditor : editor = turn.editor
      · rw [hEditor, Desk.set_self]
      · rw [Desk.set_of_ne hEditor, Bool.eq_not_of_ne hEditor]
        exact hWrote
    obtain ⟨base₃, record₃, hTaken', hCarried⟩ := hNothing hBoth (!turn.editor)
    rw [Desk.set_of_ne hOther] at hTaken'
    have hEdit := hTaken.symm.trans hTaken'
    simp only [Option.some.injEq, Prod.mk.injEq] at hEdit
    obtain ⟨_, rfl⟩ := hEdit
    have hStored := (hValues field).symm.trans (hCarried field hSets)
    rw [← hKept field hSets]
    exact Option.some.inj hStored
  · intro hInformed hBoth editor
    by_cases hEditor : editor = turn.editor
    · subst hEditor
      refine ⟨base, record, ?_, fun field _ => hValues field⟩
      rw [Desk.set_self]
      exact hWrites.taken
    · obtain rfl := Bool.eq_not_of_ne hEditor
      have hWrote := hBoth (!turn.editor)
      rw [Desk.set_of_ne hOther] at hWrote
      obtain ⟨⟨base', record'⟩, hTaken⟩ := Option.isSome_iff_exists.mp (h.taken _ hWrote)
      refine ⟨base', record', ?_, fun field hSets => ?_⟩
      · rw [Desk.set_of_ne hOther]
        exact hTaken
      · rw [hValues field, hKept field hSets]
        exact congrArg some
          (hInformed base record store hWrites hWrote base' record' hTaken field hSets)

theorem Sound.step_iff (h : R.Sound changes d) (hNothing : R.NothingLost changes d)
    (hDisjoint : ∀ field, ¬ (R.Sets (changes false) field ∧ R.Sets (changes true) field))
    (hStep : R.step P changes d turn = some d') :
    R.NothingLost changes d' ↔ R.Informed changes d turn := by
  rcases step_cases hStep with ⟨stage, published, rfl, _, _, hNot⟩ |
    ⟨base, record, hReceived, _, _, rfl⟩ | ⟨base, record, store, hWrites, rfl⟩
  · have hSame : ∀ editor, ((d.moved turn.editor stage).editors editor).wrote =
        (d.editors editor).wrote ∧
        ((d.moved turn.editor stage).editors editor).taken = (d.editors editor).taken := by
      intro editor
      by_cases hEditor : editor = turn.editor
      · rw [hEditor, Desk.moved, Desk.set_self]
        exact ⟨rfl, rfl⟩
      · rw [Desk.moved, Desk.set_of_ne hEditor]
        exact ⟨rfl, rfl⟩
    apply iff_of_true
    · exact nothingLost_congr (fun editor => (hSame editor).1) (fun editor _ => (hSame editor).2)
        rfl hNothing
    · exact fun base record store hWrites => (hNot base record store hWrites).elim
  · have hUnwritten : (d.editors turn.editor).wrote = false :=
      h.before turn.editor (by rw [hReceived]; rfl)
    apply iff_of_true
    · refine nothingLost_congr (d := d) (fun editor => ?_) (fun editor hWrote => ?_) rfl hNothing
      · by_cases hEditor : editor = turn.editor
        · rw [hEditor, Desk.set_self]
        · rw [Desk.set_of_ne hEditor]
      · have hEditor : editor ≠ turn.editor := by
          rintro rfl
          rw [hUnwritten] at hWrote
          cases hWrote
        rw [Desk.set_of_ne hEditor]
    · intro _ _ _ hWrites
      have hStage := hReceived.symm.trans hWrites.stage
      cases hStage
  · exact h.nothingLost_write hDisjoint hWrites

/-- While writers are informed, nothing is lost; and the first that is not loses something. -/
theorem nothingLost_of_informed
    (hDisjoint : ∀ field, ¬ (R.Sets (changes false) field ∧ R.Sets (changes true) field))
    (h : ReachableWithin (R.system P changes) (R.Informed changes) d) :
    R.Sound changes d ∧ R.NothingLost changes d := by
  apply h.invariant
  · rintro d ⟨hLast, hEditors⟩
    constructor
    · constructor
      · intro editor base record hTaken
        rw [hEditors] at hTaken
        cases hTaken
      · intro editor _
        rw [hEditors]
      · intro editor hStage
        rw [hEditors] at hStage
        cases hStage
      · intro editor hWrote
        rw [hEditors] at hWrote
        cases hWrote
      · intro editor hWrote
        rw [hEditors] at hWrote
        cases hWrote
      · intro latest hSome
        rw [hLast] at hSome
        cases hSome
    · intro hBoth
      have hWrote := hBoth true
      rw [hEditors] at hWrote
      cases hWrote
  · intro d turn d' ⟨hSound, hNothing⟩ hInformed hStep
    exact ⟨hSound.step hStep, (hSound.step_iff hNothing hDisjoint hStep).mpr hInformed⟩

end Record

end Editing
