import VoipSwitch.Lib.Table

/-! Rows that are inserted, or change the row with the same key. -/
namespace Keyed

/-- What a row makes of the row it conflicts with; made a second time it is no change. -/
structure Merge (υ : Type) where
  apply : υ → υ → υ
  self : ∀ row, apply row row = row
  again : ∀ old row, apply (apply old row) row = apply old row

namespace Merge

variable {υ : Type} {m : Merge υ}

/-- What a row makes of the row that is there, if any. -/
def onto (m : Merge υ) : Option υ → υ → Option υ
  | none, row => some row
  | some old, row => some (m.apply old row)

/-- Whatever a row changes, the next one changes. -/
def Overwrites (m : Merge υ) : Prop :=
  ∀ old first last, m.apply (m.apply old first) last = m.apply old last

theorem onto_onto (o : Option υ) (row : υ) : m.onto (m.onto o row) row = m.onto o row := by
  cases o with
  | none => exact congrArg some (m.self row)
  | some old => exact congrArg some (m.again old row)

/-- Of several rows only the last one counts. -/
theorem Overwrites.foldl_onto (h : m.Overwrites) (old row : υ) (rows : List υ) :
    (rows ++ [row]).foldl m.onto (some old) = some (m.apply old row) := by
  induction rows generalizing old with
  | nil => rfl
  | cons first rows ih =>
      rw [List.cons_append, List.foldl_cons, onto, ih, h]

theorem Overwrites.foldl_foldl (h : m.Overwrites) (o : Option υ) (rows : List υ) :
    rows.foldl m.onto (rows.foldl m.onto o) = rows.foldl m.onto o := by
  rcases List.eq_nil_or_concat rows with rfl | ⟨rows, row, rfl⟩
  · rfl
  · rw [List.concat_eq_append]
    have hLast : (rows ++ [row]).foldl m.onto o = m.onto (rows.foldl m.onto o) row := by
      rw [List.foldl_append, List.foldl_cons, List.foldl_nil]
    cases hBefore : rows.foldl m.onto o with
    | none =>
        rw [hBefore, onto] at hLast
        rw [hLast, h.foldl_onto, m.self]
    | some old =>
        rw [hBefore, onto] at hLast
        rw [hLast, h.foldl_onto, m.again]

end Merge

namespace Table

variable {κ υ : Type} [LinearOrder κ] {m : Merge υ} {t u : Table κ υ} {k k' : κ} {row : υ}

/-- `INSERT … ON CONFLICT DO UPDATE`. -/
def upsert (m : Merge υ) (t : Table κ υ) (k : κ) (row : υ) : Table κ υ :=
  match t.get k with
  | none => t.insert k row
  | some old => t.insert k (m.apply old row)

theorem get_upsert_self : (t.upsert m k row).get k = m.onto (t.get k) row := by
  rw [upsert]
  split
  · next hNone => rw [hNone, get_insert_self, Merge.onto]
  · next old hSome => rw [hSome, get_insert_self, Merge.onto]

theorem get_upsert_of_ne (h : k ≠ k') : (t.upsert m k row).get k' = t.get k' := by
  rw [upsert]
  split
  · exact get_insert_of_ne h
  · exact get_insert_of_ne h

theorem upsert_upsert : (t.upsert m k row).upsert m k row = t.upsert m k row := by
  apply ext
  intro k'
  by_cases hSame : k = k'
  · subst hSame
    rw [get_upsert_self, get_upsert_self, Merge.onto_onto]
  · rw [get_upsert_of_ne hSame]

/-- Whether a row changes anything is decided by the row with its key. -/
theorem upsert_eq_self_of_get (h : t.upsert m k row = t) (hSame : u.get k = t.get k) :
    u.upsert m k row = u := by
  apply ext
  intro k'
  by_cases hKey : k = k'
  · subst hKey
    rw [get_upsert_self, hSame, ← get_upsert_self, h]
  · rw [get_upsert_of_ne hKey]

def upsertAll (m : Merge υ) (rows : List (κ × υ)) (t : Table κ υ) : Table κ υ :=
  rows.foldl (fun t entry => t.upsert m entry.1 entry.2) t

/-- The rows with a key. -/
def rowsAt (rows : List (κ × υ)) (k : κ) : List υ :=
  (rows.filter fun entry => entry.1 = k).map Prod.snd

theorem get_upsertAll (rows : List (κ × υ)) (t : Table κ υ) (k : κ) :
    (t.upsertAll m rows).get k = (rowsAt rows k).foldl m.onto (t.get k) := by
  induction rows generalizing t with
  | nil => rfl
  | cons entry rows ih =>
      rw [upsertAll, List.foldl_cons, ← upsertAll, ih]
      by_cases hSame : entry.1 = k
      · subst hSame
        rw [get_upsert_self, rowsAt, rowsAt, List.filter_cons_of_pos (by simp), List.map_cons,
          List.foldl_cons]
      · rw [get_upsert_of_ne hSame, rowsAt, rowsAt, List.filter_cons_of_neg (by simp [hSame])]

theorem get_upsertAll_of_ne {rows : List (κ × υ)} (h : ∀ entry ∈ rows, entry.1 ≠ k) :
    (t.upsertAll m rows).get k = t.get k := by
  have hNone : rowsAt rows k = [] := by
    rw [rowsAt, List.map_eq_nil_iff, List.filter_eq_nil_iff]
    intro entry hMem
    rw [decide_eq_true_eq]
    exact h entry hMem
  rw [get_upsertAll, hNone, List.foldl_nil]

theorem upsertAll_upsertAll (hm : m.Overwrites) (rows : List (κ × υ)) :
    (t.upsertAll m rows).upsertAll m rows = t.upsertAll m rows := by
  apply ext
  intro k
  rw [get_upsertAll, get_upsertAll, hm.foldl_foldl]

theorem upsertAll_eq_self_of_get {rows : List (κ × υ)} (h : t.upsertAll m rows = t)
    (hSame : ∀ entry ∈ rows, u.get entry.1 = t.get entry.1) : u.upsertAll m rows = u := by
  apply ext
  intro k
  by_cases hKey : ∃ entry ∈ rows, entry.1 = k
  · obtain ⟨entry, hMem, rfl⟩ := hKey
    rw [get_upsertAll, hSame entry hMem, ← get_upsertAll, h]
  · exact get_upsertAll_of_ne fun entry hMem hEntry => hKey ⟨entry, hMem, hEntry⟩

end Table

end Keyed
