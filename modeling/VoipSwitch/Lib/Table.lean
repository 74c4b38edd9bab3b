import VoipSwitch.Lib.OrdMap

/-! Hash maps. A table is known by what it holds at each key; its entries are listed in
key order only so that equal tables are the same value. -/
namespace Keyed

structure Table (κ υ : Type) [LinearOrder κ] where
  entries : OrdMap κ υ
  ascending : entries.Ascending
deriving DecidableEq

namespace Table

variable {κ υ : Type} [LinearOrder κ] {t u : Table κ υ} {k k' : κ} {v : υ}

def empty : Table κ υ := ⟨[], .nil⟩

def get (t : Table κ υ) (k : κ) : Option υ := t.entries.lookup k

def contains (t : Table κ υ) (k : κ) : Bool := (t.get k).isSome

def insert (t : Table κ υ) (k : κ) (v : υ) : Table κ υ :=
  ⟨t.entries.insert k v, t.ascending.insert k v⟩

/-- Keep the entries that `p` holds of. -/
def retain (t : Table κ υ) (p : κ → υ → Bool) : Table κ υ :=
  ⟨t.entries.filter fun entry => p entry.1 entry.2, t.ascending.filter _⟩

def mapValues (t : Table κ υ) (f : υ → υ) : Table κ υ :=
  ⟨t.entries.mapValues fun _ => f, t.ascending.mapValues _⟩

def remove (t : Table κ υ) (k : κ) : Table κ υ := t.retain fun k' _ => k' ≠ k

@[ext] theorem ext (h : ∀ k, t.get k = u.get k) : t = u := by
  cases t with
  | mk entries ascending =>
      cases u with
      | mk entries' ascending' =>
          have hEntries : entries = entries' := OrdMap.ext_lookup ascending ascending' h
          subst hEntries
          rfl

@[simp] theorem get_empty : (empty : Table κ υ).get k = none := rfl

theorem get_insert : (t.insert k v).get k' = if k = k' then some v else t.get k' :=
  OrdMap.lookup_insert

@[simp] theorem get_insert_self : (t.insert k v).get k = some v := OrdMap.lookup_insert_self

theorem get_insert_of_ne (h : k ≠ k') : (t.insert k v).get k' = t.get k' := by
  rw [get_insert, if_neg h]

theorem mem_entries : (k, v) ∈ t.entries ↔ t.get k = some v := by
  constructor
  · intro hMem
    exact OrdMap.lookup_of_mem t.ascending hMem
  · intro hGet
    exact OrdMap.mem_of_lookup hGet

@[simp] theorem get_mapValues {f : υ → υ} : (t.mapValues f).get k = (t.get k).map f :=
  OrdMap.lookup_mapValues (f := fun _ => f)

theorem get_retain {p : κ → υ → Bool} : (t.retain p).get k = (t.get k).filter (p k) := by
  have hIff : ∀ v, (t.retain p).get k = some v ↔ (t.get k).filter (p k) = some v := by
    intro v
    rw [← mem_entries, Option.filter_eq_some_iff, ← mem_entries]
    exact List.mem_filter
  cases hGet : (t.get k).filter (p k) with
  | none =>
      cases hRetain : (t.retain p).get k with
      | none => rfl
      | some v =>
          have hSome := (hIff v).mp hRetain
          rw [hGet] at hSome
          cases hSome
  | some v => exact (hIff v).mpr hGet

theorem get_retain_eq_some {p : κ → υ → Bool} :
    (t.retain p).get k = some v ↔ t.get k = some v ∧ p k v = true := by
  rw [get_retain, Option.filter_eq_some_iff]

theorem get_remove : (t.remove k).get k' = if k = k' then none else t.get k' := by
  rw [remove, get_retain]
  by_cases hSame : k = k'
  · subst hSame
    cases t.get k <;> simp [Option.filter]
  · have hOther : k' ≠ k := Ne.symm hSame
    cases t.get k' <;> simp [Option.filter, hSame, hOther]

@[simp] theorem get_remove_self : (t.remove k).get k = none := by
  rw [get_remove, if_pos rfl]

theorem get_remove_of_ne (h : k ≠ k') : (t.remove k).get k' = t.get k' := by
  rw [get_remove, if_neg h]

theorem contains_eq : t.contains k = (t.get k).isSome := rfl

theorem contains_iff : t.contains k = true ↔ ∃ v, t.get k = some v := by
  rw [contains, Option.isSome_iff_exists]

theorem not_contains_iff : t.contains k = false ↔ t.get k = none := by
  rw [contains, Option.isSome_eq_false_iff, Option.isNone_iff_eq_none]

theorem keys_nodup (t : Table κ υ) : (t.entries.map Prod.fst).Nodup := by
  apply t.ascending.imp
  intro a b hLt
  exact ne_of_lt hLt

theorem entries_nodup (t : Table κ υ) : t.entries.Nodup := by
  apply (List.pairwise_map.mp t.ascending).imp
  intro a b hLt hSame
  rw [hSame] at hLt
  exact lt_irrefl _ hLt

theorem remove_insert : (t.insert k v).remove k = t.remove k := by
  ext k' v'
  rw [get_remove, get_remove]
  split
  · rfl
  · next hOther => rw [get_insert_of_ne hOther]

theorem remove_of_none (h : t.get k = none) : t.remove k = t := by
  ext k' v'
  rw [get_remove]
  split
  · next hSame =>
      subst hSame
      rw [h]
  · rfl

/-- An entry and what is left without it. -/
theorem entries_perm_remove (h : t.get k = some v) :
    t.entries.Perm ((k, v) :: (t.remove k).entries) := by
  have hNew : (k, v) ∉ (t.remove k).entries := by
    intro hMem
    have hGet := mem_entries.mp hMem
    rw [get_remove_self] at hGet
    cases hGet
  rw [List.perm_ext_iff_of_nodup t.entries_nodup
    (List.nodup_cons.mpr ⟨hNew, (t.remove k).entries_nodup⟩)]
  rintro ⟨k', v'⟩
  rw [List.mem_cons, mem_entries, mem_entries, get_remove]
  by_cases hSame : k = k'
  · subst hSame
    simp [h, eq_comm]
  · have hOther : (k', v') ≠ (k, v) := by
      intro hPair
      cases hPair
      exact hSame rfl
    simp [hSame, hOther]

theorem length_remove (h : t.get k = some v) :
    (t.remove k).entries.length + 1 = t.entries.length := by
  rw [(entries_perm_remove h).length_eq, List.length_cons]

theorem length_insert_of_none (h : t.get k = none) :
    (t.insert k v).entries.length = t.entries.length + 1 := by
  rw [← length_remove (get_insert_self (t := t) (v := v)), remove_insert, remove_of_none h]

theorem length_insert_of_some {w : υ} (h : t.get k = some w) :
    (t.insert k v).entries.length = t.entries.length := by
  rw [← length_remove (get_insert_self (t := t) (v := v)), remove_insert, length_remove h]

/-- What is kept and what is not make up the whole. -/
theorem length_retain (t : Table κ υ) (p : κ → υ → Bool) :
    (t.retain p).entries.length + (t.entries.filter fun entry => !p entry.1 entry.2).length =
      t.entries.length := by
  have hPerm := List.filter_append_perm (fun entry : κ × υ => p entry.1 entry.2) t.entries
  rw [← hPerm.length_eq, List.length_append]
  rfl

end Table

end Keyed
