import Mathlib.Order.Defs.LinearOrder
import Mathlib.Data.List.Perm.Basic
import Mathlib.Order.Lattice

/-! Finite maps kept as association lists in key order. Iteration visits the keys
in ascending order, so such a list also fixes the order in which a map with
ordered keys is walked. -/
namespace Keyed

/-- A finite map from `κ` to `υ`, its entries in ascending key order. -/
abbrev OrdMap (κ υ : Type) : Type := List (κ × υ)

namespace OrdMap

variable {κ υ : Type} [LinearOrder κ]

def lookup (m : OrdMap κ υ) (k : κ) : Option υ :=
  match m with
  | [] => none
  | (k', v) :: rest => if k' = k then some v else lookup rest k

def contains (m : OrdMap κ υ) (k : κ) : Bool := (m.lookup k).isSome

/-- Write `v` at `k`, replacing an entry that is already there. -/
def insert (m : OrdMap κ υ) (k : κ) (v : υ) : OrdMap κ υ :=
  match m with
  | [] => [(k, v)]
  | (k', v') :: rest =>
    if k' = k then (k, v) :: rest
    else if k < k' then (k, v) :: (k', v') :: rest
    else (k', v') :: insert rest k v

def erase (m : OrdMap κ υ) (k : κ) : OrdMap κ υ :=
  match m with
  | [] => []
  | (k', v) :: rest => if k' = k then rest else (k', v) :: erase rest k

/-- Update the entry at `k` in place, if there is one. -/
def adjust (m : OrdMap κ υ) (k : κ) (f : υ → υ) : OrdMap κ υ :=
  match m with
  | [] => []
  | (k', v) :: rest => if k' = k then (k', f v) :: rest else (k', v) :: adjust rest k f

/-- Update every entry in place. -/
def mapValues (m : OrdMap κ υ) (f : κ → υ → υ) : OrdMap κ υ :=
  m.map fun entry => (entry.1, f entry.1 entry.2)

def keys (m : OrdMap κ υ) : List κ := m.map Prod.fst

def values (m : OrdMap κ υ) : List υ := m.map Prod.snd

variable {m : OrdMap κ υ} {k k' : κ} {v : υ}

theorem contains_of_lookup (h : m.lookup k = some v) : m.contains k = true := by
  rw [contains, h, Option.isSome_some]

theorem lookup_eq_none_of_not_contains (h : ¬ m.contains k = true) : m.lookup k = none := by
  rwa [contains, Bool.not_eq_true, Option.isSome_eq_false_iff, Option.isNone_iff_eq_none] at h

@[simp] theorem lookup_nil : lookup ([] : OrdMap κ υ) k = none := rfl

theorem lookup_insert :
    (m.insert k v).lookup k' = if k = k' then some v else m.lookup k' := by
  induction m with
  | nil => simp [insert, lookup]
  | cons entry rest ih =>
      simp only [insert]
      split
      · next hHead =>
          subst hHead
          by_cases hKey : entry.1 = k' <;> simp [lookup, hKey]
      · split
        · simp [lookup]
        · next hHead _ =>
            by_cases hKey : entry.1 = k'
            · have hOther : k ≠ k' := fun hEq => hHead (hKey.trans hEq.symm)
              simp [lookup, hKey, hOther]
            · simp [lookup, hKey, ih]

@[simp] theorem lookup_insert_self : (m.insert k v).lookup k = some v := by
  simp [lookup_insert]

theorem lookup_adjust {f : υ → υ} :
    (m.adjust k f).lookup k' = if k = k' then (m.lookup k).map f else m.lookup k' := by
  induction m with
  | nil => simp [adjust, lookup]
  | cons entry rest ih =>
      by_cases hHead : entry.1 = k
      · by_cases hKey : k = k' <;> simp [adjust, lookup, hHead, hKey]
      · by_cases hKey : k = k'
        · subst hKey
          simp [adjust, lookup, hHead, ih]
        · simp [adjust, lookup, hHead, hKey, ih]

theorem lookup_adjust_self {f : υ → υ} (h : m.lookup k = some v) :
    (m.adjust k f).lookup k = some (f v) := by
  rw [lookup_adjust, if_pos rfl, h, Option.map_some]

theorem lookup_mapValues {f : κ → υ → υ} :
    (m.mapValues f).lookup k = (m.lookup k).map (f k) := by
  induction m with
  | nil => rfl
  | cons entry rest ih =>
      by_cases hKey : entry.1 = k
      · simp [mapValues, lookup, hKey]
      · simpa [mapValues, lookup, hKey] using ih

/-- The keys stand in ascending order, each of them once. -/
def Ascending (m : OrdMap κ υ) : Prop := m.keys.Pairwise (· < ·)

theorem Ascending.nil : Ascending ([] : OrdMap κ υ) := List.Pairwise.nil

theorem Ascending.filter (h : m.Ascending) (p : κ × υ → Bool) :
    Ascending (m.filter p : OrdMap κ υ) :=
  List.Pairwise.sublist ((List.filter_sublist (p := p) (l := m)).map Prod.fst) h

theorem mem_keys_insert (h : k' ∈ (m.insert k v).keys) : k' = k ∨ k' ∈ m.keys := by
  induction m with
  | nil => exact .inl (List.mem_singleton.mp h)
  | cons entry rest ih =>
      simp only [insert] at h
      split at h
      · rcases List.mem_cons.mp h with hHead | hRest
        · exact .inl hHead
        · exact .inr (.tail _ hRest)
      · split at h
        · rcases List.mem_cons.mp h with hHead | hRest
          · exact .inl hHead
          · exact .inr hRest
        · rcases List.mem_cons.mp h with hHead | hRest
          · rw [hHead]
            exact .inr (.head _)
          · rcases ih hRest with hNew | hOld
            · exact .inl hNew
            · exact .inr (.tail _ hOld)

theorem Ascending.insert (h : m.Ascending) (k : κ) (v : υ) : (m.insert k v).Ascending := by
  induction m with
  | nil => exact List.pairwise_singleton _ _
  | cons entry rest ih =>
      have hParts : (∀ key ∈ keys rest, entry.1 < key) ∧ Ascending rest := List.pairwise_cons.mp h
      simp only [OrdMap.insert]
      split
      · next hHead =>
          rw [hHead] at hParts
          exact List.pairwise_cons.mpr hParts
      · split
        · next hLess =>
            refine List.pairwise_cons.mpr ⟨?_, h⟩
            intro key hMem
            rcases List.mem_cons.mp hMem with rfl | hRest
            · exact hLess
            · exact lt_trans hLess (hParts.1 key hRest)
        · next hOther hNotLess =>
            refine List.pairwise_cons.mpr ⟨?_, ih hParts.2⟩
            intro key hMem
            rcases mem_keys_insert hMem with rfl | hOld
            · exact lt_of_le_of_ne (not_lt.mp hNotLess) hOther
            · exact hParts.1 key hOld

/-- An update that leaves the entry as it is leaves the map as it is. -/
theorem adjust_eq_self {f : υ → υ} (h : m.lookup k = some v) (hf : f v = v) :
    m.adjust k f = m := by
  induction m with
  | nil => rfl
  | cons entry rest ih =>
      rw [lookup] at h
      rw [adjust]
      split
      · next hHead =>
          rw [if_pos hHead, Option.some.injEq] at h
          rw [h, hf, ← h]
      · next hHead =>
          rw [if_neg hHead] at h
          rw [ih h]

theorem keys_adjust {f : υ → υ} : (m.adjust k f).keys = m.keys := by
  induction m with
  | nil => rfl
  | cons entry rest ih =>
      simp only [adjust]
      split
      · rfl
      · exact congrArg (entry.1 :: ·) ih

theorem Ascending.adjust (h : m.Ascending) (k : κ) (f : υ → υ) : (m.adjust k f).Ascending := by
  rw [Ascending, keys_adjust]
  exact h

theorem lookup_eq_none (h : k ∉ m.keys) : m.lookup k = none := by
  induction m with
  | nil => rfl
  | cons entry rest ih =>
      have hOther : entry.1 ≠ k := fun hSame => h (hSame ▸ .head _)
      rw [lookup, if_neg hOther]
      exact ih fun hMem => h (.tail _ hMem)

theorem lookup_of_mem (h : m.Ascending) {entry : κ × υ} (hMem : entry ∈ m) :
    m.lookup entry.1 = some entry.2 := by
  induction m with
  | nil => exact (List.not_mem_nil hMem).elim
  | cons head rest ih =>
      have hParts : (∀ key ∈ keys rest, head.1 < key) ∧ Ascending rest := List.pairwise_cons.mp h
      rcases List.mem_cons.mp hMem with rfl | hRest
      · rw [lookup, if_pos rfl]
      · have hLess := hParts.1 entry.1 (List.mem_map_of_mem hRest)
        rw [lookup, if_neg (ne_of_lt hLess)]
        exact ih hParts.2 hRest

theorem Ascending.erase (h : m.Ascending) (k : κ) : (m.erase k).Ascending := by
  have hSub : (m.erase k).Sublist m := by
    clear h
    induction m with
    | nil => exact .slnil
    | cons entry rest ih =>
        rw [OrdMap.erase]
        split
        · exact .cons _ (.refl _)
        · exact ih.cons_cons _
  exact List.Pairwise.sublist (hSub.map Prod.fst) h

theorem lookup_erase (h : m.Ascending) :
    (m.erase k).lookup k' = if k = k' then none else m.lookup k' := by
  induction m with
  | nil => simp [erase]
  | cons entry rest ih =>
      have hParts : (∀ key ∈ keys rest, entry.1 < key) ∧ Ascending rest := List.pairwise_cons.mp h
      by_cases hHead : entry.1 = k
      · subst hHead
        rw [erase, if_pos rfl]
        by_cases hKey : entry.1 = k'
        · subst hKey
          rw [if_pos rfl]
          exact lookup_eq_none fun hMem => lt_irrefl _ (hParts.1 _ hMem)
        · rw [if_neg hKey, lookup, if_neg hKey]
      · rw [erase, if_neg hHead]
        by_cases hKey : entry.1 = k'
        · subst hKey
          rw [lookup, if_pos rfl, if_neg (Ne.symm hHead), lookup, if_pos rfl]
        · rw [lookup, if_neg hKey, ih hParts.2, lookup, if_neg hKey]

theorem mem_of_lookup (h : m.lookup k = some v) : (k, v) ∈ m := by
  induction m with
  | nil => simp at h
  | cons head rest ih =>
      rw [lookup] at h
      split at h
      · next hKey =>
          obtain rfl := Option.some.inj h
          rw [← hKey]
          exact .head _
      · exact .tail _ (ih h)

theorem mem_keys_of_lookup (h : m.lookup k = some v) : k ∈ m.keys :=
  List.mem_map_of_mem (mem_of_lookup h)

omit [LinearOrder κ] in
@[simp] theorem keys_cons {head : κ × υ} {rest : OrdMap κ υ} :
    keys (head :: rest) = head.1 :: keys rest := rfl

theorem mem_keys_iff : k ∈ m.keys ↔ ∃ v, m.lookup k = some v := by
  constructor
  · intro hMem
    cases hLookup : m.lookup k with
    | some v => exact ⟨v, rfl⟩
    | none =>
        exfalso
        induction m with
        | nil => cases hMem
        | cons head rest ih =>
            rw [lookup] at hLookup
            split at hLookup
            · cases hLookup
            · next hHead =>
                rcases List.mem_cons.mp hMem with hSame | hRest
                · exact hHead hSame.symm
                · exact ih hRest hLookup
  · rintro ⟨v, h⟩
    exact mem_keys_of_lookup h

theorem keys_erase : (m.erase k).keys = m.keys.erase k := by
  induction m with
  | nil => rfl
  | cons head rest ih =>
      rw [erase, keys_cons]
      split
      · next hHead => rw [hHead, List.erase_cons_head]
      · next hHead =>
          have hOther : ¬ (head.1 == k) = true := by simp [hHead]
          rw [List.erase_cons_tail hOther, keys_cons, ih]

theorem keys_insert_of_mem (h : m.Ascending) (hMem : k ∈ m.keys) :
    (m.insert k v).keys = m.keys := by
  induction m with
  | nil => cases hMem
  | cons head rest ih =>
      have hParts : (∀ key ∈ keys rest, head.1 < key) ∧ Ascending rest := List.pairwise_cons.mp h
      rw [insert]
      split
      · next hHead => rw [keys_cons, keys_cons, hHead]
      · next hHead =>
          have hRest : k ∈ keys rest := by
            rcases List.mem_cons.mp hMem with hSame | hRest
            · exact absurd hSame.symm hHead
            · exact hRest
          rw [if_neg (lt_asymm (hParts.1 k hRest)), keys_cons, keys_cons, ih hParts.2 hRest]

theorem keys_insert_perm (hNew : k ∉ m.keys) : (m.insert k v).keys.Perm (k :: m.keys) := by
  induction m with
  | nil => exact .refl _
  | cons head rest ih =>
      have hHead : head.1 ≠ k := fun hSame => hNew (hSame ▸ .head _)
      rw [insert, if_neg hHead]
      split
      · exact .refl _
      · have hRest := ih fun hMem => hNew (.tail _ hMem)
        exact (hRest.cons head.1).trans (.swap _ _ _)

/-- A new entry that is passed over leaves what is taken from the entries. -/
theorem filterMap_insert {β : Type} {f : κ × υ → Option β} (hNew : m.lookup k = none)
    (hNone : f (k, v) = none) : (m.insert k v).filterMap f = m.filterMap f := by
  induction m with
  | nil => simp [insert, hNone]
  | cons entry rest ih =>
      rw [lookup] at hNew
      by_cases hHead : entry.1 = k
      · rw [if_pos hHead] at hNew
        exact absurd hNew (by simp)
      · rw [if_neg hHead] at hNew
        simp only [insert, if_neg hHead]
        split
        · rw [List.filterMap_cons_none hNone]
        · rw [List.filterMap_cons, List.filterMap_cons, ih hNew]

theorem filterMap_adjust {β : Type} {f : κ × υ → Option β} {g : υ → υ}
    (hSame : ∀ v, m.lookup k = some v → f (k, g v) = f (k, v)) :
    (m.adjust k g).filterMap f = m.filterMap f := by
  induction m with
  | nil => rfl
  | cons entry rest ih =>
      rw [lookup] at hSame
      by_cases hHead : entry.1 = k
      · rw [if_pos hHead] at hSame
        have hEntry := hSame entry.2 rfl
        simp only [adjust, if_pos hHead, List.filterMap_cons]
        rw [← hHead] at hEntry
        rw [hEntry]
      · rw [if_neg hHead] at hSame
        simp only [adjust, if_neg hHead, List.filterMap_cons]
        rw [ih hSame]

/-- Maps that agree everywhere are the same list. -/
theorem ext_lookup {n : OrdMap κ υ} (hm : m.Ascending) (hn : n.Ascending)
    (h : ∀ k, m.lookup k = n.lookup k) : m = n := by
  induction m generalizing n with
  | nil =>
      cases n with
      | nil => rfl
      | cons head rest =>
          have hHead := h head.1
          rw [lookup_nil, lookup, if_pos rfl] at hHead
          cases hHead
  | cons head rest ih =>
      cases n with
      | nil =>
          have hHead := h head.1
          rw [lookup_nil, lookup, if_pos rfl] at hHead
          cases hHead
      | cons head' rest' =>
          have hParts : (∀ key ∈ keys rest, head.1 < key) ∧ Ascending rest :=
            List.pairwise_cons.mp hm
          have hParts' : (∀ key ∈ keys rest', head'.1 < key) ∧ Ascending rest' :=
            List.pairwise_cons.mp hn
          have hKeys : head.1 = head'.1 := by
            by_contra hOther
            rcases lt_or_gt_of_ne hOther with hLess | hLess
            · have hHead := h head.1
              rw [lookup, if_pos rfl, lookup, if_neg (Ne.symm hOther), lookup_eq_none] at hHead
              · cases hHead
              · exact fun hMem => lt_asymm hLess (hParts'.1 _ hMem)
            · have hHead := h head'.1
              rw [lookup, if_neg hOther, lookup, if_pos rfl, lookup_eq_none] at hHead
              · cases hHead
              · exact fun hMem => lt_asymm hLess (hParts.1 _ hMem)
          have hValues : head.2 = head'.2 := by
            have hHead := h head.1
            rw [lookup, if_pos rfl, lookup, if_pos hKeys.symm] at hHead
            exact Option.some.inj hHead
          have hRest : rest = rest' := by
            apply ih hParts.2 hParts'.2
            intro k
            by_cases hKey : head.1 = k
            · rw [lookup_eq_none, lookup_eq_none]
              · exact fun hMem => lt_irrefl _ (hKey ▸ hKeys ▸ hParts'.1 k hMem)
              · exact fun hMem => lt_irrefl _ (hKey ▸ hParts.1 k hMem)
            · have hLater := h k
              rwa [lookup, if_neg hKey, lookup, if_neg (hKeys ▸ hKey)] at hLater
          rw [hRest, Prod.ext hKeys hValues]

theorem Ascending.mapValues (h : m.Ascending) (f : κ → υ → υ) : (m.mapValues f).Ascending := by
  rw [Ascending, keys, OrdMap.mapValues, List.map_map]
  exact h

/-- A key above all others goes to the end. -/
theorem insert_of_gt (h : ∀ key ∈ m.keys, key < k) (v : υ) : m.insert k v = m ++ [(k, v)] := by
  induction m with
  | nil => rfl
  | cons head rest ih =>
      have hHead : head.1 < k := h head.1 (.head _)
      rw [insert, if_neg (ne_of_lt hHead), if_neg (not_lt_of_gt hHead),
        ih fun key hMem => h key (.tail _ hMem), List.cons_append]

/-- The last entry is replaced in place. -/
theorem insert_last {first : OrdMap κ υ} {old : υ} (h : Ascending (first ++ [(k, old)])) (v : υ) :
    insert (first ++ [(k, old)]) k v = first ++ [(k, v)] := by
  induction first with
  | nil => rw [List.nil_append, insert, if_pos rfl, List.nil_append]
  | cons head rest ih =>
      have hParts : (∀ key ∈ keys (rest ++ [(k, old)]), head.1 < key) ∧
          Ascending (rest ++ [(k, old)]) := List.pairwise_cons.mp h
      have hHead : head.1 < k := hParts.1 k (List.mem_map_of_mem (a := (k, old)) (by simp))
      rw [List.cons_append, insert, if_neg (ne_of_lt hHead), if_neg (not_lt_of_gt hHead),
        ih hParts.2, List.cons_append]

/-- Every entry of a map is still there later, in a form that `R` relates to it. -/
def Persists (R : υ → υ → Prop) (m next : OrdMap κ υ) : Prop :=
  ∀ k v, m.lookup k = some v → ∃ v', next.lookup k = some v' ∧ R v v'

namespace Persists

variable {R : υ → υ → Prop} {next last : OrdMap κ υ}

theorem refl (hR : ∀ v, R v v) (m : OrdMap κ υ) : Persists R m m := fun _ v h => ⟨v, h, hR v⟩

theorem trans (hR : ∀ u v w, R u v → R v w → R u w) (first : Persists R m next)
    (second : Persists R next last) : Persists R m last := by
  intro k u hU
  obtain ⟨v, hV, hFirst⟩ := first k u hU
  obtain ⟨w, hW, hSecond⟩ := second k v hV
  exact ⟨w, hW, hR u v w hFirst hSecond⟩

theorem insert (hR : ∀ v, R v v) (hFree : m.lookup k = none) (v : υ) :
    Persists R m (m.insert k v) := by
  intro k' v' h
  have hOther : k ≠ k' := by
    intro hSame
    rw [← hSame, hFree] at h
    cases h
  exact ⟨v', by rw [lookup_insert, if_neg hOther, h], hR v'⟩

theorem adjust (hR : ∀ v, R v v) {f : υ → υ} (hf : ∀ v, m.lookup k = some v → R v (f v)) :
    Persists R m (m.adjust k f) := by
  intro k' v h
  by_cases hKey : k = k'
  · subst hKey
    exact ⟨f v, lookup_adjust_self h, hf v h⟩
  · exact ⟨v, by rw [lookup_adjust, if_neg hKey, h], hR v⟩

theorem mapValues {f : κ → υ → υ} (hf : ∀ k v, R v (f k v)) : Persists R m (m.mapValues f) := by
  intro k v h
  exact ⟨f k v, by rw [lookup_mapValues, h, Option.map_some], hf k v⟩

/-- The keys of a map whose entries persist stay keys. -/
theorem contains (h : Persists R m next) (hKey : m.contains k = true) :
    next.contains k = true := by
  obtain ⟨v, hv⟩ := Option.isSome_iff_exists.mp hKey
  obtain ⟨v', hv', -⟩ := h k v hv
  exact contains_of_lookup hv'

end Persists

end OrdMap

end Keyed
