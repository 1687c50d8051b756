/-
PyWebTransport.Lib.OrderedMap — finite maps kept as strictly sorted
association lists.

The maps of the modelled program are hash maps whose iteration order is
never observed: wherever an order matters the code collects the keys and
sorts them first. A strictly sorted association list is the canonical
form of such a map. The sortedness proof is a FIELD of the structure, so
a map with two entries for one key, or with its keys out of order, cannot
be built; and because the form is canonical, two maps with the same
lookups are EQUAL (`OrderedMap.ext_get?`).

Two families of lemmas are provided, and nothing else is needed of a map:

* lookups through the operations (`get?_insert`, `get?_erase`,
  `get?_filter`, `get?_map`), all `@[simp]`-ready equations;
* permutations of the value list (`values_insert_perm`,
  `values_erase_perm`), and from them the accounting equations for a map
  whose values each hold a list of items (`count_insert`,
  `count_insert_new`, `count_erase`).
-/
import Mathlib.Data.List.Perm.Basic
import Mathlib.Data.List.Pairwise
import Mathlib.Order.Lattice
import Mathlib.Data.List.Basic

namespace PyWebTransport.Lib

universe u v w

/-- A finite map: entries in strictly increasing key order. -/
structure OrderedMap (κ : Type u) (α : Type v) [LinearOrder κ] where
  entries : List (κ × α)
  sorted : (entries.map Prod.fst).Pairwise (· < ·)

namespace OrderedMap

variable {κ : Type u} {α : Type v} {β : Type w} [LinearOrder κ] {k j : κ} {m : OrderedMap κ α}
  {v old : α}

/-! ## Raw entry lists -/

/-- The value stored for `k`, scanning from the front. -/
def lookupEntry (k : κ) : List (κ × α) → Option α
  | [] => none
  | e :: rest => if e.1 = k then some e.2 else lookupEntry k rest

/-- Insert or overwrite, keeping the order. -/
def insertEntry (k : κ) (v : α) : List (κ × α) → List (κ × α)
  | [] => [(k, v)]
  | e :: rest =>
    if k < e.1 then (k, v) :: e :: rest
    else if k = e.1 then (k, v) :: rest
    else e :: insertEntry k v rest

theorem lookupEntry_insertEntry (k : κ) (v : α) (j : κ) : ∀ l : List (κ × α),
    lookupEntry j (insertEntry k v l) = if k = j then some v else lookupEntry j l
  | [] => by simp [insertEntry, lookupEntry]
  | e :: rest => by
      simp only [insertEntry]
      split
      · simp [lookupEntry]
      · split
        · rename_i hk
          subst hk
          by_cases hj : e.1 = j <;> simp [lookupEntry, hj]
        · rename_i hne
          simp only [lookupEntry, lookupEntry_insertEntry k v j rest]
          by_cases hj : e.1 = j
          · have : k ≠ j := fun h => hne (h.trans hj.symm)
            simp [hj, this]
          · simp [hj]

theorem mem_keys_insertEntry (k : κ) (v : α) (j : κ) : ∀ l : List (κ × α),
    j ∈ (insertEntry k v l).map Prod.fst → j = k ∨ j ∈ l.map Prod.fst
  | [], h => by simpa [insertEntry] using h
  | e :: rest, h => by
      simp only [insertEntry] at h
      split at h
      · simpa using h
      · split at h
        · rename_i hk
          subst hk
          simpa using h
        · simp only [List.map_cons, List.mem_cons] at h ⊢
          rcases h with h | h
          · exact Or.inr (Or.inl h)
          · rcases mem_keys_insertEntry k v j rest h with h' | h'
            · exact Or.inl h'
            · exact Or.inr (Or.inr h')

theorem sorted_insertEntry (k : κ) (v : α) : ∀ l : List (κ × α),
    (l.map Prod.fst).Pairwise (· < ·) →
    ((insertEntry k v l).map Prod.fst).Pairwise (· < ·)
  | [], _ => by simp [insertEntry]
  | e :: rest, h => by
      have hhead : ∀ j ∈ rest.map Prod.fst, e.1 < j := (List.pairwise_cons.mp h).1
      have htail := (List.pairwise_cons.mp h).2
      simp only [insertEntry]
      split
      · rename_i hlt
        refine List.pairwise_cons.mpr ⟨fun j hj => ?_, h⟩
        rcases List.mem_cons.mp hj with rfl | hj
        · exact hlt
        · exact lt_trans hlt (hhead j hj)
      · split
        · rename_i hk
          subst hk
          exact List.pairwise_cons.mpr ⟨hhead, htail⟩
        · rename_i hnlt hne
          have hgt : e.1 < k := lt_of_le_of_ne (not_lt.mp hnlt) (Ne.symm hne)
          refine List.pairwise_cons.mpr ⟨fun j hj => ?_, sorted_insertEntry k v rest htail⟩
          rcases mem_keys_insertEntry k v j rest hj with rfl | hj'
          · exact hgt
          · exact hhead j hj'

theorem lookupEntry_eq_none (k : κ) : ∀ l : List (κ × α),
    k ∉ l.map Prod.fst → lookupEntry k l = none
  | [], _ => rfl
  | e :: rest, h => by
      simp only [List.map_cons, List.mem_cons, not_or] at h
      simp [lookupEntry, Ne.symm h.1, lookupEntry_eq_none k rest h.2]

theorem mem_of_lookupEntry (k : κ) (v : α) : ∀ l : List (κ × α),
    lookupEntry k l = some v → (k, v) ∈ l
  | [], h => by simp [lookupEntry] at h
  | e :: rest, h => by
      simp only [lookupEntry] at h
      split at h
      · rename_i hk
        cases h
        subst hk
        exact List.mem_cons_self
      · exact List.mem_cons_of_mem _ (mem_of_lookupEntry k v rest h)

theorem lookupEntry_of_mem (k : κ) (v : α) : ∀ l : List (κ × α),
    (l.map Prod.fst).Pairwise (· < ·) → (k, v) ∈ l → lookupEntry k l = some v
  | [], _, h => by simp at h
  | e :: rest, hs, h => by
      have hhead : ∀ j ∈ rest.map Prod.fst, e.1 < j := (List.pairwise_cons.mp hs).1
      rcases List.mem_cons.mp h with rfl | h
      · simp [lookupEntry]
      · have hlt : e.1 < k := hhead k (List.mem_map.mpr ⟨(k, v), h, rfl⟩)
        simp [lookupEntry, ne_of_lt hlt,
          lookupEntry_of_mem k v rest (List.pairwise_cons.mp hs).2 h]

theorem lookupEntry_filter (p : κ × α → Bool) (k : κ) : ∀ l : List (κ × α),
    (l.map Prod.fst).Pairwise (· < ·) →
    lookupEntry k (l.filter p) = (lookupEntry k l).filter (fun v => p (k, v))
  | [], _ => rfl
  | e :: rest, hs => by
      have hhead : ∀ j ∈ rest.map Prod.fst, e.1 < j := (List.pairwise_cons.mp hs).1
      have ih := lookupEntry_filter p k rest (List.pairwise_cons.mp hs).2
      by_cases hk : e.1 = k
      · subst hk
        have hnot : e.1 ∉ rest.map Prod.fst := fun h => lt_irrefl _ (hhead _ h)
        rw [lookupEntry_eq_none _ _ hnot] at ih
        cases hp : p e
        · simp [hp, lookupEntry, ih, Option.filter]
        · simp [hp, lookupEntry, Option.filter]
      · cases hp : p e
        · simp [hp, lookupEntry, hk, ih]
        · simp [hp, lookupEntry, hk, ih]

theorem sorted_filter (p : κ × α → Bool) (l : List (κ × α))
    (h : (l.map Prod.fst).Pairwise (· < ·)) :
    ((l.filter p).map Prod.fst).Pairwise (· < ·) :=
  h.sublist (List.filter_sublist.map _)

/-! ## The map operations -/

/-- The empty map. -/
def empty : OrderedMap κ α := ⟨[], List.Pairwise.nil⟩

instance : EmptyCollection (OrderedMap κ α) := ⟨empty⟩

instance : Inhabited (OrderedMap κ α) := ⟨empty⟩

/-- The value stored for `k`. -/
def get? (m : OrderedMap κ α) (k : κ) : Option α := lookupEntry k m.entries

/-- Whether `k` has a value. -/
def contains (m : OrderedMap κ α) (k : κ) : Bool := (m.get? k).isSome

/-- Store `v` for `k`, overwriting. -/
def insert (m : OrderedMap κ α) (k : κ) (v : α) : OrderedMap κ α :=
  ⟨insertEntry k v m.entries, sorted_insertEntry k v m.entries m.sorted⟩

/-- Keep the entries that satisfy `p`. -/
def filter (m : OrderedMap κ α) (p : κ → α → Bool) : OrderedMap κ α :=
  ⟨m.entries.filter (fun e => p e.1 e.2), sorted_filter _ m.entries m.sorted⟩

/-- Remove the entry of `k`, if there is one. -/
def erase (m : OrderedMap κ α) (k : κ) : OrderedMap κ α :=
  m.filter (fun j _ => j ≠ k)

/-- Apply `f` to every value. -/
def map (m : OrderedMap κ α) (f : α → β) : OrderedMap κ β :=
  ⟨m.entries.map (fun e => (e.1, f e.2)), by
    have h : (m.entries.map (fun e => (e.1, f e.2))).map Prod.fst = m.entries.map Prod.fst := by
      simp [List.map_map, Function.comp_def]
    rw [h]
    exact m.sorted⟩

/-- The keys, in increasing order. -/
def keys (m : OrderedMap κ α) : List κ := m.entries.map Prod.fst

/-- The values, in key order. -/
def values (m : OrderedMap κ α) : List α := m.entries.map Prod.snd

/-- The number of entries. -/
def size (m : OrderedMap κ α) : Nat := m.entries.length

/-! ## Lookups through the operations -/

@[simp] theorem get?_empty (k : κ) : (∅ : OrderedMap κ α).get? k = none := rfl

theorem get?_insert (m : OrderedMap κ α) (k : κ) (v : α) (j : κ) :
    (m.insert k v).get? j = if k = j then some v else m.get? j :=
  lookupEntry_insertEntry k v j m.entries

@[simp] theorem get?_insert_self (m : OrderedMap κ α) (k : κ) (v : α) :
    (m.insert k v).get? k = some v := by
  simp [get?_insert]

theorem get?_insert_of_ne (m : OrderedMap κ α) (v : α) (h : k ≠ j) :
    (m.insert k v).get? j = m.get? j := by
  simp [get?_insert, h]

theorem get?_filter (m : OrderedMap κ α) (p : κ → α → Bool) (k : κ) :
    (m.filter p).get? k = (m.get? k).filter (p k) :=
  lookupEntry_filter (fun e => p e.1 e.2) k m.entries m.sorted

theorem get?_erase (m : OrderedMap κ α) (k j : κ) :
    (m.erase k).get? j = if k = j then none else m.get? j := by
  rw [erase, get?_filter]
  by_cases h : k = j
  · subst h
    cases m.get? k <;> simp
  · cases m.get? j <;> simp [h, Ne.symm h]

@[simp] theorem get?_erase_self (m : OrderedMap κ α) (k : κ) : (m.erase k).get? k = none := by
  simp [get?_erase]

theorem get?_erase_of_ne (m : OrderedMap κ α) (h : k ≠ j) : (m.erase k).get? j = m.get? j := by
  simp [get?_erase, h]

/-- What is left after an erasure was there before, under another key. -/
theorem get?_erase_some (h : (m.erase k).get? j = some v) : j ≠ k ∧ m.get? j = some v := by
  rw [get?_erase] at h
  split at h
  · cases h
  · rename_i hne
    exact ⟨Ne.symm hne, h⟩

/-- What is there after an insertion is the new entry or an old one. -/
theorem get?_insert_some {w : α} (h : (m.insert k v).get? j = some w) :
    j = k ∧ w = v ∨ j ≠ k ∧ m.get? j = some w := by
  rw [get?_insert] at h
  split at h
  · rename_i heq
    cases h
    exact Or.inl ⟨heq.symm, rfl⟩
  · rename_i hne
    exact Or.inr ⟨Ne.symm hne, h⟩

@[simp] theorem get?_map (m : OrderedMap κ α) (f : α → β) (k : κ) :
    (m.map f).get? k = (m.get? k).map f := by
  obtain ⟨l, hl⟩ := m
  show lookupEntry k (l.map fun e => (e.1, f e.2)) = (lookupEntry k l).map f
  clear hl
  induction l with
  | nil => rfl
  | cons e rest ih =>
    simp only [List.map_cons, lookupEntry]
    by_cases h : e.1 = k
    · simp [h]
    · simpa [h] using ih

@[simp] theorem contains_eq_true (m : OrderedMap κ α) (k : κ) :
    m.contains k = true ↔ ∃ v, m.get? k = some v := by
  rw [contains, Option.isSome_iff_exists]

@[simp] theorem contains_eq_false (m : OrderedMap κ α) (k : κ) :
    m.contains k = false ↔ m.get? k = none := by
  rw [contains, Option.isSome_eq_false_iff, Option.isNone_iff_eq_none]

theorem contains_insert_self (m : OrderedMap κ α) (k : κ) (v : α) :
    (m.insert k v).contains k = true := by
  rw [contains, get?_insert_self, Option.isSome_some]

/-! ## Keys and entries -/

theorem mem_entries (m : OrderedMap κ α) (k : κ) (v : α) : (k, v) ∈ m.entries ↔ m.get? k = some v :=
  ⟨lookupEntry_of_mem k v m.entries m.sorted, mem_of_lookupEntry k v m.entries⟩

theorem mem_keys (m : OrderedMap κ α) (k : κ) : k ∈ m.keys ↔ ∃ v, m.get? k = some v := by
  constructor
  · intro h
    obtain ⟨⟨j, v⟩, he, rfl⟩ := List.mem_map.mp h
    exact ⟨v, (m.mem_entries j v).mp he⟩
  · rintro ⟨v, hv⟩
    exact List.mem_map.mpr ⟨(k, v), (m.mem_entries k v).mpr hv, rfl⟩

theorem mem_values (m : OrderedMap κ α) (v : α) : v ∈ m.values ↔ ∃ k, m.get? k = some v := by
  constructor
  · intro h
    obtain ⟨⟨k, w⟩, he, rfl⟩ := List.mem_map.mp h
    exact ⟨k, (m.mem_entries k w).mp he⟩
  · rintro ⟨k, hk⟩
    exact List.mem_map.mpr ⟨(k, v), (m.mem_entries k v).mpr hk, rfl⟩

@[simp] theorem values_empty : (∅ : OrderedMap κ α).values = [] := rfl

/-! ## Permutations of the value list -/

theorem filter_ne_of_lt (k : κ) (l : List (κ × α)) (h : ∀ j ∈ l.map Prod.fst, k < j) :
    l.filter (fun e => decide (e.1 ≠ k)) = l := by
  refine List.filter_eq_self.mpr (fun x hx => ?_)
  have := h x.1 (List.mem_map.mpr ⟨x, hx, rfl⟩)
  simpa using (ne_of_lt this).symm

theorem insertEntry_perm (k : κ) (v : α) : ∀ l : List (κ × α),
    (l.map Prod.fst).Pairwise (· < ·) →
    (insertEntry k v l).Perm ((k, v) :: l.filter (fun e => decide (e.1 ≠ k)))
  | [], _ => by simp [insertEntry]
  | e :: rest, hs => by
      have hhead : ∀ j ∈ rest.map Prod.fst, e.1 < j := (List.pairwise_cons.mp hs).1
      have htail := (List.pairwise_cons.mp hs).2
      simp only [insertEntry]
      split
      · rename_i hlt
        rw [filter_ne_of_lt k (e :: rest) (fun i hi => ?_)]
        rcases List.mem_cons.mp hi with rfl | hi
        · exact hlt
        · exact lt_trans hlt (hhead i hi)
      · split
        · rename_i hk
          subst hk
          rw [List.filter_cons_of_neg (by simp), filter_ne_of_lt e.1 rest hhead]
        · rename_i hne
          have := insertEntry_perm k v rest htail
          simp only [List.filter_cons, ne_eq, Ne.symm hne, not_false_eq_true, decide_true,
            if_true]
          exact (this.cons e).trans (List.Perm.swap _ _ _)

/-- Writing `v` at `k` puts `v` in front of the values of the other keys. -/
theorem values_insert_perm (m : OrderedMap κ α) (k : κ) (v : α) :
    (m.insert k v).values.Perm (v :: (m.erase k).values) := by
  have h := (insertEntry_perm k v m.entries m.sorted).map Prod.snd
  simpa [values, insert, erase, filter] using h

theorem erase_perm_of_lookupEntry (k : κ) (v : α) : ∀ l : List (κ × α),
    (l.map Prod.fst).Pairwise (· < ·) → lookupEntry k l = some v →
    l.Perm ((k, v) :: l.filter (fun e => decide (e.1 ≠ k)))
  | [], _, h => by simp [lookupEntry] at h
  | e :: rest, hs, h => by
      have hhead : ∀ j ∈ rest.map Prod.fst, e.1 < j := (List.pairwise_cons.mp hs).1
      simp only [lookupEntry] at h
      split at h
      · rename_i hk
        cases h
        subst hk
        rw [List.filter_cons_of_neg (by simp), filter_ne_of_lt e.1 rest hhead]
      · rename_i hne
        have ih := erase_perm_of_lookupEntry k v rest (List.pairwise_cons.mp hs).2 h
        simp only [List.filter_cons, ne_eq, hne, not_false_eq_true, decide_true, if_true]
        exact (ih.cons e).trans (List.Perm.swap _ _ _)

/-- A stored value is in front of the values of the other keys. -/
theorem values_erase_perm (m : OrderedMap κ α) (h : m.get? k = some v) :
    m.values.Perm (v :: (m.erase k).values) := by
  have h' := (erase_perm_of_lookupEntry k v m.entries m.sorted h).map Prod.snd
  simpa [values, erase, filter] using h'

/-- Erasing an absent key changes nothing. -/
theorem erase_of_get?_none (m : OrderedMap κ α) (h : m.get? k = none) : m.erase k = m := by
  obtain ⟨l, hl⟩ := m
  have hkeep : l.filter (fun e => decide (e.1 ≠ k)) = l := by
    refine List.filter_eq_self.mpr (fun e he => ?_)
    have hne : e.1 ≠ k := by
      rintro rfl
      have := lookupEntry_of_mem e.1 e.2 l hl he
      rw [show lookupEntry e.1 l = none from h] at this
      cases this
    simpa using hne
  simp only [erase, filter]
  congr 1

/-! ## Counting keys -/

theorem keys_insert_perm (m : OrderedMap κ α) (k : κ) (v : α) :
    (m.insert k v).keys.Perm (k :: (m.erase k).keys) := by
  have h := (insertEntry_perm k v m.entries m.sorted).map Prod.fst
  simpa [keys, insert, erase, filter] using h

theorem keys_erase_perm (m : OrderedMap κ α) (h : m.get? k = some v) :
    m.keys.Perm (k :: (m.erase k).keys) := by
  have h' := (erase_perm_of_lookupEntry k v m.entries m.sorted h).map Prod.fst
  simpa [keys, erase, filter] using h'

/-- Replacing a value keeps the keys. -/
theorem countP_keys_insert (m : OrderedMap κ α) (h : m.get? k = some old) (new : α) (p : κ → Bool) :
    (m.insert k new).keys.countP p = m.keys.countP p :=
  ((m.keys_insert_perm k new).trans (m.keys_erase_perm h).symm).countP_eq p

theorem countP_keys_insert_new (m : OrderedMap κ α) (h : m.get? k = none) (new : α) (p : κ → Bool) :
    (m.insert k new).keys.countP p = m.keys.countP p + if p k then 1 else 0 := by
  rw [(m.keys_insert_perm k new).countP_eq p, m.erase_of_get?_none h, List.countP_cons]

theorem countP_keys_erase (m : OrderedMap κ α) (h : m.get? k = some old) (p : κ → Bool) :
    ((m.erase k).keys.countP p + if p k then 1 else 0) = m.keys.countP p := by
  rw [(m.keys_erase_perm h).countP_eq p, List.countP_cons]

/-! ## Counting the items the values hold -/

section Counting

variable {γ : Type w} [DecidableEq γ] (f : α → List γ) {k : κ} {old : α}

/-- Replacing a value replaces its items. -/
theorem count_insert (m : OrderedMap κ α) (h : m.get? k = some old) (new : α) (x : γ) :
    ((m.insert k new).values.flatMap f).count x + (f old).count x =
      (m.values.flatMap f).count x + (f new).count x := by
  have hnew := ((m.values_insert_perm k new).flatMap_right f).count_eq x
  have hold := ((m.values_erase_perm h).flatMap_right f).count_eq x
  rw [List.flatMap_cons, List.count_append] at hnew hold
  omega

/-- A value under a new key adds its items. -/
theorem count_insert_new (m : OrderedMap κ α) (h : m.get? k = none) (new : α) (x : γ) :
    ((m.insert k new).values.flatMap f).count x =
      (m.values.flatMap f).count x + (f new).count x := by
  have hnew := ((m.values_insert_perm k new).flatMap_right f).count_eq x
  rw [m.erase_of_get?_none h, List.flatMap_cons, List.count_append] at hnew
  omega

/-- Erasing a value takes its items away. -/
theorem count_erase (m : OrderedMap κ α) (h : m.get? k = some old) (x : γ) :
    ((m.erase k).values.flatMap f).count x + (f old).count x =
      (m.values.flatMap f).count x := by
  have hold := ((m.values_erase_perm h).flatMap_right f).count_eq x
  rw [List.flatMap_cons, List.count_append] at hold
  omega

/-- The items of one value are among the items of the map. -/
theorem count_le (m : OrderedMap κ α) (h : m.get? k = some v) (x : γ) :
    (f v).count x ≤ (m.values.flatMap f).count x := by
  have := m.count_erase f h x
  omega

/-- An item that occurs once is held by one value, and by no other. -/
theorem exists_of_count_eq_one (m : OrderedMap κ α) {x : γ} (h : (m.values.flatMap f).count x = 1) :
    ∃ k v, m.get? k = some v ∧ (f v).count x = 1 ∧
      ∀ j w, j ≠ k → m.get? j = some w → (f w).count x = 0 := by
  have hmem : x ∈ m.values.flatMap f := List.count_pos_iff.mp (by omega)
  obtain ⟨v, hv, hx⟩ := List.mem_flatMap.mp hmem
  obtain ⟨k, hk⟩ := (m.mem_values v).mp hv
  have hpos := List.count_pos_iff.mpr hx
  have herase := m.count_erase f hk x
  refine ⟨k, v, hk, by omega, fun j w hj hw => ?_⟩
  have hle := (m.erase k).count_le f (by rw [get?_erase_of_ne _ (Ne.symm hj)]; exact hw) x
  omega

end Counting

/-! ## Extensionality -/

theorem entries_eq_of_lookupEntry : ∀ l l' : List (κ × α),
    (l.map Prod.fst).Pairwise (· < ·) → (l'.map Prod.fst).Pairwise (· < ·) →
    (∀ k, lookupEntry k l = lookupEntry k l') → l = l'
  | [], [], _, _, _ => rfl
  | [], e :: rest, _, _, h => by
      have := h e.1
      simp [lookupEntry] at this
  | e :: rest, [], _, _, h => by
      have := h e.1
      simp [lookupEntry] at this
  | e :: rest, e' :: rest', hs, hs', h => by
      have hhead : ∀ j ∈ rest.map Prod.fst, e.1 < j := (List.pairwise_cons.mp hs).1
      have hhead' : ∀ j ∈ rest'.map Prod.fst, e'.1 < j := (List.pairwise_cons.mp hs').1
      have hmem : e ∈ e' :: rest' := by
        refine mem_of_lookupEntry e.1 e.2 _ ?_
        rw [← h e.1]
        simp [lookupEntry]
      have hmem' : e' ∈ e :: rest := by
        refine mem_of_lookupEntry e'.1 e'.2 _ ?_
        rw [h e'.1]
        simp [lookupEntry]
      have heq : e = e' := by
        rcases List.mem_cons.mp hmem with heq | hin
        · exact heq
        · rcases List.mem_cons.mp hmem' with heq' | hin'
          · exact heq'.symm
          · exact absurd (hhead' e.1 (List.mem_map.mpr ⟨e, hin, rfl⟩))
              (lt_asymm (hhead e'.1 (List.mem_map.mpr ⟨e', hin', rfl⟩)))
      subst heq
      congr 1
      refine entries_eq_of_lookupEntry rest rest' (List.pairwise_cons.mp hs).2
        (List.pairwise_cons.mp hs').2 (fun k => ?_)
      have hk := h k
      by_cases hek : e.1 = k
      · subst hek
        rw [lookupEntry_eq_none e.1 rest (fun hin => lt_irrefl _ (hhead _ hin)),
            lookupEntry_eq_none e.1 rest' (fun hin => lt_irrefl _ (hhead' _ hin))]
      · simpa [lookupEntry, hek] using hk

/-- Two maps with the same lookups are equal. -/
theorem ext_get? {m' : OrderedMap κ α} (h : ∀ k, m.get? k = m'.get? k) : m = m' := by
  obtain ⟨l, hl⟩ := m
  obtain ⟨l', hl'⟩ := m'
  have : l = l' := entries_eq_of_lookupEntry l l' hl hl' h
  subst this
  rfl

/-- The last value written at a key counts. -/
theorem insert_insert (m : OrderedMap κ α) (k : κ) (v w : α) :
    (m.insert k v).insert k w = m.insert k w := by
  refine ext_get? fun j => ?_
  rw [get?_insert, get?_insert, get?_insert]
  split <;> rfl

/-! ## Size -/

theorem size_eq_length_keys (m : OrderedMap κ α) : m.size = m.keys.length :=
  (List.length_map ..).symm

@[simp] theorem size_map (m : OrderedMap κ α) (f : α → β) : (m.map f).size = m.size :=
  List.length_map ..

theorem size_filter_le (m : OrderedMap κ α) (p : κ → α → Bool) : (m.filter p).size ≤ m.size :=
  List.length_filter_le ..

theorem size_erase_le (m : OrderedMap κ α) (k : κ) : (m.erase k).size ≤ m.size :=
  m.size_filter_le _

theorem size_foldl_erase_le (keys : List κ) :
    ∀ m : OrderedMap κ α, (keys.foldl (fun m k => m.erase k) m).size ≤ m.size := by
  induction keys with
  | nil => exact fun _ => Nat.le_refl _
  | cons k rest ih => exact fun m => Nat.le_trans (ih (m.erase k)) (m.size_erase_le k)

theorem size_erase_of_get? (m : OrderedMap κ α) (h : m.get? k = some v) :
    m.size = (m.erase k).size + 1 := by
  rw [size_eq_length_keys, (m.keys_erase_perm h).length_eq, List.length_cons,
    ← size_eq_length_keys]

theorem size_insert (m : OrderedMap κ α) (k : κ) (v : α) :
    (m.insert k v).size = (m.erase k).size + 1 := by
  rw [size_eq_length_keys, (m.keys_insert_perm k v).length_eq, List.length_cons,
    ← size_eq_length_keys]

theorem size_insert_le (m : OrderedMap κ α) (k : κ) (v : α) : (m.insert k v).size ≤ m.size + 1 := by
  rw [size_insert]
  exact Nat.add_le_add_right (m.size_erase_le k) 1

/-- Replacing a value keeps the size. -/
theorem size_insert_of_get? (m : OrderedMap κ α) (h : m.get? k = some old) (new : α) :
    (m.insert k new).size = m.size := by
  rw [size_insert, m.size_erase_of_get? h]

/-! ## Maps of lists -/

theorem values_map (m : OrderedMap κ α) (f : α → β) : (m.map f).values = m.values.map f := by
  simp [values, map, Function.comp_def]

theorem values_filter (m : OrderedMap κ α) (p : α → Bool) :
    (m.filter fun _ v => p v).values = m.values.filter p := by
  simp [values, filter, List.filter_map, Function.comp_def]

/-- All elements but those under one key. -/
theorem flatten_values_erase (m : OrderedMap κ (List α)) {l : List α} (h : m.get? k = some l) :
    m.values.flatten.Perm (l ++ (m.erase k).values.flatten) := by
  simpa using (m.values_erase_perm h).flatten

/-- The list under a key is replaced. -/
theorem flatten_values_insert (m : OrderedMap κ (List α)) (k : κ) (l : List α) :
    (m.insert k ((m.get? k).getD [] ++ l)).values.flatten.Perm (m.values.flatten ++ l) := by
  have hnew := (m.values_insert_perm k ((m.get? k).getD [] ++ l)).flatten
  have hold : m.values.flatten.Perm ((m.get? k).getD [] ++ (m.erase k).values.flatten) := by
    cases hget : m.get? k with
    | none =>
      rw [m.erase_of_get?_none hget]
      exact .refl _
    | some old => exact m.flatten_values_erase hget
  refine hnew.trans ?_
  rw [List.flatten_cons, List.append_assoc]
  refine (List.Perm.append_left _ List.perm_append_comm).trans ?_
  rw [← List.append_assoc]
  exact hold.symm.append_right l

/-- Entries without elements may go. -/
theorem flatten_values_filter_map (m : OrderedMap κ (List α)) (f : List α → List β) :
    ((m.map f).filter fun _ l => !l.isEmpty).values.flatten = (m.values.map f).flatten := by
  rw [values_filter, values_map, List.flatten_filter_not_isEmpty]

end OrderedMap

end PyWebTransport.Lib
