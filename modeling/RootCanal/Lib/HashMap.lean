import Mathlib

/-!
# Hash maps whose iteration order is unspecified

A finite map is an extensional tree map: two maps with the same entries are equal, so "the
state is unchanged" is plain equality.  What a hash map does *not* promise is the order in
which it visits its entries, and a program that takes "the first entry that matches" reads
exactly that.  `IterOrder` makes the order an argument: any rearrangement of the keys.  A
theorem quantified over it holds for whatever order the running program happens to use.

* `values ord m`: the values of `m`, in the order `ord` visits the keys.
* `retain`, `modify`: the two bulk updates, with their lookup equations.
* `any`: an existential test, which no order can influence (`any_eq_true`).
* `free pool m`: how many keys of a pool are unused.  Taking the first unused key fails exactly
  at zero (`find?_free_eq_none`), and costs one (`free_insert`).
-/

set_option linter.unusedSectionVars false

namespace Lib

open Std

/-- A finite map with keys in `κ`. -/
abbrev HashMap (κ α : Type) [Ord κ] := ExtTreeMap κ α compare

/-- The order in which a map visits its keys: some rearrangement of them. -/
structure IterOrder (κ : Type) where
  /-- The keys of a map, in the order they are visited. -/
  visit : List κ → List κ
  /-- Every key is visited exactly once. -/
  perm : ∀ l, (visit l).Perm l

/-- The order that visits the keys as they are listed. -/
def IterOrder.id (κ : Type) : IterOrder κ where
  visit l := l
  perm _ := List.Perm.refl _

/-- The order that visits one key first. -/
def IterOrder.first {κ : Type} [DecidableEq κ] (k : κ) : IterOrder κ where
  visit l := if k ∈ l then k :: l.erase k else l
  perm l := by
    split
    · exact (List.perm_cons_erase ‹_›).symm
    · exact List.Perm.refl _

namespace HashMap

variable {κ α : Type} [Ord κ] [TransOrd κ]

/-- The values of a map in iteration order. -/
def values (ord : IterOrder κ) (m : HashMap κ α) : List α :=
  (ord.visit m.keys).filterMap fun k => m[k]?

/-- The keys whose value satisfies `p`, in iteration order. -/
def keysWhere (ord : IterOrder κ) (m : HashMap κ α) (p : α → Bool) : List κ :=
  (ord.visit m.keys).filter fun k => (m[k]?).any p

/-- Keep the entries that satisfy `p`. -/
def retain (m : HashMap κ α) (p : κ → α → Bool) : HashMap κ α := m.filter p

/-- Some entry satisfies `p`. -/
def any (m : HashMap κ α) (p : κ → α → Bool) : Bool := m.toList.any fun e => p e.1 e.2

/-- How many keys of the pool are unused. -/
def free (pool : List κ) (m : HashMap κ α) : Nat := pool.countP fun k => !m.contains k

variable [LawfulEqOrd κ]

theorem getElem?_retain (m : HashMap κ α) (p : κ → α → Bool) (k : κ) :
    (retain m p)[k]? = (m[k]?).filter (p k) :=
  ExtTreeMap.getElem?_filter'

variable {m : HashMap κ α} {k : κ}

theorem mem_retain_iff {p v} : (retain m p)[k]? = some v ↔ m[k]? = some v ∧ p k v = true := by
  rw [getElem?_retain, Option.filter_eq_some_iff]

theorem any_eq_true {p} : any m p = true ↔ ∃ k v, m[k]? = some v ∧ p k v = true := by
  unfold any
  rw [List.any_eq_true]
  constructor
  · rintro ⟨⟨k, v⟩, hmem, hp⟩
    exact ⟨k, v, ExtTreeMap.mem_toList_iff_getElem?_eq_some.mp hmem, hp⟩
  · rintro ⟨k, v, hget, hp⟩
    exact ⟨(k, v), ExtTreeMap.mem_toList_iff_getElem?_eq_some.mpr hget, hp⟩

theorem any_eq_false {p} : any m p = false ↔ ∀ k v, m[k]? = some v → p k v = false := by
  rw [← Bool.not_eq_true, any_eq_true]
  push Not
  simp only [Bool.not_eq_true]

variable {ord : IterOrder κ}

/-- Whatever the order, the values visited are the values stored. -/
theorem mem_values {v} : v ∈ values ord m ↔ ∃ k : κ, m[k]? = some v := by
  unfold values
  rw [List.mem_filterMap]
  constructor
  · rintro ⟨k, -, hk⟩
    exact ⟨k, hk⟩
  · rintro ⟨k, hk⟩
    refine ⟨k, (ord.perm _).mem_iff.mpr ?_, hk⟩
    rw [ExtTreeMap.mem_keys, ExtTreeMap.mem_iff_isSome_getElem?, hk]
    rfl

variable {p : α → Bool}

theorem find?_values_eq_some {v} (h : (values ord m).find? p = some v) :
    (∃ k : κ, m[k]? = some v) ∧ p v = true :=
  ⟨mem_values.mp (List.mem_of_find?_eq_some h), List.find?_some h⟩

theorem find?_values_eq_none :
    (values ord m).find? p = none ↔ ∀ (k : κ) v, m[k]? = some v → p v = false := by
  rw [List.find?_eq_none]
  constructor
  · intro h k v hk
    simpa using h v (mem_values.mpr ⟨k, hk⟩)
  · intro h v hv
    obtain ⟨k, hk⟩ := mem_values.mp hv
    simp [h k v hk]

/-- Whatever the order, the keys selected are the keys of the matching entries. -/
theorem mem_keysWhere : k ∈ keysWhere ord m p ↔ ∃ v, m[k]? = some v ∧ p v = true := by
  unfold keysWhere
  rw [List.mem_filter, (ord.perm _).mem_iff, ExtTreeMap.mem_keys,
    ExtTreeMap.mem_iff_isSome_getElem?]
  cases h : m[k]? <;> simp

/-- Every matching entry is the first one in some order. -/
theorem exists_head?_keysWhere [DecidableEq κ] {v} (hk : m[k]? = some v) (hp : p v = true) :
    ∃ ord : IterOrder κ, (keysWhere ord m p).head? = some k := by
  refine ⟨IterOrder.first k, ?_⟩
  have hmem : k ∈ m.keys := by
    rw [ExtTreeMap.mem_keys, ExtTreeMap.mem_iff_isSome_getElem?, hk]
    rfl
  have hvisit : (IterOrder.first k).visit m.keys = k :: m.keys.erase k := if_pos hmem
  unfold keysWhere
  rw [hvisit, List.filter_cons_of_pos (by rw [hk]; exact hp), List.head?_cons]

theorem head?_keysWhere_eq_some (h : (keysWhere ord m p).head? = some k) :
    ∃ v, m[k]? = some v ∧ p v = true :=
  mem_keysWhere.mp (List.mem_of_head? h)

theorem head?_keysWhere_eq_none :
    (keysWhere ord m p).head? = none ↔ ∀ (k : κ) v, m[k]? = some v → p v = false := by
  rw [List.head?_eq_none_iff, List.eq_nil_iff_forall_not_mem]
  constructor
  · intro h k v hk
    by_contra hp
    exact h k (mem_keysWhere.mpr ⟨v, hk, by simpa using hp⟩)
  · intro h k hk
    obtain ⟨v, hv, hp⟩ := mem_keysWhere.mp hk
    rw [h k v hv] at hp
    cases hp

variable [DecidableEq κ]

/-- When only one element of a list without repetition yields a result, that is the result. -/
theorem filterMap_of_nodup {β γ : Type} [DecidableEq β] {l : List β} {f : β → Option γ} {b : β}
    (hl : l.Nodup) (hf : ∀ x ∈ l, x ≠ b → f x = none) :
    l.filterMap f = if b ∈ l then (f b).toList else [] := by
  induction l with
  | nil => rfl
  | cons x l ih =>
    obtain ⟨hx, hl⟩ := List.nodup_cons.mp hl
    have hrs := ih hl fun y hy => hf y (List.mem_cons_of_mem _ hy)
    by_cases hxb : x = b
    · subst hxb
      rw [if_neg hx] at hrs
      rw [if_pos (List.mem_cons_self ..), List.filterMap_cons, hrs]
      cases f x <;> rfl
    · rw [List.filterMap_cons, hf x (List.mem_cons_self ..) hxb, hrs]
      simp [Ne.symm hxb]

/-- When only the value of one key yields a result, the order does not matter. -/
theorem filterMap_values {β : Type} {f : α → Option β}
    (hf : ∀ (k' : κ) v, m[k']? = some v → k' ≠ k → f v = none) :
    (values ord m).filterMap f = ((m[k]?).bind f).toList := by
  unfold values
  rw [List.filterMap_filterMap, filterMap_of_nodup (b := k)]
  · split
    · rfl
    · rename_i hk
      rw [(ord.perm _).mem_iff, ExtTreeMap.mem_keys, ExtTreeMap.mem_iff_isSome_getElem?,
        Bool.not_eq_true, Option.isSome_eq_false_iff, Option.isNone_iff_eq_none] at hk
      rw [hk]
      rfl
  · exact (ord.perm _).nodup_iff.mpr ExtTreeMap.nodup_keys
  · intro k' _ hne
    cases hk' : m[k']? with
    | none => rfl
    | some v => exact hf k' v hk' hne

theorem getElem?_insert' (m : HashMap κ α) (k k' : κ) (v : α) :
    (m.insert k v)[k']? = if k = k' then some v else m[k']? := by
  rw [ExtTreeMap.getElem?_insert]
  simp only [LawfulEqCmp.compare_eq_iff_eq]

theorem getElem?_insert_self {v} (h : m[k]? = some v) (k' : κ) : (m.insert k v)[k']? = m[k']? := by
  rw [getElem?_insert']
  split
  · rename_i hk
    rw [← hk, h]
  · rfl

theorem getElem?_erase' (m : HashMap κ α) (k k' : κ) :
    (m.erase k)[k']? = if k = k' then none else m[k']? := by
  rw [ExtTreeMap.getElem?_erase]
  simp only [LawfulEqCmp.compare_eq_iff_eq]

theorem getElem?_modify' (m : HashMap κ α) (k k' : κ) (f : α → α) :
    (m.modify k f)[k']? = if k = k' then (m[k]?).map f else m[k']? := by
  rw [ExtTreeMap.getElem?_modify]
  simp only [LawfulEqCmp.compare_eq_iff_eq]

theorem contains_eq_false : m.contains k = false ↔ m[k]? = none := by
  rw [ExtTreeMap.contains_eq_isSome_getElem?, Option.isSome_eq_false_iff, Option.isNone_iff_eq_none]

theorem contains_insert' (m : HashMap κ α) (k k' : κ) (v : α) :
    (m.insert k v).contains k' = (decide (k = k') || m.contains k') := by
  by_cases h : k = k' <;> simp [h]

theorem find?_free_eq_none {pool} :
    pool.find? (fun k => !m.contains k) = none ↔ free pool m = 0 := by
  unfold free
  rw [List.find?_eq_none, List.countP_eq_zero]

/-- Using the first unused key of the pool leaves one less. -/
theorem free_insert {pool} (hpool : pool.Nodup)
    (hk : pool.find? (fun k => !m.contains k) = some k) (v : α) :
    free pool (m.insert k v) + 1 = free pool m := by
  have hfree : m.contains k = false := by simpa using List.find?_some hk
  have hperm := List.perm_cons_erase (List.mem_of_find?_eq_some hk)
  -- the other keys of the pool differ from `k`, so they are used as before
  have hrest : ∀ k' ∈ pool.erase k, (!(m.insert k v).contains k') = !m.contains k' := by
    intro k' hk'
    rw [contains_insert', decide_eq_false (hpool.mem_erase_iff.mp hk').1.symm, Bool.false_or]
  unfold free
  rw [hperm.countP_eq, hperm.countP_eq, List.countP_cons, List.countP_cons,
    List.countP_congr fun k' hk' => by rw [hrest k' hk']]
  simp [hfree]

end HashMap

end Lib
