import RootCanal.Lib.HashMap

/-!
# Tables searched by an attribute

A table holds its values under keys of its own, and is searched by an attribute of the values: every
entry is visited until one has it.  `keyBy` is the key the search ends with, `findBy` a value with
the attribute.

If no two values have the same attribute (`UniqueBy`), the table is also a map from the attribute:
the search finds the one value whatever the order (`keyBy_eq_some_iff`), and `findBy` follows an
insertion, an erasure and a modification as a map does.  What holds of every value (`Every`) goes on
to hold when the new values have it.
-/

set_option linter.unusedSectionVars false

namespace Lib.HashMap

open Std

variable {κ α β : Type} [Ord κ] [TransOrd κ] [LawfulEqOrd κ] [DecidableEq β]

/-- The key of the first value visited that has the attribute. -/
def keyBy (m : HashMap κ α) (ord : IterOrder κ) (attr : α → β) (b : β) : Option κ :=
  (keysWhere ord m fun v => attr v = b).head?

/-- A value that has the attribute. -/
def findBy (m : HashMap κ α) (attr : α → β) (b : β) : Option α :=
  (values (IterOrder.id κ) m).find? fun v => attr v = b

/-- No two values have the same attribute. -/
def UniqueBy (m : HashMap κ α) (attr : α → β) : Prop :=
  ∀ (k k' : κ) v v', m[k]? = some v → m[k']? = some v' → attr v = attr v' → k = k'

variable {m : HashMap κ α} {ord : IterOrder κ} {attr : α → β} {b : β} {k : κ} {v : α}

theorem mem_of_keyBy (h : m.keyBy ord attr b = some k) : ∃ v, m[k]? = some v ∧ attr v = b := by
  obtain ⟨v, hv, hb⟩ := head?_keysWhere_eq_some h
  exact ⟨v, hv, of_decide_eq_true hb⟩

theorem keyBy_eq_none : m.keyBy ord attr b = none ↔ m.findBy attr b = none := by
  unfold keyBy findBy
  rw [head?_keysWhere_eq_none, find?_values_eq_none]

theorem mem_of_findBy (h : m.findBy attr b = some v) : (∃ k : κ, m[k]? = some v) ∧ attr v = b := by
  obtain ⟨hv, hb⟩ := find?_values_eq_some h
  exact ⟨hv, of_decide_eq_true hb⟩

theorem findBy_eq_none : m.findBy attr b = none ↔ ∀ (k : κ) v, m[k]? = some v → attr v ≠ b := by
  unfold findBy
  rw [find?_values_eq_none]
  simp only [decide_eq_false_iff_not]

@[simp] theorem findBy_empty : (∅ : HashMap κ α).findBy attr b = none := by
  rw [findBy_eq_none]
  intro k v hk
  cases hk

theorem uniqueBy_empty : (∅ : HashMap κ α).UniqueBy attr := by
  intro k k' v v' hk
  cases hk

/-! ## A unique attribute -/

variable {m' : HashMap κ α} {v' : α} {f : α → α} (hm : m.UniqueBy attr)

include hm

theorem UniqueBy.findBy_eq_some_iff :
    m.findBy attr b = some v ↔ (∃ k : κ, m[k]? = some v) ∧ attr v = b := by
  constructor
  · exact mem_of_findBy
  · rintro ⟨⟨k, hk⟩, hb⟩
    cases hfind : m.findBy attr b with
    | none => exact absurd hb (findBy_eq_none.mp hfind k v hk)
    | some v' =>
      obtain ⟨⟨k', hk'⟩, hb'⟩ := mem_of_findBy hfind
      have hkk := hm k k' v v' hk hk' (hb.trans hb'.symm)
      rw [← hkk, hk] at hk'
      exact hk'.symm

theorem UniqueBy.findBy_of_mem (hk : m[k]? = some v) : m.findBy attr (attr v) = some v :=
  hm.findBy_eq_some_iff.mpr ⟨⟨k, hk⟩, rfl⟩

/-- **The search does not depend on the order.** -/
theorem UniqueBy.keyBy_eq_some_iff :
    m.keyBy ord attr b = some k ↔ ∃ v, m[k]? = some v ∧ attr v = b := by
  constructor
  · exact mem_of_keyBy
  · rintro ⟨v, hk, hb⟩
    cases hkey : m.keyBy ord attr b with
    | none => exact absurd hb (findBy_eq_none.mp (keyBy_eq_none.mp hkey) k v hk)
    | some k' =>
      obtain ⟨v', hk', hb'⟩ := mem_of_keyBy hkey
      rw [hm k k' v v' hk hk' (hb.trans hb'.symm)]

theorem UniqueBy.keyBy_congr (ord ord' : IterOrder κ) :
    m.keyBy ord attr b = m.keyBy ord' attr b := by
  apply Option.ext
  intro k
  rw [hm.keyBy_eq_some_iff, hm.keyBy_eq_some_iff]

/-- Two tables that differ at one key, where neither has a value with the attribute. -/
theorem UniqueBy.findBy_congr (hm' : m'.UniqueBy attr) (hoff : ∀ k', k ≠ k' → m[k']? = m'[k']?)
    (hk : ∀ v ∈ m[k]?, attr v ≠ b) (hk' : ∀ v ∈ m'[k]?, attr v ≠ b) : m.findBy attr b =
      m'.findBy attr b := by
  apply Option.ext
  intro v
  rw [hm.findBy_eq_some_iff, hm'.findBy_eq_some_iff]
  refine and_congr_left fun hb => exists_congr fun k' => ?_
  by_cases hkk : k = k'
  · subst hkk
    exact iff_of_false (fun h => hk v h hb) fun h => hk' v h hb
  · rw [hoff k' hkk]

/-- A table in which each key has the attribute that it had. -/
theorem UniqueBy.of_attr
    (hattr : ∀ (k : κ) w, m'[k]? = some w → ∃ v, m[k]? = some v ∧ attr w = attr v) :
    m'.UniqueBy attr := by
  intro k₁ k₂ w₁ w₂ h₁ h₂ hb
  obtain ⟨v₁, hv₁, hb₁⟩ := hattr k₁ w₁ h₁
  obtain ⟨v₂, hv₂, hb₂⟩ := hattr k₂ w₂ h₂
  exact hm k₁ k₂ v₁ v₂ hv₁ hv₂ (hb₁.symm.trans (hb.trans hb₂))

variable [DecidableEq κ]

/-- A value whose attribute is new may be inserted. -/
theorem UniqueBy.insert (hv : m.findBy attr (attr v) = none) : UniqueBy (m.insert k v) attr := by
  intro k₁ k₂ v₁ v₂ h₁ h₂ hb
  rw [getElem?_insert'] at h₁ h₂
  have hnew := findBy_eq_none.mp hv
  split at h₁ <;> split at h₂
  · rename_i hk₁ hk₂
    exact hk₁.symm.trans hk₂
  · cases h₁
    exact absurd hb.symm (hnew k₂ v₂ h₂)
  · cases h₂
    exact absurd hb (hnew k₁ v₁ h₁)
  · exact hm k₁ k₂ v₁ v₂ h₁ h₂ hb

/-- A value may be replaced by one with the same attribute. -/
theorem UniqueBy.replace (hk : m[k]? = some v) (hv : attr v' = attr v) :
    UniqueBy (m.insert k v') attr := by
  refine hm.of_attr fun k' w hk' => ?_
  rw [getElem?_insert'] at hk'
  split at hk'
  · rename_i hkk
    cases hk'
    exact ⟨v, hkk ▸ hk, hv⟩
  · exact ⟨w, hk', rfl⟩

theorem UniqueBy.findBy_insert (hk : m[k]? = none) (hv : m.findBy attr (attr v) = none) :
    findBy (m.insert k v) attr b = if attr v = b then some v else m.findBy attr b := by
  have hm' : UniqueBy (m.insert k v) attr := hm.insert hv
  split
  · rename_i hb
    exact hm'.findBy_eq_some_iff.mpr ⟨⟨k, by rw [getElem?_insert', if_pos rfl]⟩, hb⟩
  · rename_i hb
    refine hm'.findBy_congr (k := k) hm (fun k' hne => by rw [getElem?_insert', if_neg hne]) ?_
      (by simp [hk])
    rw [getElem?_insert', if_pos rfl]
    rintro _ ⟨⟩
    exact hb

theorem UniqueBy.erase : UniqueBy (m.erase k) attr := by
  refine hm.of_attr fun k' w hk' => ?_
  rw [getElem?_erase'] at hk'
  split at hk'
  · cases hk'
  · exact ⟨w, hk', rfl⟩

theorem UniqueBy.findBy_erase (hk : m[k]? = some v) : findBy (m.erase k) attr b =
      if attr v = b then none else m.findBy attr b := by
  split
  · rename_i hb
    rw [findBy_eq_none]
    intro k' w hk' hw
    rw [getElem?_erase'] at hk'
    split at hk'
    · cases hk'
    · rename_i hne
      exact hne (hm k k' v w hk hk' (hb.trans hw.symm))
  · rename_i hb
    refine hm.erase.findBy_congr (k := k) hm (fun k' hne => by rw [getElem?_erase', if_neg hne]) ?_
      ?_
    · rw [getElem?_erase', if_pos rfl]
      nofun
    · rw [hk]
      rintro _ ⟨⟩
      exact hb

theorem UniqueBy.modify (hf : ∀ v, attr (f v) = attr v) : UniqueBy (m.modify k f) attr := by
  refine hm.of_attr fun k' w hk' => ?_
  rw [getElem?_modify'] at hk'
  split at hk'
  · rename_i hkk
    obtain ⟨v, hv, rfl⟩ := Option.map_eq_some_iff.mp hk'
    exact ⟨v, hkk ▸ hv, hf v⟩
  · exact ⟨w, hk', rfl⟩

theorem UniqueBy.findBy_modify (hf : ∀ v, attr (f v) = attr v) (hk : m[k]? = some v) :
    findBy (m.modify k f) attr b = if attr v = b then some (f v) else m.findBy attr b := by
  split
  · rename_i hb
    refine (hm.modify hf).findBy_eq_some_iff.mpr ⟨⟨k, ?_⟩, (hf v).trans hb⟩
    rw [getElem?_modify', if_pos rfl, hk]
    rfl
  · rename_i hb
    refine (hm.modify hf).findBy_congr (k := k) hm
      (fun k' hne => by rw [getElem?_modify', if_neg hne]) ?_ ?_
    · rw [getElem?_modify', if_pos rfl, hk]
      rintro _ ⟨⟩
      rwa [hf v]
    · rw [hk]
      rintro _ ⟨⟩
      exact hb

omit hm

/-! ## One value at most with an attribute -/

/-- One value at most has the attribute. -/
def SoleBy (m : HashMap κ α) (attr : α → β) (b : β) : Prop :=
  ∀ (k k' : κ) v v', m[k]? = some v → m[k']? = some v' → attr v = b → attr v' = b → k = k'

/-- There is one at most exactly when none is left without the one that is found. -/
theorem soleBy_iff_erase (hkey : m.keyBy ord attr b = some k) :
    m.SoleBy attr b ↔ findBy (m.erase k) attr b = none := by
  obtain ⟨v, hv, hb⟩ := mem_of_keyBy hkey
  rw [findBy_eq_none]
  constructor
  · intro h k' v' hk' hb'
    rw [getElem?_erase'] at hk'
    split at hk'
    · cases hk'
    · rename_i hne
      exact hne (h k k' v v' hv hk' hb hb')
  · intro h
    -- whatever has the attribute is the one that is found
    have hone : ∀ (k' : κ) v', m[k']? = some v' → attr v' = b → k = k' := by
      intro k' v' hk' hb'
      by_contra hne
      exact h k' v' (by rw [getElem?_erase', if_neg hne]; exact hk') hb'
    intro k₁ k₂ v₁ v₂ h₁ h₂ hb₁ hb₂
    exact (hone k₁ v₁ h₁ hb₁).symm.trans (hone k₂ v₂ h₂ hb₂)

theorem soleBy_of_none (h : m.findBy attr b = none) : m.SoleBy attr b :=
  fun k _ v _ hk _ hb _ => absurd hb (findBy_eq_none.mp h k v hk)

instance SoleBy.decidable (m : HashMap κ α) (attr : α → β) (b : β) : Decidable (m.SoleBy attr b) :=
  match h : m.keyBy (IterOrder.id κ) attr b with
  | none => isTrue (soleBy_of_none (keyBy_eq_none.mp h))
  | some _ => decidable_of_iff _ (soleBy_iff_erase h).symm

/-! ## What holds of every value -/

/-- Every value has the property. -/
def Every (m : HashMap κ α) (P : α → Prop) : Prop := ∀ (k : κ) v, m[k]? = some v → P v

variable {P : α → Prop}

theorem every_empty : Every (∅ : HashMap κ α) P := by
  intro k v hk
  cases hk

theorem Every.insert (hm : Every m P) (hv : P v) : Every (m.insert k v) P := by
  intro k' v' hk'
  rw [getElem?_insert'] at hk'
  split at hk'
  · cases hk'
    exact hv
  · exact hm k' v' hk'

theorem Every.erase (hm : Every m P) : Every (m.erase k) P := by
  intro k' v' hk'
  rw [getElem?_erase'] at hk'
  split at hk'
  · cases hk'
  · exact hm k' v' hk'

theorem Every.modify {f} (hf : ∀ v, P v → P (f v)) (hm : Every m P) : Every (m.modify k f) P := by
  intro k' v' hk'
  rw [getElem?_modify'] at hk'
  split at hk'
  · obtain ⟨v, hv, rfl⟩ := Option.map_eq_some_iff.mp hk'
    exact hf v (hm k v hv)
  · exact hm k' v' hk'

end Lib.HashMap
