import RootCanal.Lib.HashMap
import RootCanal.Lib.Machine

/-!
# Connection handles

The handles of each kind of connection are searched in a range of their own, from the one after the
last that was given out.  The search visits the range in a circle and has no way out but an unused
handle, so a full range makes it loop for ever: `Panic.hang`.  `getUnusedHandle_returns`: it returns
if a handle of the range is unused.

Source: `connection_handle.h`, `acl_connection_handler.cc`
-/

namespace RootCanal.ConnectionHandle

open Lib

def kAclRangeStart : UInt16 := 0x000
def kAclRangeEnd : UInt16 := 0x0ff
def kScoRangeStart : UInt16 := 0x100
def kScoRangeEnd : UInt16 := 0x1ff
def kLeAclRangeStart : UInt16 := 0x200
def kLeAclRangeEnd : UInt16 := 0x2ff

/-- The handle after `last`, back to the start of the range at its end. -/
def next (rangeStart rangeEnd last : UInt16) : UInt16 :=
  if last + 1 > rangeEnd then rangeStart else last + 1

/-- The first unused handle from `last` on, with the handle after it. `fuel` bounds the search; one
visit of every handle of the range is enough, since the search comes back to where it was. -/
def search {α : Type} (connections : HashMap UInt16 α) (rangeStart rangeEnd : UInt16) :
    Nat → UInt16 → Except Panic (UInt16 × UInt16)
  | 0, _ => .error .hang
  | fuel + 1, last =>
    if connections.contains last then
      search connections rangeStart rangeEnd fuel (next rangeStart rangeEnd last)
    else .ok (last, next rangeStart rangeEnd last)

/-- The first unused handle from `last` on, with the handle after it. -/
def getUnusedHandle {α : Type} (connections : HashMap UInt16 α)
    (rangeStart rangeEnd last : UInt16) : Except Panic (UInt16 × UInt16) :=
  search connections rangeStart rangeEnd (rangeEnd.toNat - rangeStart.toNat + 1) last

variable {α : Type} {connections : HashMap UInt16 α}
  {rangeStart rangeEnd last handle last' : UInt16}

theorem search_unused {fuel : Nat}
    (h : search connections rangeStart rangeEnd fuel last = .ok (handle, last')) :
    connections[handle]? = none := by
  induction fuel generalizing last with
  | zero => cases h
  | succ _ ih =>
    unfold search at h
    split at h
    · exact ih h
    · rename_i hfree
      cases h
      exact HashMap.contains_eq_false.mp (Bool.eq_false_of_not_eq_true hfree)

theorem getUnusedHandle_unused
    (h : getUnusedHandle connections rangeStart rangeEnd last = .ok (handle, last')) :
    connections[handle]? = none :=
  search_unused h

/-- A search that does not return goes on for ever. -/
theorem search_error {fuel : Nat} {e}
    (h : search connections rangeStart rangeEnd fuel last = .error e) : e = .hang := by
  induction fuel generalizing last with
  | zero => exact (Except.error.inj h).symm
  | succ _ ih =>
    unfold search at h
    split at h
    · exact ih h
    · cases h

/-! ## The search finds an unused handle -/

theorem next_of_lt (h : last < rangeEnd) : next rangeStart rangeEnd last = last + 1 := by
  unfold next
  rw [if_neg]
  simp only [gt_iff_lt, UInt16.lt_iff_toNat_lt, UInt16.toNat_add] at h ⊢
  change ¬ rangeEnd.toNat < (last.toNat + 1) % 2 ^ 16
  omega

theorem next_end (h : rangeEnd.toNat + 1 < 2 ^ 16) :
    next rangeStart rangeEnd rangeEnd = rangeStart := by
  unfold next
  rw [if_pos]
  change rangeEnd.toNat < (rangeEnd.toNat + 1) % 2 ^ 16
  omega

/-- The handles are visited one after the other, up to the end of the range. -/
theorem iterate_next (rangeStart : UInt16) {n : Nat} (hn : last.toNat + n ≤ rangeEnd.toNat) :
    ((next rangeStart rangeEnd)^[n] last).toNat = last.toNat + n := by
  induction n with
  | zero => rfl
  | succ n ih =>
    have hprev := ih (by omega)
    have := rangeEnd.toNat_lt
    rw [Function.iterate_succ_apply', next_of_lt]
    · rw [UInt16.toNat_add, hprev]
      change (last.toNat + n + 1) % 2 ^ 16 = _
      omega
    · rw [UInt16.lt_iff_toNat_lt, hprev]
      omega

/-- From the end of the range on to its start. -/
theorem iterate_next_wrap (hend : rangeEnd.toNat + 1 < 2 ^ 16)
    (hlast : last.toNat ≤ rangeEnd.toNat) :
    (next rangeStart rangeEnd)^[rangeEnd.toNat - last.toNat + 1] last = rangeStart := by
  have hup : (next rangeStart rangeEnd)^[rangeEnd.toNat - last.toNat] last = rangeEnd := by
    apply UInt16.toNat_inj.mp
    rw [iterate_next rangeStart (by omega)]
    omega
  rw [Function.iterate_succ_apply', hup, next_end hend]

/-- Every handle of the range is visited in one round, from any handle of it. -/
theorem exists_iterate_next (hend : rangeEnd.toNat + 1 < 2 ^ 16)
    (hlast : rangeStart ≤ last ∧ last ≤ rangeEnd) (hh : rangeStart ≤ handle ∧ handle ≤ rangeEnd) :
    ∃ n < rangeEnd.toNat - rangeStart.toNat + 1, (next rangeStart rangeEnd)^[n] last = handle := by
  simp only [UInt16.le_iff_toNat_le] at hlast hh
  by_cases hle : last.toNat ≤ handle.toNat
  · refine ⟨handle.toNat - last.toNat, by omega, UInt16.toNat_inj.mp ?_⟩
    rw [iterate_next rangeStart (by omega)]
    omega
  · refine ⟨handle.toNat - rangeStart.toNat + (rangeEnd.toNat - last.toNat + 1), by omega, ?_⟩
    rw [Function.iterate_add_apply, iterate_next_wrap hend hlast.2]
    apply UInt16.toNat_inj.mp
    rw [iterate_next rangeStart (by omega)]
    omega

/-- A search that does not return has seen used handles only. -/
theorem search_contains {fuel : Nat} {e}
    (h : search connections rangeStart rangeEnd fuel last = .error e) (n : Nat) (hn : n < fuel) :
    connections.contains ((next rangeStart rangeEnd)^[n] last) = true := by
  induction fuel generalizing last n with
  | zero => omega
  | succ _ ih =>
    unfold search at h
    split at h
    · rename_i hused
      cases n with
      | zero => exact hused
      | succ n => exact ih h n (by omega)
    · cases h

/-- **The search returns if a handle of the range is unused.** -/
theorem getUnusedHandle_returns (hend : rangeEnd.toNat + 1 < 2 ^ 16)
    (hlast : rangeStart ≤ last ∧ last ≤ rangeEnd) (hh : rangeStart ≤ handle ∧ handle ≤ rangeEnd)
    (hfree : connections[handle]? = none) :
    Returns (getUnusedHandle connections rangeStart rangeEnd last) := by
  obtain ⟨n, hn, rfl⟩ := exists_iterate_next hend hlast hh
  cases h : getUnusedHandle connections rangeStart rangeEnd last with
  | ok r => exact ⟨r, rfl⟩
  | error =>
    have hused := search_contains h n hn
    rw [HashMap.contains_eq_false.mpr hfree] at hused
    cases hused

/-- The search goes on from a handle of the range. -/
theorem next_le (hrg : rangeStart ≤ rangeEnd) : next rangeStart rangeEnd last ≤ rangeEnd := by
  unfold next
  split
  · exact hrg
  · rename_i hle
    exact UInt16.not_lt.mp hle

/-- The handles that the search looks at. -/
def probed (connections : HashMap UInt16 α) (rangeStart rangeEnd : UInt16) :
    Nat → UInt16 → List UInt16
  | 0, _ => []
  | fuel + 1, last =>
    last :: if connections.contains last then
      probed connections rangeStart rangeEnd fuel (next rangeStart rangeEnd last) else []

/-- What the search looks at, what it finds, and where it will go on. -/
theorem search_ok {fuel : Nat}
    (h : search connections rangeStart rangeEnd fuel last = .ok (handle, last')) :
    ∃ n, probed connections rangeStart rangeEnd fuel last = List.iterate (next rangeStart rangeEnd)
      last (n + 1) ∧ (next rangeStart rangeEnd)^[n] last = handle ∧
      (next rangeStart rangeEnd)^[n + 1] last = last' := by
  induction fuel generalizing last with
  | zero => cases h
  | succ _ ih =>
    unfold search at h
    unfold probed
    split at h
    · rename_i hused
      obtain ⟨n, hprobed, hh, hlast⟩ := ih h
      exact ⟨n + 1, by rw [if_pos hused, hprobed]; rfl, hh, hlast⟩
    · rename_i hfree
      cases h
      exact ⟨0, by rw [if_neg hfree]; rfl, rfl, rfl⟩

theorem search_last {fuel : Nat} (hrg : rangeStart ≤ rangeEnd)
    (h : search connections rangeStart rangeEnd fuel last = .ok (handle, last')) :
    last' ≤ rangeEnd := by
  obtain ⟨n, -, -, rfl⟩ := search_ok h
  rw [Function.iterate_succ_apply']
  exact next_le hrg

end RootCanal.ConnectionHandle
