import RootCanal.Lib.Checked

/-!
# Buffers of octets

* `writeAt` writes octets into a buffer of fixed length; a write past its end is an error.
* `readLe` and `writeLe` are the little endian fields of a packet, with their round trip
  (`readLe_writeLe`).
-/

namespace Lib

/-- Write octets into a buffer, from an offset on. -/
def writeAt (buffer : List UInt8) (offset : Nat) (octets : List UInt8) :
    Except Panic (List UInt8) :=
  if offset + octets.length ≤ buffer.length then
    .ok (buffer.take offset ++ octets ++ buffer.drop (offset + octets.length))
  else .error .overrun

section writeAt

variable {buffer : List UInt8}

/-- A write that stays in the buffer extends what was written before. -/
theorem writeAt_extends (octets : List UInt8) {written}
    (hwritten : buffer.take written.length = written)
    (h : written.length + octets.length ≤ buffer.length) :
    ∃ buffer', writeAt buffer written.length octets = .ok buffer' ∧ buffer'.length = buffer.length ∧
      buffer'.take (written ++ octets).length = written ++ octets := by
  refine ⟨_, if_pos h, ?_, ?_⟩
  · simp only [List.length_append, List.length_take, List.length_drop]
    omega
  · rw [hwritten, List.take_left]

end writeAt

/-- The number whose octets these are, the lowest first. -/
def readLe (octets : List UInt8) : Nat := Nat.ofDigits 256 (octets.map UInt8.toNat)

/-- The octets of a number, the lowest first, in a field of this width. -/
def writeLe : Nat → Nat → List UInt8
  | 0, _ => []
  | width + 1, n => UInt8.ofNat n :: writeLe width (n / 256)

@[simp] theorem length_writeLe (width n : Nat) : (writeLe width n).length = width := by
  induction width generalizing n with
  | zero => rfl
  | succ _ ih => rw [writeLe, List.length_cons, ih]

/-- A number that fits its field is read back. -/
theorem readLe_writeLe {width n : Nat} (h : n < 256 ^ width) : readLe (writeLe width n) = n := by
  induction width generalizing n with
  | zero =>
    rw [Nat.lt_one_iff.mp h]
    rfl
  | succ width ih =>
    have hrs : n / 256 < 256 ^ width := by
      rw [Nat.pow_succ] at h
      exact Nat.div_lt_of_lt_mul (by rwa [Nat.mul_comm] at h)
    have hread : readLe (writeLe width (n / 256)) = n / 256 := ih hrs
    unfold readLe at hread ⊢
    rw [writeLe, List.map_cons, Nat.ofDigits_cons, hread, UInt8.toNat_ofNat']
    exact Nat.mod_add_div n 256

end Lib
