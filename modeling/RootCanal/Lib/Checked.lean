import Mathlib

/-!
# Computations that may panic

A function either returns or does not: it panics, aborts, or loops.  `Panic` lists the reasons that
matter for a protocol state machine; a computation is an `Except Panic`, and `bind_eq_ok` is the one
rule every inversion below uses: a sequence returned, so each of its parts did.

Arithmetic on `u32` is parameterised by `chk`, whether the build traps overflow.  When it
returns, the result is the wrapped one in either build (`mul_ok`, `add_ok`, `sub_ok`); when
the build traps, it returns exactly if the exact result is representable (`mul_isOk`,
`add_isOk`, `sub_isOk`).
-/

namespace Lib

/-- Why a computation panics. -/
inductive Panic
  /-- `unwrap` on `None`, which is what a failed lookup ends in. -/
  | unwrapNone
  /-- `unwrap` on `Err`: a failed conversion. -/
  | unwrapErr
  /-- Arithmetic overflow or underflow in a build that traps it. -/
  | overflow
  /-- Division by zero. -/
  | divideByZero
  /-- A packet field too narrow for its value. -/
  | encode
  /-- `panic!` or `unreachable!`. -/
  | explicit
  /-- A failed assertion, or an explicit abort. -/
  | assertion
  /-- A loop that never ends. -/
  | hang
  /-- A write past the end of a buffer, of which the language says nothing. -/
  | overrun
deriving DecidableEq, Repr

/-- Whether a computation panics for a given reason can be evaluated, whatever it would return. -/
instance decidablePanics {α : Type} (e : Panic) : (x : Except Panic α) → Decidable (x = .error e)
  | .ok _ => isFalse nofun
  | .error e' => decidable_of_iff (e' = e) ⟨congrArg _, Except.error.inj⟩

/-- `Option::unwrap`. -/
def unwrap {α : Type} : Option α → Except Panic α
  | some a => .ok a
  | none => .error .unwrapNone

@[simp] theorem unwrap_eq_ok {α : Type} {o : Option α} {a : α} : unwrap o = .ok a ↔ o = some a := by
  cases o <;> simp [unwrap]

/-- `Result::unwrap`, on a result of which only the value matters. -/
def unwrapResult {α : Type} : Option α → Except Panic α
  | some a => .ok a
  | none => .error .unwrapErr

@[simp] theorem unwrapResult_eq_ok {α : Type} {o : Option α} {a : α} :
    unwrapResult o = .ok a ↔ o = some a := by
  cases o <;> simp [unwrapResult]

/-- Abort unless the condition holds. -/
def assert : Bool → Except Panic Unit
  | true => .ok ()
  | false => .error .assertion

@[simp] theorem assert_eq_ok {b : Bool} {u} : assert b = .ok u ↔ b = true := by
  cases b <;> simp [assert]

/-- An assertion fails exactly if it is false. -/
theorem assert_ne_assertion_iff {b : Bool} : assert b ≠ .error .assertion ↔ b = true := by
  cases b <;> simp [assert]

/-- Abort unless there is a value. -/
def assertSome {α : Type} : Option α → Except Panic α
  | some a => .ok a
  | none => .error .assertion

@[simp] theorem assertSome_eq_ok {α : Type} {o : Option α} {a : α} :
    assertSome o = .ok a ↔ o = some a := by
  cases o <;> simp [assertSome]

/-- The assertion of a value fails exactly if there is none. -/
theorem assertSome_ne_assertion_iff {α : Type} {o : Option α} :
    assertSome o ≠ .error .assertion ↔ o ≠ none := by
  cases o <;> simp [assertSome]

section bind

variable {ε α β : Type}

/-- A sequence returned, so both parts did. -/
theorem bind_eq_ok {x : Except ε α} {f : α → Except ε β} {b : β} :
    (x >>= f) = .ok b ↔ ∃ a, x = .ok a ∧ f a = .ok b := by
  cases x with
  | error =>
    constructor
    · intro h
      cases h
    · rintro ⟨a, h, -⟩
      cases h
  | ok a =>
    constructor
    · intro h
      exact ⟨a, rfl, h⟩
    · rintro ⟨a', h, h'⟩
      cases h
      exact h'

/-- A check of every element passed. -/
theorem forM_eq_ok {f : α → Except ε Unit} {as : List α} :
    as.forM f = .ok () ↔ ∀ a ∈ as, f a = .ok () := by
  induction as with
  | nil => exact iff_of_true rfl nofun
  | cons _ _ ih =>
    rw [List.forM_eq_forM, List.forM_cons, bind_eq_ok, List.forall_mem_cons, ← ih]
    exact ⟨fun ⟨_, ha, h⟩ => ⟨ha, h⟩, fun ⟨ha, h⟩ => ⟨(), ha, h⟩⟩

/-- A sequence does not end in an error when its parts do not. -/
theorem bind_ne_error_iff {x : Except ε α} {f : α → Except ε β} {e : ε} :
    (x >>= f) ≠ .error e ↔ x ≠ .error e ∧ ∀ a, x = .ok a → f a ≠ .error e := by
  cases x with
  | error =>
    constructor
    · intro h
      refine ⟨?_, nofun⟩
      intro he
      cases he
      exact h rfl
    · rintro ⟨h, -⟩ he
      cases he
      exact h rfl
  | ok a =>
    constructor
    · intro h
      refine ⟨nofun, ?_⟩
      intro a' ha
      cases ha
      exact h
    · rintro ⟨-, h⟩
      exact h a rfl

/-- What is done with a result cannot fail. -/
theorem map_ne_error_iff {x : Except ε α} {f : α → β} {e : ε} :
    (x >>= fun a => .ok (f a)) ≠ .error e ↔ x ≠ .error e := by
  rw [bind_ne_error_iff]
  exact and_iff_left fun _ _ => nofun

theorem toOption_eq_some {x : Except ε α} {a : α} : x.toOption = some a ↔ x = .ok a := by
  cases x with
  | error => exact ⟨nofun, nofun⟩
  | ok => simp [Except.toOption]

end bind

section yields

variable {ε α β : Type} {P : β → Prop} {x y : Except ε β} {b : β}

/-- Whatever the computation returns has the property. -/
def Yields (x : Except ε β) (P : β → Prop) : Prop := ∀ b, x = .ok b → P b

theorem Yields.ok (h : P b) : Yields (.ok b : Except ε β) P := by
  rintro _ ⟨⟩
  exact h

theorem Yields.error {e : ε} : Yields (.error e) P := nofun

/-- A weaker result. -/
theorem Yields.mono {Q} (h : Yields x Q) (hpq : ∀ b, Q b → P b) : Yields x P :=
  fun b hb => hpq b (h b hb)

/-- What a sequence yields, from its last part. -/
theorem Yields.bind {x : Except ε α} {f : α → Except ε β} (hf : ∀ a, x = .ok a → Yields (f a) P) :
    Yields (x >>= f) P := by
  intro b hb
  obtain ⟨a, ha, hb⟩ := bind_eq_ok.mp hb
  exact hf a ha b hb

theorem Yields.map {x : Except ε α} {f : α → β} (h : Yields x fun a => P (f a)) :
    Yields (x.map f) P := by
  cases x with
  | error => exact .error
  | ok a => exact .ok (h a rfl)

/-- What the first part yields is known of its value. -/
theorem Yields.seq {Q : α → Prop} {x : Except ε α} {f : α → Except ε β} (hx : Yields x Q)
    (hf : ∀ a, Q a → Yields (f a) P) : Yields (x >>= f) P :=
  .bind fun a ha => hf a (hx a ha)

/-- What both branches yield. -/
theorem Yields.ite {c} [Decidable c] (hx : c → Yields x P) (hy : ¬ c → Yields y P) :
    Yields (if c then x else y) P := by
  split
  · exact hx ‹_›
  · exact hy ‹_›

/-- What an unwrapped value leads to. -/
theorem Yields.unwrap {P : β → Prop} {o : Option α} {f : α → Except Panic β}
    (hf : ∀ a, o = some a → Yields (f a) P) : Yields (Lib.unwrap o >>= f) P :=
  .bind fun a ha => hf a (unwrap_eq_ok.mp ha)

end yields

section raises

variable {ε α β : Type} {P : ε → Prop} {x y : Except ε β}

/-- Whatever error the computation ends in has the property. -/
def Raises (x : Except ε β) (P : ε → Prop) : Prop := ∀ e, x = .error e → P e

theorem Raises.ok {b : β} : Raises (.ok b) P := nofun

theorem Raises.error {e} (h : P e) : Raises (.error e : Except ε β) P := by
  rintro _ ⟨⟩
  exact h

/-- What a sequence raises. -/
theorem Raises.bind {x : Except ε α} {f : α → Except ε β} (hx : Raises x P)
    (hf : ∀ a, Raises (f a) P) : Raises (x >>= f) P := by
  cases x with
  | error e => exact .error (hx e rfl)
  | ok a => exact hf a

/-- What both branches raise. -/
theorem Raises.ite {c} [Decidable c] (hx : Raises x P) (hy : Raises y P) :
    Raises (if c then x else y) P := by
  split
  · exact hx
  · exact hy

/-- What a loop raises. -/
theorem Raises.forM {f : α → Except ε Unit} {as : List α} (hf : ∀ a, Raises (f a) P) :
    Raises (as.forM f) P := by
  induction as with
  | nil => exact .ok
  | cons a _ ih =>
    exact (hf a).bind fun _ => ih

end raises

/-- The computation does not end in `unwrap` on `None`: every lookup in it finds its key. -/
def LookupsFound {α : Type} (x : Except Panic α) : Prop := x ≠ .error .unwrapNone

theorem LookupsFound.ok {α : Type} (a : α) : LookupsFound (.ok a : Except Panic α) := nofun

/-- The lookups of a sequence are found when those of its parts are. -/
theorem LookupsFound.bind {α β : Type} {x : Except Panic α} {f : α → Except Panic β}
    (hx : LookupsFound x) (hf : ∀ a, x = .ok a → LookupsFound (f a)) : LookupsFound (x >>= f) :=
  bind_ne_error_iff.mpr ⟨hx, hf⟩

/-- The lookups of a sequence are those of its parts. -/
theorem lookupsFound_bind_iff {α β : Type} {x : Except Panic α} {f : α → Except Panic β} :
    LookupsFound (x >>= f) ↔ LookupsFound x ∧ ∀ a, x = .ok a → LookupsFound (f a) :=
  bind_ne_error_iff

theorem LookupsFound.unwrap {α : Type} {o : Option α} (ho : o.isSome) :
    LookupsFound (unwrap o) := by
  obtain ⟨a, rfl⟩ := Option.isSome_iff_exists.mp ho
  exact LookupsFound.ok a

theorem unwrapResult_lookups {α : Type} {o : Option α} : LookupsFound (unwrapResult o) := by
  cases o <;> nofun

/-- The computation returned. -/
def Returns {ε α : Type} (x : Except ε α) : Prop := ∃ a, x = .ok a

instance Returns.decidable {ε α : Type} : (x : Except ε α) → Decidable (Returns x)
  | .ok a => isTrue ⟨a, rfl⟩
  | .error _ => isFalse nofun

/-- `unwrap` can only fail by finding nothing. -/
theorem unwrap_returns_iff {α : Type} {o : Option α} : Returns (unwrap o) ↔ o ≠ none := by
  cases o with
  | none => exact ⟨nofun, fun h => absurd rfl h⟩
  | some a => exact ⟨nofun, fun _ => ⟨a, rfl⟩⟩

namespace Checked

/-- `a * b`. -/
def mul (chk : Bool) (a b : UInt32) : Except Panic UInt32 :=
  if chk && decide (2 ^ 32 ≤ a.toNat * b.toNat) then .error .overflow else .ok (a * b)

/-- `a + b`. -/
def add (chk : Bool) (a b : UInt32) : Except Panic UInt32 :=
  if chk && decide (2 ^ 32 ≤ a.toNat + b.toNat) then .error .overflow else .ok (a + b)

/-- `a - b`. -/
def sub (chk : Bool) (a b : UInt32) : Except Panic UInt32 :=
  if chk && decide (a.toNat < b.toNat) then .error .overflow else .ok (a - b)

/-- `a / b`, trapped at zero in every build. -/
def div (a b : UInt32) : Except Panic UInt32 :=
  if b = 0 then .error .divideByZero else .ok (a / b)

/-- The result of a function that is not modelled, or nothing when it overflows. -/
def trapped (n : Option UInt32) : Except Panic UInt32 :=
  match n with
  | some n => .ok n
  | none => .error .overflow

variable {chk : Bool} {a b c : UInt32}

/-- Every value in range is one of 32 bits. -/
theorem exists_toNat {n : Nat} (hn : n < 2 ^ 32) : ∃ a : UInt32, a.toNat = n :=
  ⟨UInt32.ofNat n, UInt32.toNat_ofNat_of_lt' hn⟩

theorem trapped_lookups {n : Option UInt32} : LookupsFound (trapped n) := by
  cases n <;> nofun

theorem mul_lookups : LookupsFound (mul chk a b) := by
  unfold mul
  split <;> nofun

theorem add_lookups : LookupsFound (add chk a b) := by
  unfold add
  split <;> nofun

theorem sub_lookups : LookupsFound (sub chk a b) := by
  unfold sub
  split <;> nofun

theorem div_lookups : LookupsFound (div a b) := by
  unfold div
  split <;> nofun

theorem mul_ok (h : mul chk a b = .ok c) : c = a * b := by
  unfold mul at h
  split at h
  · cases h
  · exact (Except.ok.inj h).symm

theorem add_ok (h : add chk a b = .ok c) : c = a + b := by
  unfold add at h
  split at h
  · cases h
  · exact (Except.ok.inj h).symm

theorem sub_ok (h : sub chk a b = .ok c) : c = a - b := by
  unfold sub at h
  split at h
  · cases h
  · exact (Except.ok.inj h).symm

/-- A trapping product returns exactly when the exact product is representable, and is it. -/
theorem mul_isOk : mul true a b = .ok c ↔ c.toNat = a.toNat * b.toNat := by
  unfold mul
  simp only [Bool.true_and, decide_eq_true_eq]
  split
  · constructor
    · intro h
      cases h
    · have := c.toNat_lt
      omega
  · rw [Except.ok.injEq, ← UInt32.toNat_inj, UInt32.toNat_mul, Nat.mod_eq_of_lt (by omega)]
    exact eq_comm

/-- A trapping sum returns exactly when the exact sum is representable, and is it. -/
theorem add_isOk : add true a b = .ok c ↔ c.toNat = a.toNat + b.toNat := by
  unfold add
  simp only [Bool.true_and, decide_eq_true_eq]
  split
  · constructor
    · intro h
      cases h
    · have := c.toNat_lt
      omega
  · rw [Except.ok.injEq, ← UInt32.toNat_inj, UInt32.toNat_add, Nat.mod_eq_of_lt (by omega)]
    exact eq_comm

/-- A trapping difference returns exactly when it does not go below zero. -/
theorem sub_isOk : sub true a b = .ok c ↔ b.toNat ≤ a.toNat ∧ c.toNat = a.toNat - b.toNat := by
  unfold sub
  simp only [Bool.true_and, decide_eq_true_eq]
  split
  · constructor
    · intro h
      cases h
    · omega
  · have hle : b ≤ a := UInt32.le_iff_toNat_le.mpr (by omega)
    rw [Except.ok.injEq, ← UInt32.toNat_inj, UInt32.toNat_sub_of_le _ _ hle]
    constructor
    · intro h
      exact ⟨by omega, h.symm⟩
    · rintro ⟨-, h⟩
      exact h.symm

/-- A division traps for zero only. -/
theorem div_ok : div a b = .ok c ↔ b ≠ 0 ∧ c = a / b := by
  unfold div
  by_cases hb : b = 0
  · simp [hb]
  · simp [hb, eq_comm]

end Checked

end Lib
