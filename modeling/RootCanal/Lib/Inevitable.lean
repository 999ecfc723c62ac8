import Mathlib.Order.WellFounded
import RootCanal.Lib.Machine

/-!
# What a machine comes to

`Concludes C Idle P s`: from `s`, whichever inputs come, as long as each satisfies `C` and does
something, **there are only finitely many, none of them panics, and where they stop `P` holds**.  An
input that does nothing (`Idle`) may come at any time; it is not counted.

* `concludes_of_descent`: it is enough that each input that does something goes down in a well
  founded relation.
-/

namespace Lib.Machine

variable {σ ι ω : Type} (M : Machine σ ι ω) (C Idle : σ → ι → Prop) (P : σ → Prop)

/-- Whatever comes, the machine comes to a state with `P`. -/
inductive Concludes : σ → Prop
  | intro {s : σ} : (P s ∨ ∃ i, C s i ∧ ¬ Idle s i) →
      (∀ i, C s i → ¬ Idle s i → Returns (M.step s i)) →
      (∀ i s' out, C s i → ¬ Idle s i → M.step s i = .ok (s', out) → Concludes s') → Concludes s

variable {M C Idle P}

/-- **The rule of descent.** The invariant `I` relates the state to what goes down. -/
theorem concludes_of_descent {τ : Type} {r} (hwf : WellFounded r) (I : τ → σ → Prop)
    (hprog : ∀ a s, I a s → P s ∨ ∃ i, C s i ∧ ¬ Idle s i)
    (hstep : ∀ a s i, I a s → C s i → ¬ Idle s i → ∃ s' out a', M.step s i = .ok (s', out) ∧
      I a' s' ∧ r a' a)
    {a s} (h : I a s) : M.Concludes C Idle P s := by
  induction a using hwf.induction generalizing s with
  | _ a ih =>
    refine .intro (hprog a s h) (fun i hC hidle => ?_) fun i s' out hC hidle hs => ?_
    · obtain ⟨s', out, -, hs, -, -⟩ := hstep a s i h hC hidle
      exact ⟨(s', out), hs⟩
    · obtain ⟨s'', out', a', hs', h', hr⟩ := hstep a s i h hC hidle
      cases hs.symm.trans hs'
      exact ih a' hr h'

end Lib.Machine
