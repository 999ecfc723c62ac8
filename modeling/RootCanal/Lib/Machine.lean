import RootCanal.Lib.Checked

/-!
# Runs of a state machine

A `Machine` takes inputs one at a time; a step either panics or gives the next state and what
was sent.  `Run C s₀ tr s` is a run from `s₀` to `s` in which **every input satisfied `C` in the
state it was received in**; `tr` records each input with what it made the machine send.  An
unrestricted run is `Run (fun _ _ => True)`.

* `Run.invariant`, `Run.invariant_trace`: what one step preserves, a whole run preserves.  The
  second form lets the invariant speak of the trace.
* `exec` is the executable run; `run_of_exec` and `exists_run` say its answers are runs, so a
  concrete history is a run by evaluation.
-/

namespace Lib

/-- A state machine with inputs `ι` and outputs `ω`, whose steps may panic. -/
structure Machine (σ ι ω : Type) where
  /-- One input. -/
  step : σ → ι → Except Panic (σ × List ω)

namespace Machine

variable {σ ι ω : Type} (M : Machine σ ι ω)

/-- The runs in which every input satisfies `C` when it is received. -/
inductive Run (C : σ → ι → Prop) (s₀ : σ) : List (ι × List ω) → σ → Prop
  | nil : Run C s₀ [] s₀
  | snoc {tr : List (ι × List ω)} {s s' : σ} {i : ι} {out : List ω} :
      Run C s₀ tr s → C s i → M.step s i = .ok (s', out) → Run C s₀ (tr ++ [(i, out)]) s'

variable {M} {C D : σ → ι → Prop} {s₀ s : σ} {tr : List (ι × List ω)}

/-- **The invariant rule.** -/
theorem Run.invariant (P : σ → Prop) (hinit : P s₀)
    (hstep : ∀ s i s' out, P s → C s i → M.step s i = .ok (s', out) → P s')
    (h : M.Run C s₀ tr s) : P s := by
  induction h with
  | nil => exact hinit
  | snoc _ hC hs ih => exact hstep _ _ _ _ ih hC hs

/-- The invariant rule for a property of the trace and the state together. -/
theorem Run.invariant_trace (P : List (ι × List ω) → σ → Prop) (hinit : P [] s₀)
    (hstep : ∀ tr s i s' out, P tr s → C s i → M.step s i = .ok (s', out) → P (tr ++ [(i, out)]) s')
    (h : M.Run C s₀ tr s) : P tr s := by
  induction h with
  | nil => exact hinit
  | snoc _ hC hs ih => exact hstep _ _ _ _ _ ih hC hs

/-- A run under a condition is a run under any weaker one. -/
theorem Run.mono (hCD : ∀ s i, C s i → D s i) (h : M.Run C s₀ tr s) : M.Run D s₀ tr s := by
  induction h with
  | nil => exact .nil
  | snoc _ hC hs ih => exact .snoc ih (hCD _ _ hC) hs

/-- A run goes on from where another ended. -/
theorem Run.append {tr' s'} (h : M.Run C s₀ tr s) (h' : M.Run C s tr' s') :
    M.Run C s₀ (tr ++ tr') s' := by
  induction h' with
  | nil => simpa using h
  | snoc _ hC hs ih =>
    rw [← List.append_assoc]
    exact .snoc ih hC hs

variable (M)

/-- Run a list of inputs: the trace and the state it ends in. -/
def exec : σ → List ι → Except Panic (List (ι × List ω) × σ)
  | s, [] => .ok ([], s)
  | s, i :: is => do
    let (s', out) ← M.step s i
    let (tr, s'') ← exec s' is
    .ok ((i, out) :: tr, s'')

/-- Every input of the list satisfies `C` when it is received. -/
def Meets (C : σ → ι → Prop) : σ → List ι → Prop
  | _, [] => True
  | s, i :: is => C s i ∧
      match M.step s i with
      | .ok (s', _) => Meets C s' is
      | .error _ => True

instance Meets.decidable (C : σ → ι → Prop) [∀ s i, Decidable (C s i)] :
    (s : σ) → (is : List ι) → Decidable (M.Meets C s is)
  | _, [] => isTrue trivial
  | s, i :: is =>
    have : Decidable (match M.step s i with
        | .ok (s', _) => M.Meets C s' is
        | .error _ => True) :=
      match M.step s i with
      | .ok (s', _) => Meets.decidable C s' is
      | .error _ => isTrue trivial
    inferInstanceAs (Decidable (_ ∧ _))

variable {M}

variable {is : List ι}

/-- A list of inputs runs to its end when its first input does and the rest do from there. -/
theorem exec_cons_returns {i} : Returns (M.exec s (i :: is)) ↔
    ∃ s' out, M.step s i = .ok (s', out) ∧ Returns (M.exec s' is) := by
  constructor
  · rintro ⟨r, h⟩
    obtain ⟨⟨s', out⟩, hs, h⟩ := bind_eq_ok.mp h
    obtain ⟨rest, hrs, -⟩ := bind_eq_ok.mp h
    exact ⟨s', out, hs, rest, hrs⟩
  · rintro ⟨s', out, hs, rest, hrs⟩
    exact ⟨_, bind_eq_ok.mpr ⟨(s', out), hs, bind_eq_ok.mpr ⟨rest, hrs, rfl⟩⟩⟩

/-- A list of inputs that meets `C` runs to its end, if every step that meets it returns, in every
state that can be reached. -/
theorem exec_returns {P : σ → Prop} (hreturns : ∀ s i, P s → C s i → Returns (M.step s i))
    (hstep : ∀ s i s' out, P s → M.step s i = .ok (s', out) → P s') (hs : P s)
    (hmeets : M.Meets C s is) :
    Returns (M.exec s is) := by
  induction is generalizing s with
  | nil => exact ⟨_, rfl⟩
  | cons i _ ih =>
    obtain ⟨hC, hmeets⟩ := hmeets
    obtain ⟨⟨s', out⟩, hone⟩ := hreturns s i hs hC
    rw [hone] at hmeets
    exact exec_cons_returns.mpr ⟨s', out, hone, ih (hstep s i s' out hs hone) hmeets⟩

/-- **When a list of inputs runs without an error `e`.**  If a step ends in `e` exactly when `C`
does not hold, in every state the inputs can reach, then the list does exactly when its inputs do
not meet `C`. -/
theorem exec_avoids_iff {e : Panic} {P : σ → Prop} {K : ι → Prop}
    (havoids : ∀ s i, P s → K i → (M.step s i ≠ .error e ↔ C s i))
    (hstep : ∀ s i s' out, P s → K i → M.step s i = .ok (s', out) → P s')
    (hs : P s) (his : ∀ i ∈ is, K i) : M.exec s is ≠ .error e ↔ M.Meets C s is := by
  induction is generalizing s with
  | nil =>
    constructor
    · intro _
      exact trivial
    · nofun
  | cons i _ ih =>
    have hone := havoids s i hs (his i (List.mem_cons_self ..))
    unfold exec Meets
    rw [bind_ne_error_iff, hone]
    refine and_congr_right fun hC => ?_
    cases hstep' : M.step s i with
    | error =>
      constructor
      · intro _
        exact trivial
      · rintro _ a ha
        cases ha
    | ok r =>
      obtain ⟨s', out⟩ := r
      have hs' := hstep s i s' out hs (his i (List.mem_cons_self ..)) hstep'
      have hrs := ih hs' fun j hj => his j (List.mem_cons_of_mem _ hj)
      constructor
      · intro h
        exact hrs.mp (bind_ne_error_iff.mp (h (s', out) rfl)).1
      · rintro h a ha
        cases ha
        exact bind_ne_error_iff.mpr ⟨hrs.mpr h, fun _ _ => nofun⟩

/-- Running two lists of inputs one after the other. -/
theorem exec_append {is js tr' s'} (h : M.exec s₀ is = .ok (tr, s)) :
    M.exec s₀ (is ++ js) = .ok (tr', s') ↔ ∃ tr₂, M.exec s js = .ok (tr₂, s') ∧
      tr' = tr ++ tr₂ := by
  induction is generalizing s₀ tr tr' with
  | nil =>
    cases h
    simp
  | cons _ _ ih =>
    obtain ⟨⟨s₁, out⟩, hs, h⟩ := bind_eq_ok.mp h
    obtain ⟨⟨tr₁, s₂⟩, hrs, h⟩ := bind_eq_ok.mp h
    cases h
    rw [List.cons_append, exec, bind_eq_ok]
    constructor
    · rintro ⟨⟨s₃, out'⟩, hs', h⟩
      cases hs.symm.trans hs'
      obtain ⟨⟨tr₂, s₄⟩, hboth, h⟩ := bind_eq_ok.mp h
      cases h
      obtain ⟨tr₃, hjs, rfl⟩ := (ih hrs).mp hboth
      exact ⟨tr₃, hjs, rfl⟩
    · rintro ⟨tr₂, hjs, rfl⟩
      exact ⟨(s₁, out), hs, bind_eq_ok.mpr ⟨(tr₁ ++ tr₂, s'), (ih hrs).mpr ⟨tr₂, hjs, rfl⟩, rfl⟩⟩

theorem exec_cons {i out s'} (hstep : M.step s₀ i = .ok (s, out)) (h : M.exec s is = .ok (tr, s')) :
    M.exec s₀ (i :: is) = .ok ((i, out) :: tr, s') :=
  bind_eq_ok.mpr ⟨(s, out), hstep, bind_eq_ok.mpr ⟨(tr, s'), h, rfl⟩⟩

theorem exec_snoc {i out s'} (h : M.exec s₀ is = .ok (tr, s)) (hstep : M.step s i = .ok (s', out)) :
    M.exec s₀ (is ++ [i]) = .ok (tr ++ [(i, out)], s') :=
  (exec_append h).mpr ⟨_, exec_cons hstep rfl, rfl⟩

/-- What `exec` computes is a run. -/
theorem run_of_exec (hmeets : M.Meets C s₀ is) (h : M.exec s₀ is = .ok (tr, s)) :
    M.Run C s₀ tr s := by
  induction is generalizing s₀ tr with
  | nil =>
    cases h
    exact .nil
  | cons i _ ih =>
    obtain ⟨⟨s', out⟩, hs, h⟩ := bind_eq_ok.mp h
    obtain ⟨⟨tr', s''⟩, hrs, h⟩ := bind_eq_ok.mp h
    cases h
    obtain ⟨hC, hmeets⟩ := hmeets
    rw [hs] at hmeets
    have hone : M.Run C s₀ [(i, out)] s' := Run.snoc .nil hC hs
    exact hone.append (ih hmeets hrs)

variable (M) in
/-- Running the list of inputs ends without a panic, with a trace and a state that satisfy `P`. -/
def ExecTo (P : List (ι × List ω) → σ → Prop) (s₀ : σ) (is : List ι) : Prop :=
  match M.exec s₀ is with
  | .ok (tr, s) => P tr s
  | .error _ => False

instance ExecTo.decidable (P : List (ι × List ω) → σ → Prop) [∀ tr s, Decidable (P tr s)] (s₀ : σ)
    (is : List ι) : Decidable (M.ExecTo P s₀ is) :=
  match h : M.exec s₀ is with
  | .ok (tr, s) => decidable_of_iff (P tr s) (by rw [ExecTo, h])
  | .error _ => isFalse (by rw [ExecTo, h]; exact not_false)

/-- An evaluated history is a run to a state of which its property holds. -/
theorem exists_run {P} (hmeets : M.Meets C s₀ is) (h : M.ExecTo P s₀ is) :
    ∃ tr s, M.Run C s₀ tr s ∧ P tr s := by
  unfold ExecTo at h
  split at h
  · rename_i tr s hx
    exact ⟨tr, s, run_of_exec hmeets hx, h⟩
  · exact absurd h not_false

/-- A condition that always holds is met. -/
theorem meets_of_forall (hC : ∀ s i, C s i) : M.Meets C s is := by
  induction is generalizing s with
  | nil => exact trivial
  | cons i _ ih =>
    refine ⟨hC s i, ?_⟩
    cases M.step s i with
    | ok r => exact ih
    | error => exact trivial

/-- An evaluated history is an unrestricted run. -/
theorem exists_free_run {P} (h : M.ExecTo P s₀ is) :
    ∃ tr s, M.Run (fun _ _ => True) s₀ tr s ∧ P tr s :=
  exists_run (meets_of_forall fun _ _ => trivial) h

variable (M) in
/-- The run of a list of inputs, and what holds of it because it is a run. -/
theorem run_and {P Q : List (ι × List ω) → σ → Prop} (is : List ι) (hmeets : M.Meets C s₀ is)
    (h : M.ExecTo P s₀ is) (hQ : ∀ tr s, M.Run C s₀ tr s → P tr s → Q tr s) : ∃ tr s,
    M.Run C s₀ tr s ∧ P tr s ∧ Q tr s := by
  obtain ⟨tr, s, hrun, hP⟩ := exists_run hmeets h
  exact ⟨tr, s, hrun, hP, hQ tr s hrun hP⟩

end Machine

end Lib
