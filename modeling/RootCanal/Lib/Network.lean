import RootCanal.Lib.Machine
import Mathlib.Logic.Function.Basic

/-!
# Machines on one medium

Any number of copies of a machine, one at each index.  What a node sends is on its way to every
other node, and arrives at each in any order.  An input of the network is an input of one node, or
the delivery of a message to a node.

* `step_of_network`: a step of the network is a step of one node, the one that `taken` names.
* `Holds N P`: `N` of every node and `P` of every message on its way.  **`Holds.step`: what the step
  of a node keeps, the network keeps.**
-/

namespace Lib.Network

/-- The nodes, and the messages on their way to each. -/
structure State (κ σ μ : Type) where
  node : κ → σ
  inbox : κ → List μ

/-- An input of the network. -/
inductive Input (κ ι ε : Type)
  /-- An input of one node. -/
  | act (x : κ) (i : ι)
  /-- A message to a node is delivered, the one at a position of its inbox. -/
  | deliver (x : κ) (n : Nat) (e : ε)

variable {κ σ ι ω μ ε : Type} [DecidableEq κ]

namespace State

/-- A node changes, and sends messages to all the others. -/
def act (s : State κ σ μ) (x : κ) (v : σ) (ms : List μ) : State κ σ μ where
  node := Function.update s.node x v
  inbox y := if y = x then s.inbox y else s.inbox y ++ ms

/-- The message that an input delivers leaves the inbox. -/
def take (s : State κ σ μ) : Input κ ι ε → State κ σ μ
  | .act _ _ => s
  | .deliver x n _ => { s with inbox := Function.update s.inbox x ((s.inbox x).eraseIdx n) }

/-- A message is on its way to some node. -/
def InFlight (s : State κ σ μ) (m : μ) : Prop := ∃ x, m ∈ s.inbox x

variable {s : State κ σ μ} {x : κ} {v : σ} {ms : List μ} {m : μ} {i : Input κ ι ε}

theorem take_node : (s.take i).node = s.node := by
  cases i <;> rfl

theorem act_node (y : κ) : (s.act x v ms).node y = if y = x then v else s.node y :=
  Function.update_apply ..

theorem inFlight_of_act (h : (s.act x v ms).InFlight m) : s.InFlight m ∨ m ∈ ms := by
  obtain ⟨y, hm⟩ := h
  dsimp only [act] at hm
  split at hm
  · exact .inl ⟨y, hm⟩
  · rcases List.mem_append.mp hm with hm | hm
    · exact .inl ⟨y, hm⟩
    · exact .inr hm

theorem inFlight_of_take (h : (s.take i).InFlight m) : s.InFlight m := by
  cases i with
  | act => exact h
  | deliver x =>
    obtain ⟨y, hm⟩ := h
    dsimp only [take] at hm
    rcases eq_or_ne y x with rfl | hne
    · rw [Function.update_self] at hm
      exact ⟨y, List.mem_of_mem_eraseIdx hm⟩
    · rw [Function.update_of_ne hne] at hm
      exact ⟨y, hm⟩

end State

/-! ## The machine of the network -/

/-- The node that an input is for, and what it takes. -/
def taken (receive : ε → μ → ι) (s : State κ σ μ) : Input κ ι ε → Option (κ × ι)
  | .act x i => some (x, i)
  | .deliver x n e => (s.inbox x)[n]?.map fun m => (x, receive e m)

/-- Copies of a machine. `sent` are the messages among the outputs, and `receive` is the input by
which a message arrives. -/
def machine (M : Machine σ ι ω) (sent : ω → Option μ) (receive : ε → μ → ι) :
    Machine (State κ σ μ) (Input κ ι ε) (κ × ω) where
  step s i :=
    match taken receive s i with
    | none => .ok (s, [])
    | some (x, j) => do
      let (v, out) ← M.step (s.node x) j
      .ok ((s.take i).act x v (out.filterMap sent), out.map (x, ·))

section step

variable {M : Machine σ ι ω} {sent : ω → Option μ} {receive : ε → μ → ι} {s s' : State κ σ μ}
  {i : Input κ ι ε} {outs : List (κ × ω)} {x : κ} {j : ι}

/-- **A step of the network is a step of one node.** -/
theorem step_of_network (h : (machine M sent receive).step s i = .ok (s', outs)) :
    taken receive s i = none ∧ s' = s ∨
    ∃ x j v out, taken receive s i = some (x, j) ∧ M.step (s.node x) j = .ok (v, out) ∧
      outs = out.map (x, ·) ∧ s' = (s.take i).act x v (out.filterMap sent) := by
  unfold machine at h
  dsimp only at h
  split at h
  · rename_i hn
    cases h
    exact .inl ⟨hn, rfl⟩
  · rename_i x j hsome
    obtain ⟨⟨v, out⟩, hstep, h⟩ := bind_eq_ok.mp h
    cases h
    exact .inr ⟨x, j, v, out, hsome, hstep, rfl, rfl⟩

omit [DecidableEq κ] in
/-- A node takes an input of its own or a message that was on its way to it. -/
theorem taken_cases (h : taken receive s i = some (x, j)) :
    i = .act x j ∨ ∃ n e m, i = .deliver x n e ∧ (s.inbox x)[n]? = some m ∧ j = receive e m := by
  cases i with
  | act =>
    cases h
    exact .inl rfl
  | deliver _ n e =>
    obtain ⟨m, hm, h⟩ := Option.map_eq_some_iff.mp h
    cases h
    exact .inr ⟨n, e, m, rfl, hm, rfl⟩

/-! ## What the nodes keep -/

/-- `N` of every node, and `P` of every message on its way. -/
structure Holds (N : σ → Prop) (P : μ → Prop) (s : State κ σ μ) : Prop where
  node : ∀ x, N (s.node x)
  inFlight : ∀ m, s.InFlight m → P m

/-- **What the step of a node keeps, the network keeps.** -/
theorem Holds.step {N P} (hs : Holds N P s)
    (hnode : ∀ x j v out, taken receive s i = some (x, j) → M.step (s.node x) j = .ok (v, out) →
      N v ∧ ∀ m ∈ out.filterMap sent, P m)
        (h : (machine M sent receive).step s i = .ok (s', outs)) :
    Holds N P s' := by
  rcases step_of_network h with ⟨-, rfl⟩ | ⟨x, j, v, out, htk, hstep, -, rfl⟩
  · exact hs
  · obtain ⟨hv, hms⟩ := hnode x j v out htk hstep
    constructor
    · intro y
      rw [State.act_node, State.take_node]
      split
      · exact hv
      · exact hs.node y
    · intro m hm
      rcases State.inFlight_of_act hm with hm | hm
      · exact hs.inFlight m (State.inFlight_of_take hm)
      · exact hms m hm

end step

end Lib.Network
