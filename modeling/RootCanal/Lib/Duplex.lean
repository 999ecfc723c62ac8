import RootCanal.Lib.Machine

/-!
# Two machines joined by channels

Two copies of a machine, one on each `Side`, and between them two channels that keep the order.  An
input of the pair is an input of one side, or the delivery of the first message on its way to a
side. `steps_of_step` says what a step of the pair makes of the state.

What a side will be once everything on its way has arrived is a fold over the messages (`settled`).
It does not change when a message is delivered, and a message that is sent adds one step at the end.
`Along P` says that each message on its way finds `P` when it arrives.

One side may lead and the other follow (`Follows`): the leader tells of its changes, and what the
follower has settles to what the leader has.  `Carries P` is a property of all the messages on their
way.
-/

namespace Lib

/-- The sides of a pair. -/
inductive Side
  | left
  | right
deriving DecidableEq, Repr

namespace Side

/-- The other side. -/
def other : Side → Side
  | left => right
  | right => left

@[simp] theorem other_other (x : Side) : x.other.other = x := by
  cases x <;> rfl

@[simp] theorem other_ne (x : Side) : x.other ≠ x := by
  cases x <;> nofun

@[simp] theorem ne_other (x : Side) : x ≠ x.other := by
  cases x <;> nofun

/-- There are two sides. -/
theorem eq_or_eq_other (x y : Side) : y = x ∨ y = x.other := by
  cases x <;> cases y <;> simp [other]

/-- What holds of a side and of the other holds of both. -/
theorem forall_iff {P : Side → Prop} (x : Side) : (∀ y, P y) ↔ P x ∧ P x.other := by
  constructor
  · intro h
    exact ⟨h x, h x.other⟩
  · rintro ⟨h, h'⟩ y
    rcases eq_or_eq_other x y with rfl | rfl
    · exact h
    · exact h'

instance decidableForall {P : Side → Prop} [∀ x, Decidable (P x)] : Decidable (∀ x, P x) :=
  decidable_of_iff (P left ∧ P right) (forall_iff left).symm

instance decidableExists {P : Side → Prop} [∀ x, Decidable (P x)] : Decidable (∃ x, P x) :=
  decidable_of_iff (¬ ∀ x, ¬ P x) not_forall_not

end Side

namespace Duplex

/-- The two sides, and the messages on their way to each. -/
structure State (σ μ : Type) where
  node : Side → σ
  inbox : Side → List μ

namespace State

variable {σ μ : Type}

/-- A side changes, and sends messages to the other. -/
def act (s : State σ μ) (x : Side) (v : σ) (ms : List μ) : State σ μ where
  node := Function.update s.node x v
  inbox := Function.update s.inbox x.other (s.inbox x.other ++ ms)

/-- Messages to a side leave the channel. -/
def take (s : State σ μ) (x : Side) (q : List μ) : State σ μ where
  node := s.node
  inbox := Function.update s.inbox x q

variable (s : State σ μ) (x : Side) (v : σ) (ms q : List μ)

@[simp] theorem act_node_self : (s.act x v ms).node x = v := by simp [act]

@[simp] theorem act_node_other : (s.act x v ms).node x.other = s.node x.other := by simp [act]

@[simp] theorem act_inbox_self : (s.act x v ms).inbox x = s.inbox x := by simp [act]

@[simp] theorem act_inbox_other : (s.act x v ms).inbox x.other = s.inbox x.other ++ ms := by
  simp [act]

@[simp] theorem take_node : (s.take x q).node = s.node := rfl

@[simp] theorem take_inbox_self : (s.take x q).inbox x = q := by simp [take]

@[simp] theorem take_inbox_other : (s.take x q).inbox x.other = s.inbox x.other := by simp [take]

variable {s} in
/-- Two states are the same when they are at a side and at the other. -/
theorem eq_of_sides {s' : State σ μ} (hself : s.node x = s'.node x)
    (hoth : s.node x.other = s'.node x.other) (hin : s.inbox x = s'.inbox x)
    (hin' : s.inbox x.other = s'.inbox x.other) : s = s' := by
  have hnode : s.node = s'.node := funext ((Side.forall_iff x).mpr ⟨hself, hoth⟩)
  have hboth : s.inbox = s'.inbox := funext ((Side.forall_iff x).mpr ⟨hin, hin'⟩)
  cases s
  cases s'
  cases hnode
  cases hboth
  rfl

@[simp] theorem act_idle : s.act x (s.node x) [] = s :=
  eq_of_sides x (by simp) (by simp) (by simp) (by simp)

theorem take_self : s.take x (s.inbox x) = s := eq_of_sides x rfl rfl (by simp) (by simp)

end State

/-! ## The machine of the pair -/

/-- An input of the pair. -/
inductive Input (ι ε : Type)
  /-- An input of one side. -/
  | act (x : Side) (i : ι)
  /-- The first message to a side is delivered. -/
  | deliver (x : Side) (e : ε)

variable {σ ι ω μ ε : Type}

/-- Two copies of a machine. `sent` are the messages among the outputs, and `receive` is the input
by which a message arrives. -/
def machine (M : Machine σ ι ω) (sent : ω → Option μ) (receive : ε → μ → ι) :
    Machine (State σ μ) (Input ι ε) (Side × ω) where
  step s
    | .act x i => do
      let (v, out) ← M.step (s.node x) i
      .ok (s.act x v (out.filterMap sent), out.map (x, ·))
    | .deliver x e =>
      match s.inbox x with
      | [] => .ok (s, [])
      | m :: q => do
        let (v, out) ← M.step (s.node x) (receive e m)
        .ok ((s.take x q).act x v (out.filterMap sent), out.map (x, ·))

/-- What a step of the pair does. -/
inductive Steps (M : Machine σ ι ω) (sent : ω → Option μ) (receive : ε → μ → ι) (s : State σ μ) :
    Input ι ε → State σ μ → Prop
  | act {x : Side} {i : ι} {v : σ} {out : List ω} :
      M.step (s.node x) i = .ok (v, out) →
      Steps M sent receive s (.act x i) (s.act x v (out.filterMap sent))
  | idle {x : Side} {e : ε} : s.inbox x = [] → Steps M sent receive s (.deliver x e) s
  | deliver {x : Side} {e : ε} {m : μ} {q : List μ} {v : σ} {out : List ω} :
      s.inbox x = m :: q → M.step (s.node x) (receive e m) = .ok (v, out) →
      Steps M sent receive s (.deliver x e) ((s.take x q).act x v (out.filterMap sent))

theorem steps_of_step {M : Machine σ ι ω} {sent : ω → Option μ} {receive : ε → μ → ι}
    {s s' : State σ μ} {i : Input ι ε} {outs : List (Side × ω)}
    (h : (machine M sent receive).step s i = .ok (s', outs)) : Steps M sent receive s i s' := by
  cases i with
  | act =>
    obtain ⟨⟨v, out⟩, hstep, h⟩ := bind_eq_ok.mp h
    cases h
    exact .act hstep
  | deliver =>
    unfold machine at h
    dsimp only at h
    split at h
    · rename_i hemp
      cases h
      exact .idle hemp
    · rename_i m q hin
      obtain ⟨⟨v, out⟩, hstep, h⟩ := bind_eq_ok.mp h
      cases h
      exact .deliver hin hstep

section errors

variable {M : Machine σ ι ω} {sent : ω → Option μ} {receive : ε → μ → ι} {s : State σ μ} {x : Side}

/-- A step of the pair ends in an error when the step of the side does. -/
theorem act_ne_error_iff {i e} :
    (machine M sent receive).step s (.act x i) ≠ .error e ↔ M.step (s.node x) i ≠ .error e := by
  refine bind_ne_error_iff.trans (and_iff_left ?_)
  nofun

theorem deliver_ne_error_iff {c e} : (machine M sent receive).step s (.deliver x c) ≠ .error e ↔
      ∀ m ∈ (s.inbox x).head?, M.step (s.node x) (receive c m) ≠ .error e := by
  unfold machine
  dsimp only
  cases hin : s.inbox x with
  | nil => exact iff_of_true nofun fun m hm => by cases hm
  | cons =>
    rw [bind_ne_error_iff, and_iff_left fun _ _ => nofun]
    simp

end errors

/-! ## What the sides settle to -/

section settle

variable (arrive : σ → μ → σ)

/-- What a side is once everything on its way has arrived. -/
def settled (s : State σ μ) (x : Side) : σ := (s.inbox x).foldl arrive (s.node x)

/-- Each message finds `P` when it arrives. -/
def Along (P : σ → μ → Prop) : σ → List μ → Prop
  | _, [] => True
  | v, m :: q => P v m ∧ Along P (arrive v m) q

variable {arrive} {P : σ → μ → Prop} {v : σ} {q ms : List μ}

theorem along_append :
    Along arrive P v (q ++ ms) ↔ Along arrive P v q ∧ Along arrive P (q.foldl arrive v) ms := by
  induction q generalizing v with
  | nil => simp [Along]
  | cons _ _ ih => simp [Along, ih, and_assoc]

variable {s : State σ μ} {x : Side} {m : μ}

/-- A delivery changes nothing of what the sides settle to. -/
theorem settled_deliver (h : s.inbox x = m :: q) (y : Side) :
    settled arrive ((s.take x q).act x (arrive (s.node x) m) []) y = settled arrive s y := by
  rcases Side.eq_or_eq_other x y with rfl | rfl
  · simp [settled, h]
  · simp [settled]

theorem settled_act_self : settled arrive (s.act x v ms) x = (s.inbox x).foldl arrive v := by
  simp [settled]

/-- The messages that a side sends come last. -/
theorem settled_act_other :
    settled arrive (s.act x v ms) x.other = ms.foldl arrive (settled arrive s x.other) := by
  simp [settled]

end settle

/-! ## A side that follows the other -/

section follow

variable {β : Type} (arrive : β → μ → β) (lead view : σ → β)

/-- What the other side sees, once everything on its way has arrived, is what this side has. -/
def Follows (x : Side) (s : State σ μ) : Prop :=
  (s.inbox x.other).foldl arrive (view (s.node x.other)) = lead (s.node x)

variable {arrive lead view} {s : State σ μ} {x : Side} {v : σ} {ms q : List μ} {m : μ}
  (h : Follows arrive lead view x s)

include h

/-- The leader tells of its change. -/
theorem Follows.act_leader
    (hv : ms.foldl arrive (lead (s.node x)) = lead v) : Follows arrive lead view x
    (s.act x v ms) := by
  unfold Follows at h ⊢
  simp [h, hv]

/-- The follower changes nothing of its own accord. -/
theorem Follows.act_follower (hv : view v = view (s.node x.other)) :
    Follows arrive lead view x (s.act x.other v ms) := by
  unfold Follows at h ⊢
  have hnode : (s.act x.other v ms).node x = s.node x := by
    simpa using s.act_node_other x.other v ms
  rw [hnode, State.act_inbox_self, State.act_node_self, hv, h]

theorem Follows.take_leader : Follows arrive lead view x (s.take x q) := by
  unfold Follows at h ⊢
  simp [h]

/-- A message arrives at the follower. -/
theorem Follows.deliver_follower (hq : s.inbox x.other = m :: q)
    (hv : view v = arrive (view (s.node x.other)) m) :
    Follows arrive lead view x ((s.take x.other q).act x.other v ms) := by
  unfold Follows at h ⊢
  have hnode : ((s.take x.other q).act x.other v ms).node x = s.node x := by
    simpa using (s.take x.other q).act_node_other x.other v ms
  rw [hnode, State.act_inbox_self, State.act_node_self, State.take_inbox_self, hv, ← h, hq,
    List.foldl_cons]

end follow

/-! ## All the messages on their way -/

section carry

variable (P : Side → μ → Prop)

/-- Every message on its way to a side satisfies `P` for that side. -/
def Carries (s : State σ μ) : Prop := ∀ x, ∀ m ∈ s.inbox x, P x m

variable {P} {s : State σ μ} {x : Side} {v : σ} {ms q : List μ} {m : μ}

theorem Carries.act (h : Carries P s) (hms : ∀ m ∈ ms, P x.other m) : Carries P (s.act x v ms) := by
  refine (Side.forall_iff x).mpr ⟨?_, ?_⟩
  · rw [State.act_inbox_self]
    exact h x
  · rw [State.act_inbox_other]
    intro m hm
    rcases List.mem_append.mp hm with hm | hm
    · exact h _ m hm
    · exact hms m hm

theorem Carries.take (h : Carries P s) (hq : s.inbox x = m :: q) : Carries P (s.take x q) := by
  refine (Side.forall_iff x).mpr ⟨?_, ?_⟩
  · rw [State.take_inbox_self]
    intro m' hm'
    exact h x m' (hq ▸ List.mem_cons_of_mem _ hm')
  · rw [State.take_inbox_other]
    exact h x.other

theorem Carries.head (h : Carries P s) (hq : s.inbox x = m :: q) : P x m :=
  h x m (hq ▸ List.mem_cons_self)

end carry

end Duplex

end Lib
