import Mathlib.Order.GameAdd
import RootCanal.Lib.Duplex

/-!
# Two processes that talk over channels

A process (`Proc`) sends messages and emits events, and waits for a message from the other side or
for a command of its user.  Two of them are joined by channels that keep the order.  A process waits
for the first message of its channel alone; if it does not take this one it waits forever.

* `Moves` is what one side does next.  What it does does not depend on what arrives behind the first
  message, so that a move of one side and a move of the other commute.
* `Safe s`: for some choice of which side moves next, whatever its user answers, the two end with
  empty channels and with results that fit.  This looks at one order of moves.  **`Safe.moves`:
  every move of either side leads to a state that is safe**, so that all orders end so.  To show
  that two processes are safe is to run them side by side; `Safe.sendL` and the rules after it are
  the steps of such a run.
* There may be other processes beside the two.  A side may serve some messages at once, whatever its
  process does (`serve`), and it may have processes that would take a message that is not for them
  (`foreign`). `Guided s` adds the former: a message that is served is sent only while the other
  side waits with nothing in its channel.  Of the latter, `Guided.refuses` says that they are never
  first in the channel of a process that waits for a command.  **`Guided.step`: every step leads to
  a guided state; `Guided.progress`: a guided pair has ended or can make a step; `step_wf`: there is
  no endless sequence of steps.**
-/

namespace Lib.Session

/-- A process. `φ` are the ways to wait for a message, `ψ` those to wait for a command. -/
inductive Proc (φ μ ψ κ ε α : Type)
  | ret (a : α)
  | send (m : μ) (next : Proc φ μ ψ κ ε α)
  | emit (e : ε) (next : Proc φ μ ψ κ ε α)
  | receive (f : φ) (next : μ → Proc φ μ ψ κ ε α)
  | command (g : ψ) (next : κ → Proc φ μ ψ κ ε α)
  | panic (e : Panic)

namespace Proc

variable {φ μ ψ κ ε α β : Type}

/-- One process after the other. -/
def bind : Proc φ μ ψ κ ε α → (α → Proc φ μ ψ κ ε β) → Proc φ μ ψ κ ε β
  | .ret a, k => k a
  | .send m p, k => .send m (p.bind k)
  | .emit e p, k => .emit e (p.bind k)
  | .receive f p, k => .receive f fun m => (p m).bind k
  | .command g p, k => .command g fun c => (p c).bind k
  | .panic e, _ => .panic e

instance instMonad : Monad (Proc φ μ ψ κ ε) where
  pure := .ret
  bind := bind

/-- The order of three processes does not need brackets. -/
theorem bind_assoc {γ : Type} (p : Proc φ μ ψ κ ε α) (k : α → Proc φ μ ψ κ ε β)
    (k' : β → Proc φ μ ψ κ ε γ) : (p.bind k).bind k' = p.bind fun a => (k a).bind k' := by
  induction p with
  | ret => rfl
  | send _ _ ih | emit _ _ ih | receive _ _ ih | command _ _ ih => simp only [bind, ih]
  | panic => rfl

/-- A process with nothing after it. -/
theorem bind_ret (p : Proc φ μ ψ κ ε α) : p.bind .ret = p := by
  induction p with
  | ret => rfl
  | send _ _ ih | emit _ _ ih | receive _ _ ih | command _ _ ih => simp only [bind, ih]
  | panic => rfl

/-- The process waits for a message. -/
def Waits (p : Proc φ μ ψ κ ε α) : Prop := ∃ f k, p = .receive f k

end Proc

/-! ## Moves -/

/-- A process with what has been noted of what it told its user and sent. -/
structure Party (φ μ ψ κ ε ω : Type) where
  proc : Proc φ μ ψ κ ε Unit
  log : List ω

/-- What is taken and accepted, what users may say, what is noted, and what the other processes of a
side do. -/
structure Rules (φ μ ψ κ ε ω : Type) where
  takes : φ → μ → Bool
  accepts : ψ → κ → Bool
  allowed : Side → κ → Prop
  /-- What is noted of an event. -/
  result : ε → Option ω
  /-- What is noted of a message that a process sends. -/
  sent : μ → Option ω
  /-- The answer to a message that a side serves. -/
  serve : Side → μ → Option μ
  /-- An answer is not served in turn. -/
  serve_answer : ∀ x m r, serve x m = some r → ∀ y, serve y r = none
  foreign : μ → Bool
  /-- What has been noted of the two sides when they have ended well. -/
  final : (Side → List ω) → Prop

/-- The two sides and their channels. -/
abbrev Config (φ μ ψ κ ε ω : Type) := Duplex.State (Party φ μ ψ κ ε ω) μ

variable {φ μ ψ κ ε ω : Type} (R : Rules φ μ ψ κ ε ω)

/-- A move of one side: what it is and what is in its channel, before and after, and what it
sends. -/
inductive Moves (x : Side) : Party φ μ ψ κ ε ω → List μ → Party φ μ ψ κ ε ω → List μ → List μ → Prop
  | send (m : μ) (p : Proc φ μ ψ κ ε Unit) (l : List ω) (q : List μ) :
      Moves x ⟨.send m p, l⟩ q ⟨p, l ++ (R.sent m).toList⟩ q [m]
  | emit (e : ε) (p : Proc φ μ ψ κ ε Unit) (l : List ω) (q : List μ) :
      Moves x ⟨.emit e p, l⟩ q ⟨p, l ++ (R.result e).toList⟩ q []
  | receive (f : φ) (k : μ → Proc φ μ ψ κ ε Unit) (l : List ω) (m : μ) (q : List μ) :
      R.takes f m = true → Moves x ⟨.receive f k, l⟩ (m :: q) ⟨k m, l⟩ q []
  | command (g : ψ) (k : κ → Proc φ μ ψ κ ε Unit) (l : List ω) (c : κ) (q : List μ) :
      R.accepts g c = true → R.allowed x c → Moves x ⟨.command g k, l⟩ q ⟨k c, l⟩ q []

/-- The side can move. -/
def Enabled (x : Side) (v : Party φ μ ψ κ ε ω) (q : List μ) : Prop :=
  ∃ v' q' ms, Moves R x v q v' q' ms

/-- The state after a move. -/
def next (s : Config φ μ ψ κ ε ω) (x : Side) (v : Party φ μ ψ κ ε ω) (q ms : List μ) :
    Config φ μ ψ κ ε ω :=
  (s.take x q).act x v ms

variable {R} {s : Config φ μ ψ κ ε ω} {x : Side} {v v' : Party φ μ ψ κ ε ω}
  {q q' l ms : List μ} {m : μ}

@[simp] theorem next_node_self : (next s x v q ms).node x = v := by simp [next]

@[simp] theorem next_node_other : (next s x v q ms).node x.other = s.node x.other := by simp [next]

@[simp] theorem next_inbox_self : (next s x v q ms).inbox x = q := by simp [next]

@[simp] theorem next_inbox_other : (next s x v q ms).inbox x.other = s.inbox x.other ++ ms := by
  simp [next]

/-- The other side of a move. -/
theorem next_node_of_other : (next s x.other v q ms).node x = s.node x := by
  have h : (next s x.other v q ms).node x.other.other = s.node x.other.other := next_node_other
  rwa [Side.other_other] at h

/-- What the other side sends arrives here. -/
theorem next_inbox_of_other : (next s x.other v q ms).inbox x = s.inbox x ++ ms := by
  have h : (next s x.other v q ms).inbox x.other.other = s.inbox x.other.other ++ ms :=
      next_inbox_other
  rwa [Side.other_other] at h

/-- A served message leaves both sides where they are. -/
theorem next_node_idle : (next s x (s.node x) q ms).node = s.node := by
  funext y
  rcases Side.eq_or_eq_other x y with rfl | rfl
  · rw [next_node_self]
  · rw [next_node_other]

/-- A send moves on, with its note in the log. -/
theorem Moves.of_send {p} (h : v.proc = .send m p) :
    Moves R x v q ⟨p, v.log ++ (R.sent m).toList⟩ q [m] := by
  obtain ⟨_, log⟩ := v
  cases h
  exact .send m p log q

/-- An event moves on, with its result in the log. -/
theorem Moves.of_emit {e p} (h : v.proc = .emit e p) :
    Moves R x v q ⟨p, v.log ++ (R.result e).toList⟩ q [] := by
  obtain ⟨_, log⟩ := v
  cases h
  exact .emit e p log q

/-- A message that is awaited is taken. -/
theorem Moves.of_receive {f k} (h : v.proc = .receive f k) (htk : R.takes f m = true) :
    Moves R x v (m :: q) ⟨k m, v.log⟩ q [] := by
  obtain ⟨_, log⟩ := v
  cases h
  exact .receive f k log m q htk

/-- A command that is awaited is taken. -/
theorem Moves.of_command {g k c} (h : v.proc = .command g k) (hacc : R.accepts g c = true)
    (hal : R.allowed x c) : Moves R x v q ⟨k c, v.log⟩ q [] := by
  obtain ⟨_, log⟩ := v
  cases h
  exact .command g k log c q hacc hal

/-- What arrives behind does not matter. -/
theorem Moves.append (h : Moves R x v q v' q' ms) (l : List μ) :
    Moves R x v (q ++ l) v' (q' ++ l) ms := by
  cases h with
  | send m p log => exact .send m p log _
  | emit e p log => exact .emit e p log _
  | receive f k log m _ htk => exact .receive f k log m _ htk
  | command g k log c _ hacc hal => exact .command g k log c _ hacc hal

/-- What is left in the channel was in it. -/
theorem Moves.mem_of_mem (h : Moves R x v q v' q' ms) (hm : m ∈ q') : m ∈ q := by
  cases h with
  | receive => exact List.mem_cons_of_mem _ hm
  | _ => exact hm

/-- A side that could move does what it could do before. -/
theorem Enabled.moves_append (h : Enabled R x v q) (hmv : Moves R x v (q ++ l) v' q' ms) :
    ∃ r, q' = r ++ l ∧ Moves R x v q v' r ms := by
  generalize hq : q ++ l = ql at hmv
  cases hmv with
  | send m p log => exact ⟨q, hq.symm, .send m p log q⟩
  | emit e p log => exact ⟨q, hq.symm, .emit e p log q⟩
  | receive f k log _ _ htk =>
    obtain ⟨_, r, _, h⟩ := h
    cases h with
    | receive =>
      obtain ⟨rfl, rfl⟩ := List.cons_eq_cons.mp hq
      exact ⟨r, rfl, .receive f k log _ r htk⟩
  | command g k log c _ hacc hal => exact ⟨q, hq.symm, .command g k log c q hacc hal⟩

/-- A side that has returned does not move. -/
theorem not_enabled_ret (h : v.proc = .ret ()) : ¬ Enabled R x v q := by
  rintro ⟨_, _, _, hmv⟩
  cases hmv <;> cases h

/-- A side that has panicked does not move. -/
theorem not_enabled_panic {e} (h : v.proc = .panic e) : ¬ Enabled R x v q := by
  rintro ⟨_, _, _, hmv⟩
  cases hmv <;> cases h

/-- A side that waits can move only if it takes the first message. -/
theorem Enabled.takes {f k} (h : Enabled R x v (m :: q)) (hproc : v.proc = .receive f k) :
    R.takes f m = true := by
  obtain ⟨_, _, _, hmv⟩ := h
  cases hmv with
  | receive _ _ _ _ _ htk =>
    cases hproc
    exact htk
  | _ => cases hproc

theorem Enabled.exists_command {g k} (h : Enabled R x v q) (hproc : v.proc = .command g k) :
    ∃ c, R.accepts g c = true ∧ R.allowed x c := by
  obtain ⟨_, _, _, hmv⟩ := h
  cases hmv with
  | command _ _ _ c _ hacc hal =>
    cases hproc
    exact ⟨c, hacc, hal⟩
  | _ => cases hproc

/-- A side that waits does not move without a message. -/
theorem not_enabled_waits (h : v.proc.Waits) : ¬ Enabled R x v [] := by
  obtain ⟨proc, log⟩ := v
  obtain ⟨f, k, rfl⟩ := h
  rintro ⟨_, _, _, h⟩
  cases h

/-- Two moves of different sides commute. -/
theorem next_comm {w r ns} :
    next (next s x v q ms) x.other w (r ++ ms) ns = next (next s x.other w r ns) x v
      (q ++ ns) ms := by
  apply Duplex.State.eq_of_sides x
  · rw [next_node_of_other, next_node_self, next_node_self]
  · rw [next_node_self, next_node_other, next_node_self]
  · rw [next_inbox_of_other, next_inbox_self, next_inbox_self]
  · rw [next_inbox_self, next_inbox_other, next_inbox_self]

/-! ## Safe pairs -/

variable (R)

/-- Both have returned with results that fit, and nothing is left in the channels. -/
structure Agreed (s : Config φ μ ψ κ ε ω) : Prop where
  ret : ∀ x, (s.node x).proc = .ret ()
  empty : ∀ x, s.inbox x = []
  final : R.final fun x => (s.node x).log

/-- The message will not be taken next, for some answers of the user. -/
def Refuses (x : Side) (m : μ) : Proc φ μ ψ κ ε Unit → Prop
  | .ret _ => True
  | .send _ p => Refuses x m p
  | .emit _ p => Refuses x m p
  | .receive f _ => R.takes f m = false
  | .command g k => ∃ c, R.accepts g c = true ∧ R.allowed x c ∧ Refuses x m (k c)
  | .panic _ => True

/-- What is asked of a process that moves: it sends nothing that is served, and while it waits for a
command the next message it will take is not foreign. -/
def Fits (x : Side) : Proc φ μ ψ κ ε Unit → Prop
  | .send m _ => ∀ y, R.serve y m = none
  | .command g k => ∀ m, R.foreign m = true → Refuses R x m (.command g k)
  | _ => True

/-- For some choice of which side moves next the two end in agreement. -/
inductive Safe : Config φ μ ψ κ ε ω → Prop
  | agreed {s : Config φ μ ψ κ ε ω} : Agreed R s → Safe s
  | move {s : Config φ μ ψ κ ε ω} (x : Side) : Fits R x (s.node x).proc →
      Enabled R x (s.node x) (s.inbox x) →
      (∀ v q ms, Moves R x (s.node x) (s.inbox x) v q ms → Safe (next s x v q ms)) → Safe s

variable {R}

/-- **Every move of either side leads to a safe state.** By induction on the order that is known to
end well: if the other side moves first, the two moves are exchanged. -/
theorem Safe.moves {y} (h : Safe R s) (hmv : Moves R y (s.node y) (s.inbox y) v q ms) :
    Safe R (next s y v q ms) := by
  induction h generalizing y v q ms with
  | agreed h => exact absurd ⟨v, q, ms, hmv⟩ (not_enabled_ret (h.ret y))
  | @move s x hfits hen hall ih =>
    rcases Side.eq_or_eq_other x y with rfl | rfl
    · exact hall v q ms hmv
    · refine .move x ?_ ?_ ?_
      · rw [next_node_of_other]
        exact hfits
      · rw [next_node_of_other, next_inbox_of_other]
        obtain ⟨w, r, ns, hw⟩ := hen
        exact ⟨w, r ++ ms, ns, hw.append ms⟩
      · intro w r' ns hw
        rw [next_node_of_other, next_inbox_of_other] at hw
        obtain ⟨r, rfl, h1⟩ := hen.moves_append hw
        -- the other side moves after this one as well
        have hoth : Moves R x.other ((next s x w r ns).node x.other)
            ((next s x w r ns).inbox x.other) v (q ++ ns) ms := by
          rw [next_node_other, next_inbox_other]
          exact hmv.append ns
        have hsafe := ih w r ns h1 hoth
        rwa [next_comm] at hsafe

/-- A side that does not wait in vain: a property of the process of one side holds if the side
cannot end with it and if it holds whenever the side moves. -/
theorem Safe.process {P : Party φ μ ψ κ ε ω → List μ → Prop} (h : Safe R s) (x : Side)
    (hret : ∀ v, v.proc = .ret () → P v [])
    (hmove : ∀ v q, Fits R x v.proc → Enabled R x v q → P v q)
    (hless : ∀ v q l, P v (q ++ l) → P v q) : P (s.node x) (s.inbox x) := by
  induction h with
  | @agreed _ h =>
    rw [h.empty x]
    exact hret _ (h.ret x)
  | @move _ y hfits hen _ ih =>
    rcases Side.eq_or_eq_other y x with rfl | rfl
    · exact hmove _ _ hfits hen
    · obtain ⟨v, q, ms, hmv⟩ := hen
      have hnext := ih v q ms hmv
      rw [next_node_other, next_inbox_other] at hnext
      exact hless _ _ _ hnext

/-- The first message is taken by the process that waits. -/
theorem Safe.takes {f : φ} {k : μ → Proc φ μ ψ κ ε Unit} (h : Safe R s)
    (hproc : (s.node x).proc = .receive f k) (hin : s.inbox x = m :: q) : R.takes f m = true := by
  refine h.process (P := fun v q => v.proc = .receive f k → ∀ m ∈ q.head?, R.takes f m = true) x
    ?_ ?_ ?_ hproc m (by simp [hin])
  · intro v hret hv
    cases hret.symm.trans hv
  · intro v q _ hen hproc m hm
    obtain ⟨r, rfl⟩ := List.head?_eq_some_iff.mp hm
    exact hen.takes hproc
  · intro v q l hv hproc m hm
    refine hv hproc m ?_
    cases q with
    | nil => cases hm
    | cons => exact hm

/-- Nothing is left for a process that has returned. -/
theorem Safe.empty_of_ret (h : Safe R s) (hproc : (s.node x).proc = .ret ()) : s.inbox x = [] := by
  refine h.process (P := fun v q => v.proc = .ret () → q = []) x (fun _ _ _ => rfl) ?_ ?_ hproc
  · intro v q _ hen hproc
    exact absurd hen (not_enabled_ret hproc)
  · intro v q l hv hproc
    exact (List.append_eq_nil_iff.mp (hv hproc)).1

/-- No side of a safe configuration has panicked. -/
theorem Safe.ne_panic (h : Safe R s) (e : Panic) : (s.node x).proc ≠ .panic e := by
  refine h.process (P := fun v _ => v.proc ≠ .panic e) x ?_ ?_ fun _ _ _ hv => hv
  · intro v hret hpanic
    cases hret.symm.trans hpanic
  · intro v q _ hen hproc
    exact not_enabled_panic hproc hen

/-- A process that waits for a command waits for one that may come. -/
theorem Safe.exists_command {g : ψ} {k : κ → Proc φ μ ψ κ ε Unit} (h : Safe R s)
    (hproc : (s.node x).proc = .command g k) : ∃ c, R.accepts g c = true ∧ R.allowed x c := by
  refine h.process (P := fun v _ => v.proc = .command g k → ∃ c, R.accepts g c = true ∧
    R.allowed x c) x ?_ (fun v q _ hen hproc => hen.exists_command hproc) (fun _ _ _ hv => hv) hproc
  intro v hret hv
  cases hret.symm.trans hv

/-- Both sides of a safe configuration fit. -/
theorem Safe.fits (h : Safe R s) (x : Side) : Fits R x (s.node x).proc := by
  refine h.process (P := fun v _ => Fits R x v.proc) x ?_ (fun _ _ hfits _ => hfits)
    fun _ _ _ hv => hv
  intro v hret
  rw [hret]
  trivial

/-- A message that is refused is not first in the channel. -/
theorem Safe.refuses {p} (h : Safe R s) (hproc : (s.node x).proc = p) (href : Refuses R x m p) :
    (s.inbox x).head? ≠ some m := by
  induction p generalizing s with
  | ret =>
    rw [h.empty_of_ret hproc]
    nofun
  | send m' p ih =>
    have hnext := ih (h.moves (.of_send hproc)) (by rw [next_node_self]) href
    rwa [next_inbox_self] at hnext
  | emit e p ih =>
    have hnext := ih (h.moves (.of_emit hproc)) (by rw [next_node_self]) href
    rwa [next_inbox_self] at hnext
  | receive f =>
    intro hhead
    obtain ⟨q, hq⟩ := List.head?_eq_some_iff.mp hhead
    have href : R.takes f m = false := href
    rw [h.takes hproc hq] at href
    cases href
  | command g k ih =>
    obtain ⟨c, hacc, hal, href⟩ := href
    have hnext := ih c (h.moves (.of_command hproc hacc hal)) (by rw [next_node_self]) href
    rwa [next_inbox_self] at hnext
  | panic e => exact absurd hproc (h.ne_panic e)

/-- What has been told stays told. -/
theorem Moves.log_extends (h : Moves R x v q v' q' ms) : v.log <+: v'.log := by
  cases h with
  | send | emit => exact List.prefix_append _ _
  | _ => exact List.prefix_rfl

/-- A move only extends the logs. -/
theorem next_log_extends (h : Moves R x (s.node x) (s.inbox x) v q ms) (y : Side) :
    (s.node y).log <+: ((next s x v q ms).node y).log := by
  rcases Side.eq_or_eq_other x y with rfl | rfl
  · rw [next_node_self]
    exact h.log_extends
  · rw [next_node_other]

/-- What the sides have told of is the beginning of what they will have told of when they have ended
well. -/
theorem Safe.log (h : Safe R s) : ∃ logs, R.final logs ∧ ∀ y, (s.node y).log <+: logs y := by
  induction h with
  | agreed h => exact ⟨_, h.final, fun _ => List.prefix_rfl⟩
  | @move _ _ _ hen _ ih =>
    obtain ⟨v, q, ms, hmv⟩ := hen
    obtain ⟨logs, hfinal, hlogs⟩ := ih v q ms hmv
    exact ⟨logs, hfinal, fun y => (next_log_extends hmv y).trans (hlogs y)⟩

/-- Both have returned: then they agree. -/
theorem Safe.agreed_of_ret (h : Safe R s) (hret : ∀ x, (s.node x).proc = .ret ()) : Agreed R s := by
  cases h with
  | agreed h => exact h
  | move x _ hen => exact absurd hen (not_enabled_ret (hret x))

/-! ## Guided pairs -/

variable (R)

/-- A step of the pair: a side moves, or serves the first message of its channel. -/
inductive Step (s : Config φ μ ψ κ ε ω) : Config φ μ ψ κ ε ω → Prop
  | moves (x : Side) {v : Party φ μ ψ κ ε ω} {q ms : List μ} :
      Moves R x (s.node x) (s.inbox x) v q ms → Step s (next s x v q ms)
  | serves (x : Side) {m r : μ} {q : List μ} :
      s.inbox x = m :: q → R.serve x m = some r → Step s (next s x (s.node x) q [r])

/-- One side moves at a time while the other waits, until the two are safe on their own. -/
inductive Guided : Config φ μ ψ κ ε ω → Prop
  | free {s : Config φ μ ψ κ ε ω} : Safe R s → (∀ x, ∀ m ∈ s.inbox x, R.serve x m = none) → Guided s
  | move {s : Config φ μ ψ κ ε ω} (x : Side) : (s.node x.other).proc.Waits → s.inbox x.other = [] →
      (s.inbox x = [] ∨ (s.node x).proc.Waits) → (∀ m ∈ (s.inbox x).head?, R.serve x m = none) →
      Enabled R x (s.node x) (s.inbox x) →
      (∀ v q ms, Moves R x (s.node x) (s.inbox x) v q ms → Guided (next s x v q ms)) → Guided s
  | serve {s : Config φ μ ψ κ ε ω} (x : Side) {m r : μ} : (∀ y, (s.node y).proc.Waits) →
      s.inbox x.other = [] → s.inbox x = [m] → R.serve x m = some r →
      (∀ f k, (s.node x).proc = .receive f k → R.takes f m = false) →
      Guided (next s x (s.node x) [] [r]) → Guided s

variable {R}

section

variable (h : Guided R s)
include h

/-- A side that waits takes the first message or serves it. -/
theorem Guided.takes_or_serves {f k} (hproc : (s.node x).proc = .receive f k)
    (hin : s.inbox x = m :: q) : R.takes f m = true ∨
    (R.takes f m = false ∧ q = [] ∧ ∃ r, R.serve x m = some r) := by
  cases h with
  | free h => exact .inl (h.takes hproc hin)
  | move y _ hemp _ _ hen =>
    rcases Side.eq_or_eq_other y x with rfl | rfl
    · rw [hin] at hen
      exact .inl (hen.takes hproc)
    · rw [hemp] at hin
      cases hin
  | serve y _ hemp hsingle hsrv htk =>
    rcases Side.eq_or_eq_other y x with rfl | rfl
    · rw [hsingle] at hin
      cases hin
      exact .inr ⟨htk f k hproc, rfl, _, hsrv⟩
    · rw [hemp] at hin
      cases hin

/-- A side that does not wait has its turn, unless the two are safe on their own. -/
theorem Guided.turn {p} (hproc : (s.node x).proc = p) (hp : ∀ f k, p ≠ .receive f k) :
    (Safe R s ∧ ∀ m ∈ s.inbox x, R.serve x m = none) ∨
    (s.inbox x = [] ∧ Enabled R x (s.node x) (s.inbox x)) := by
  have hnot : ¬ (s.node x).proc.Waits := by
    rintro ⟨f, k, hw⟩
    exact hp f k (hproc.symm.trans hw)
  cases h with
  | free h hsrv => exact .inl ⟨h, hsrv x⟩
  | move y hw _ hidle _ hen =>
    rcases Side.eq_or_eq_other y x with rfl | rfl
    · exact .inr ⟨hidle.resolve_right hnot, hen⟩
    · exact absurd hw hnot
  | serve _ hw => exact absurd (hw x) hnot

/-- A side that has returned has no message left. -/
theorem Guided.empty_of_ret (hproc : (s.node x).proc = .ret ()) : s.inbox x = [] := by
  rcases h.turn hproc nofun with ⟨h, -⟩ | ⟨hemp, -⟩
  · exact h.empty_of_ret hproc
  · exact hemp

theorem Guided.ne_panic (e : Panic) : (s.node x).proc ≠ .panic e := by
  intro hproc
  rcases h.turn hproc nofun with ⟨h, -⟩ | ⟨-, hen⟩
  · exact h.ne_panic e hproc
  · exact not_enabled_panic hproc hen

theorem Guided.exists_command {g k} (hproc : (s.node x).proc = .command g k) :
    ∃ c, R.accepts g c = true ∧ R.allowed x c := by
  rcases h.turn hproc nofun with ⟨h, -⟩ | ⟨-, hen⟩
  · exact h.exists_command hproc
  · exact hen.exists_command hproc

/-- No foreign message is first in the channel of a side that waits for a command. -/
theorem Guided.refuses {g k} (hproc : (s.node x).proc = .command g k)
    (hforeign : R.foreign m = true) : (s.inbox x).head? ≠ some m := by
  rcases h.turn hproc nofun with ⟨h, -⟩ | ⟨hemp, -⟩
  · have hfits := h.fits x
    rw [hproc] at hfits
    exact h.refuses hproc (hfits m hforeign)
  · rw [hemp]
    nofun

/-- A message that is served is first in the channel only while the side waits for another one. -/
theorem Guided.not_served {g k} (hproc : (s.node x).proc = .command g k)
    (hhead : (s.inbox x).head? = some m) : R.serve x m = none := by
  rcases h.turn hproc nofun with ⟨-, hsrv⟩ | ⟨hemp, -⟩
  · exact hsrv m (List.mem_of_mem_head? hhead)
  · rw [hemp] at hhead
    cases hhead

/-- The logs are the beginnings of final ones. -/
theorem Guided.log : ∃ logs, R.final logs ∧ ∀ y, (s.node y).log <+: logs y := by
  induction h with
  | free h => exact h.log
  | @move _ _ _ _ _ _ hen _ ih =>
    obtain ⟨v, q, ms, hmv⟩ := hen
    obtain ⟨logs, hfinal, hlogs⟩ := ih v q ms hmv
    exact ⟨logs, hfinal, fun y => (next_log_extends hmv y).trans (hlogs y)⟩
  | @serve _ _ _ _ _ _ _ _ _ _ ih =>
    rw [next_node_idle] at ih
    exact ih

/-- When both sides have returned, they agree. -/
theorem Guided.agreed_of_ret (hret : ∀ x, (s.node x).proc = .ret ()) : Agreed R s := by
  rcases h.turn (hret .left) nofun with ⟨h, -⟩ | ⟨-, hen⟩
  · exact h.agreed_of_ret hret
  · exact absurd hen (not_enabled_ret (hret .left))

end

/-- What a process sends in a safe pair is not served. -/
theorem Safe.moves_unserved (h : Safe R s)
    (hmv : Moves R x (s.node x) (s.inbox x) v q ms) (y : Side) : ∀ m ∈ ms, R.serve y m = none := by
  have hfits := h.fits x
  generalize s.node x = u at hmv hfits
  generalize s.inbox x = i at hmv
  cases hmv with
  | send => exact List.forall_mem_singleton.mpr (hfits y)
  | _ => exact fun m hm => absurd hm (List.not_mem_nil)

/-- **Every step leads from a guided state to a guided state.** -/
theorem Guided.step {s'} (h : Guided R s) (hstep : Step R s s') : Guided R s' := by
  cases hstep with
  | @moves y v q ms hmv =>
    cases h with
    | free h hsrv =>
      refine .free (h.moves hmv) ((Side.forall_iff y).mpr ⟨?_, ?_⟩)
      · rw [next_inbox_self]
        exact fun m hm => hsrv y m (hmv.mem_of_mem hm)
      · rw [next_inbox_other, List.forall_mem_append]
        exact ⟨hsrv y.other, h.moves_unserved hmv y.other⟩
    | move x hw hemp _ _ _ hall =>
      rcases Side.eq_or_eq_other x y with rfl | rfl
      · exact hall v q ms hmv
      · rw [hemp] at hmv
        exact absurd ⟨v, q, ms, hmv⟩ (not_enabled_waits hw)
    | serve x hw hemp hsingle _ htk =>
      rcases Side.eq_or_eq_other x y with rfl | rfl
      · obtain ⟨f, k, hproc⟩ := hw y
        rw [hsingle] at hmv
        cases (htk f k hproc).symm.trans (Enabled.takes ⟨v, q, ms, hmv⟩ hproc)
      · rw [hemp] at hmv
        exact absurd ⟨v, q, ms, hmv⟩ (not_enabled_waits (hw x.other))
  | @serves y m _ _ hin hserved =>
    cases h with
    | free _ hsrv =>
      rw [hsrv y m (by simp [hin])] at hserved
      cases hserved
    | move x _ hemp _ hhead =>
      rcases Side.eq_or_eq_other x y with rfl | rfl
      · rw [hhead m (by simp [hin])] at hserved
        cases hserved
      · rw [hemp] at hin
        cases hin
    | serve x _ hemp hsingle hsrv _ hnext =>
      rcases Side.eq_or_eq_other x y with rfl | rfl
      · rw [hsingle] at hin
        cases hin
        cases hsrv.symm.trans hserved
        exact hnext
      · rw [hemp] at hin
        cases hin

/-- **A guided pair has agreed or can make a step.** -/
theorem Guided.progress (h : Guided R s) : Agreed R s ∨ ∃ s', Step R s s' := by
  cases h with
  | free h =>
    cases h with
    | agreed h => exact .inl h
    | move x _ hen =>
      obtain ⟨v, q, ms, hmv⟩ := hen
      exact .inr ⟨_, .moves x hmv⟩
  | move x _ _ _ _ hen =>
    obtain ⟨v, q, ms, hmv⟩ := hen
    exact .inr ⟨_, .moves x hmv⟩
  | serve x _ _ hsingle hsrv => exact .inr ⟨_, .serves x hsingle hsrv⟩

/-! ## Every order of steps ends -/

/-- The process goes on as one of its parts. -/
inductive Proc.Part : Proc φ μ ψ κ ε Unit → Proc φ μ ψ κ ε Unit → Prop
  | send (m : μ) (p : Proc φ μ ψ κ ε Unit) : Part p (.send m p)
  | emit (e : ε) (p : Proc φ μ ψ κ ε Unit) : Part p (.emit e p)
  | receive (f : φ) (k : μ → Proc φ μ ψ κ ε Unit) (m : μ) : Part (k m) (.receive f k)
  | command (g : ψ) (k : κ → Proc φ μ ψ κ ε Unit) (c : κ) : Part (k c) (.command g k)

/-- A procedure has no endless chain of parts. -/
theorem Proc.part_wf : WellFounded (Proc.Part (φ := φ) (μ := μ) (ψ := ψ) (κ := κ) (ε := ε)) := by
  refine ⟨fun p => ?_⟩
  induction p with
  | ret | panic => exact ⟨_, nofun⟩
  | send _ _ ih | emit _ _ ih =>
    refine ⟨_, fun p' hp => ?_⟩
    cases hp
    exact ih
  | receive _ _ ih | command _ _ ih =>
    refine ⟨_, fun p' hp => ?_⟩
    cases hp
    exact ih _

/-- A move goes on to a part of the process. -/
theorem Moves.part (h : Moves R x v q v' q' ms) : v'.proc.Part v.proc := by
  cases h with
  | send m p => exact .send m p
  | emit e p => exact .emit e p
  | receive f k _ m => exact .receive f k m
  | command g k _ c => exact .command g k c

variable (R) in
/-- How many messages there are to be served. -/
def toServe (s : Config φ μ ψ κ ε ω) : ℕ :=
  (s.inbox .left).countP (fun m => (R.serve .left m).isSome) +
    (s.inbox .right).countP (fun m => (R.serve .right m).isSome)

variable (R) in
theorem toServe_eq (s : Config φ μ ψ κ ε ω) (x : Side) :
    toServe R s = (s.inbox x).countP (fun m => (R.serve x m).isSome) +
      (s.inbox x.other).countP (fun m => (R.serve x.other m).isSome) := by
  cases x with
  | left => rfl
  | right => exact Nat.add_comm ..

/-- Serving a message leaves one less to serve. -/
theorem toServe_serves {r} (hin : s.inbox x = m :: q) (hsrv : R.serve x m = some r) :
    toServe R s = toServe R (next s x (s.node x) q [r]) + 1 := by
  rw [toServe_eq R s x, toServe_eq R _ x, next_inbox_self, next_inbox_other, hin]
  simp [hsrv, R.serve_answer x m r hsrv]
  omega

/-- Where the two processes are. -/
def procs (s : Config φ μ ψ κ ε ω) : Proc φ μ ψ κ ε Unit × Proc φ μ ψ κ ε Unit :=
  ((s.node .left).proc, (s.node .right).proc)

/-- A move is a move of one of the two processes. -/
theorem Moves.procs (h : Moves R x (s.node x) (s.inbox x) v q ms) :
    Prod.GameAdd Proc.Part Proc.Part (procs (next s x v q ms)) (procs s) := by
  have hpart := h.part
  cases x with
  | left =>
    have hoth : (next s .left v q ms).node .right = s.node .right := next_node_other
    rw [Session.procs, next_node_self, hoth]
    exact .fst hpart
  | right =>
    have hoth : (next s .right v q ms).node .left = s.node .left := next_node_other
    rw [Session.procs, next_node_self, hoth]
    exact .snd hpart

variable (R) in
/-- **There is no endless sequence of steps.**  A move goes on to a part of a process, and while
neither moves there are fewer and fewer messages to be served. -/
theorem step_wf : WellFounded fun s' s : Config φ μ ψ κ ε ω => Step R s s' := by
  have hwf := (Proc.part_wf (φ := φ) (μ := μ) (ψ := ψ) (κ := κ) (ε := ε)).prod_gameAdd
    (Proc.part_wf (φ := φ) (μ := μ) (ψ := ψ) (κ := κ) (ε := ε))
  refine Subrelation.wf ?_
    (InvImage.wf (fun s => (procs s, toServe R s)) (WellFounded.prod_lex hwf Nat.lt_wfRel.wf))
  intro s' s hstep
  cases hstep with
  | moves _ hmv => exact .left _ _ hmv.procs
  | serves x hin hsrv =>
    have hprocs : ∀ q ms, procs (next s x (s.node x) q ms) = procs s := by
      intro q ms
      rw [procs, next_node_idle, procs]
    show Prod.Lex _ _ (procs _, _) (procs s, _)
    rw [hprocs]
    refine .right _ ?_
    rw [toServe_serves hin hsrv]
    exact Nat.lt_succ_self _

/-! ## Running two processes side by side -/

/-- The pair of these two sides. -/
def joint (x : Side) (v w : Party φ μ ψ κ ε ω) (i j : List μ) : Config φ μ ψ κ ε ω where
  node y := if y = x then v else w
  inbox y := if y = x then i else j

section run

variable {w w' : Party φ μ ψ κ ε ω} {i j i' j' : List μ} {p : Proc φ μ ψ κ ε Unit}
  {log log' : List ω}
  {f : φ} {k : μ → Proc φ μ ψ κ ε Unit} {e : ε} {g : ψ} {k' : κ → Proc φ μ ψ κ ε Unit}

@[simp] theorem joint_node_self : (joint x v w i j).node x = v := by simp [joint]

@[simp] theorem joint_node_other : (joint x v w i j).node x.other = w := by simp [joint]

@[simp] theorem joint_inbox_self : (joint x v w i j).inbox x = i := by simp [joint]

@[simp] theorem joint_inbox_other : (joint x v w i j).inbox x.other = j := by simp [joint]

/-- The two sides may be named in either order. -/
theorem joint_comm : joint x v w i j = joint x.other w v j i := by
  have hnode : ∀ u u' : Party φ μ ψ κ ε ω, (joint x.other u u' j i).node x = u' := by
    simp [joint]
  have hin : ∀ u u' : Party φ μ ψ κ ε ω, (joint x.other u u' j i).inbox x = i := by
    simp [joint]
  apply Duplex.State.eq_of_sides x
  · rw [joint_node_self, hnode]
  · rw [joint_node_other, joint_node_self]
  · rw [joint_inbox_self, hin]
  · rw [joint_inbox_other, joint_inbox_self]

/-- A move of the left side of a joint configuration. -/
theorem next_joint : next (joint x v w i j) x v' i' ms = joint x v' w i' (j ++ ms) := by
  apply Duplex.State.eq_of_sides x
  · rw [next_node_self, joint_node_self]
  · rw [next_node_other, joint_node_other, joint_node_other]
  · rw [next_inbox_self, joint_inbox_self]
  · rw [next_inbox_other, joint_inbox_other, joint_inbox_other]

/-! The rules of a safe pair: what the first side does (`L`), and what the second does (`R`). -/

/-- Rule: the left side moves. -/
theorem Safe.moveL (hfits : Fits R x v.proc) (hen : Enabled R x v i)
    (h : ∀ v' i' ms, Moves R x v i v' i' ms → Safe R (joint x v' w i' (j ++ ms))) :
    Safe R (joint x v w i j) := by
  refine .move x (by rwa [joint_node_self]) (by rwa [joint_node_self, joint_inbox_self]) ?_
  intro v' i' ms hmv
  rw [joint_node_self, joint_inbox_self] at hmv
  rw [next_joint]
  exact h v' i' ms hmv

/-- A side sends a message, and it is noted. -/
theorem Safe.noteL (hm : ∀ y, R.serve y m = none)
    (h : Safe R (joint x ⟨p, log ++ (R.sent m).toList⟩ w i (j ++ [m]))) :
    Safe R (joint x ⟨.send m p, log⟩ w i j) := by
  refine .moveL hm ⟨_, _, _, .send m p log i⟩ fun v' i' ms hmv => ?_
  cases hmv
  exact h

/-- Rule: the right side sends, with the note of it in its log. -/
theorem Safe.noteR (hm : ∀ y, R.serve y m = none)
    (h : Safe R (joint x v ⟨p, log ++ (R.sent m).toList⟩ (i ++ [m]) j)) :
    Safe R (joint x v ⟨.send m p, log⟩ i j) := by
  rw [joint_comm] at h ⊢
  exact h.noteL hm

/-- Rule: the left side sends. -/
theorem Safe.sendL (hm : ∀ y, R.serve y m = none) (hn : R.sent m = none)
    (h : Safe R (joint x ⟨p, log⟩ w i (j ++ [m]))) : Safe R (joint x ⟨.send m p, log⟩ w i j) := by
  refine .noteL hm ?_
  rwa [hn, Option.toList_none, List.append_nil]

/-- Rule: the right side sends. -/
theorem Safe.sendR (hm : ∀ y, R.serve y m = none) (hn : R.sent m = none)
    (h : Safe R (joint x v ⟨p, log⟩ (i ++ [m]) j)) : Safe R (joint x v ⟨.send m p, log⟩ i j) := by
  rw [joint_comm] at h ⊢
  exact h.sendL hm hn

/-- Rule: an event on the left. -/
theorem Safe.emitL (he : R.result e = none) (h : Safe R (joint x ⟨p, log⟩ w i j)) :
    Safe R (joint x ⟨.emit e p, log⟩ w i j) := by
  refine .moveL trivial ⟨_, _, _, .emit e p log i⟩ fun v' i' ms hmv => ?_
  cases hmv
  rwa [he, Option.toList_none, List.append_nil, List.append_nil]

/-- Rule: an event on the right. -/
theorem Safe.emitR (he : R.result e = none) (h : Safe R (joint x v ⟨p, log⟩ i j)) :
    Safe R (joint x v ⟨.emit e p, log⟩ i j) := by
  rw [joint_comm] at h ⊢
  exact h.emitL he

/-- A side tells of a result. -/
theorem Safe.tellL {a} (he : R.result e = some a) (h : Safe R (joint x ⟨p, log ++ [a]⟩ w i j)) :
    Safe R (joint x ⟨.emit e p, log⟩ w i j) := by
  refine .moveL trivial ⟨_, _, _, .emit e p log i⟩ fun v' i' ms hmv => ?_
  cases hmv
  rwa [he, Option.toList_some, List.append_nil]

/-- Rule: a result on the right. -/
theorem Safe.tellR {a} (he : R.result e = some a) (h : Safe R (joint x v ⟨p, log ++ [a]⟩ i j)) :
    Safe R (joint x v ⟨.emit e p, log⟩ i j) := by
  rw [joint_comm] at h ⊢
  exact h.tellL he

/-- Rule: the left side receives. -/
theorem Safe.receiveL (hm : R.takes f m = true) (h : Safe R (joint x ⟨k m, log⟩ w i j)) :
    Safe R (joint x ⟨.receive f k, log⟩ w (m :: i) j) := by
  refine .moveL trivial ⟨_, _, _, .receive f k log m i hm⟩ fun v' i' ms hmv => ?_
  cases hmv
  rwa [List.append_nil]

/-- Rule: the right side receives. -/
theorem Safe.receiveR (hm : R.takes f m = true) (h : Safe R (joint x v ⟨k m, log⟩ i j)) :
    Safe R (joint x v ⟨.receive f k, log⟩ i (m :: j)) := by
  rw [joint_comm] at h ⊢
  exact h.receiveL hm

/-- A message goes over. -/
theorem Safe.passR {k} (hm : ∀ y, R.serve y m = none) (hn : R.sent m = none)
    (hf : R.takes f m = true) (h : Safe R (joint x ⟨p, log⟩ ⟨k m, log'⟩ [] [])) :
    Safe R (joint x ⟨.send m p, log⟩ ⟨.receive f k, log'⟩ [] []) := by
  refine .sendL hm hn ?_
  exact .receiveR hf h

/-- Rule: a message passes to the left. -/
theorem Safe.passL {k} (hm : ∀ y, R.serve y m = none) (hn : R.sent m = none)
    (hf : R.takes f m = true) (h : Safe R (joint x ⟨k m, log⟩ ⟨p, log'⟩ [] [])) :
    Safe R (joint x ⟨.receive f k, log⟩ ⟨.send m p, log'⟩ [] []) := by
  refine .sendR hm hn ?_
  exact .receiveL hf h

/-- While a side waits for a command, one answer has to be such that what it takes next is not
foreign. -/
theorem Safe.commandL {c} (hacc : R.accepts g c = true) (hal : R.allowed x c)
    (href : ∀ m, R.foreign m = true → Refuses R x m (k' c))
    (h : ∀ c, R.accepts g c = true → R.allowed x c → Safe R (joint x ⟨k' c, log⟩ w i j)) :
    Safe R (joint x ⟨.command g k', log⟩ w i j) := by
  refine .moveL (fun m hm => ⟨c, hacc, hal, href m hm⟩)
    ⟨_, _, _, .command g k' log c i hacc hal⟩ fun v' i' ms hmv => ?_
  cases hmv with
  | command _ _ _ c _ hacc hal =>
    rw [List.append_nil]
    exact h c hacc hal

/-- The end of a run. -/
theorem Safe.ret (h : R.final fun y => if y = x then log else log') :
    Safe R (joint x ⟨.ret (), log⟩ ⟨.ret (), log'⟩ [] []) := by
  refine .agreed ⟨?_, ?_, ?_⟩
  · exact (Side.forall_iff x).mpr ⟨by rw [joint_node_self], by rw [joint_node_other]⟩
  · exact (Side.forall_iff x).mpr ⟨joint_inbox_self, joint_inbox_other⟩
  · convert h using 2 with y
    exact apply_ite Party.log ..

/-! The rules while one side waits with nothing in its channel. -/

/-- Rule: the left side moves while the right one waits. -/
theorem Guided.moveL (hw : w.proc.Waits) (hidle : i = [] ∨ v.proc.Waits)
    (hhead : ∀ m ∈ i.head?, R.serve x m = none) (hen : Enabled R x v i)
    (h : ∀ v' i' ms, Moves R x v i v' i' ms → Guided R (joint x v' w i' ms)) :
    Guided R (joint x v w i []) := by
  refine .move x (by rwa [joint_node_other]) joint_inbox_other ?_ ?_ ?_ ?_
  · rwa [joint_node_self, joint_inbox_self]
  · rwa [joint_inbox_self]
  · rwa [joint_node_self, joint_inbox_self]
  · intro v' i' ms hmv
    rw [joint_node_self, joint_inbox_self] at hmv
    rw [next_joint]
    exact h v' i' ms hmv

/-- Rule: the left side sends. -/
theorem Guided.sendL (hw : w.proc.Waits) (hn : R.sent m = none)
    (h : Guided R (joint x ⟨p, log⟩ w [] [m])) : Guided R (joint x ⟨.send m p, log⟩ w [] []) := by
  refine .moveL hw (.inl rfl) nofun ⟨_, _, _, .send m p log []⟩ fun v' i' ms hmv => ?_
  cases hmv
  rwa [hn, Option.toList_none, List.append_nil]

/-- Rule: the right side sends. -/
theorem Guided.sendR (hw : v.proc.Waits) (hn : R.sent m = none)
    (h : Guided R (joint x v ⟨p, log⟩ [m] [])) : Guided R (joint x v ⟨.send m p, log⟩ [] []) := by
  rw [joint_comm] at h ⊢
  exact h.sendL hw hn

/-- Rule: an event on the left. -/
theorem Guided.emitL (hw : w.proc.Waits) (he : R.result e = none)
    (h : Guided R (joint x ⟨p, log⟩ w [] [])) : Guided R (joint x ⟨.emit e p, log⟩ w [] []) := by
  refine .moveL hw (.inl rfl) nofun ⟨_, _, _, .emit e p log []⟩ fun v' i' ms hmv => ?_
  cases hmv
  rwa [he, Option.toList_none, List.append_nil]

/-- Rule: a result on the left. -/
theorem Guided.tellL {a} (hw : w.proc.Waits) (he : R.result e = some a)
    (h : Guided R (joint x ⟨p, log ++ [a]⟩ w [] [])) : Guided R
    (joint x ⟨.emit e p, log⟩ w [] []) := by
  refine .moveL hw (.inl rfl) nofun ⟨_, _, _, .emit e p log []⟩ fun v' i' ms hmv => ?_
  cases hmv
  rwa [he, Option.toList_some]

/-- Rule: a result on the right. -/
theorem Guided.tellR {a} (hw : v.proc.Waits) (he : R.result e = some a)
    (h : Guided R (joint x v ⟨p, log ++ [a]⟩ [] [])) : Guided R
    (joint x v ⟨.emit e p, log⟩ [] []) := by
  rw [joint_comm] at h ⊢
  exact h.tellL hw he

/-- Rule: the left side receives. -/
theorem Guided.receiveL (hw : w.proc.Waits) (hm : R.takes f m = true) (hsrv : R.serve x m = none)
    (h : Guided R (joint x ⟨k m, log⟩ w [] [])) : Guided R
    (joint x ⟨.receive f k, log⟩ w [m] []) := by
  refine .moveL hw (.inr ⟨f, k, rfl⟩) ?_ ⟨_, _, _, .receive f k log m [] hm⟩ fun v' i' ms hmv => ?_
  · rintro _ ⟨⟩
    exact hsrv
  · cases hmv
    exact h

/-- Rule: the right side receives. -/
theorem Guided.receiveR (hw : v.proc.Waits) (hm : R.takes f m = true)
    (hsrv : R.serve x.other m = none)
    (h : Guided R (joint x v ⟨k m, log⟩ [] [])) : Guided R
    (joint x v ⟨.receive f k, log⟩ [] [m]) := by
  rw [joint_comm] at h ⊢
  exact h.receiveL hw hm hsrv

/-- Rule: a command on the left. -/
theorem Guided.commandL (hw : w.proc.Waits) (hen : ∃ c, R.accepts g c = true ∧ R.allowed x c)
    (h : ∀ c, R.accepts g c = true → R.allowed x c → Guided R (joint x ⟨k' c, log⟩ w [] [])) :
    Guided R (joint x ⟨.command g k', log⟩ w [] []) := by
  obtain ⟨c, hacc, hal⟩ := hen
  refine .moveL hw (.inl rfl) nofun ⟨_, _, _, .command g k' log c [] hacc hal⟩
    fun v' i' ms hmv => ?_
  cases hmv with
  | command _ _ _ c _ hacc hal => exact h c hacc hal

/-- The second side serves a message while both wait. -/
theorem Guided.serveR {r} (hw : v.proc.Waits) (hsrv : R.serve x.other m = some r)
    (htk : R.takes f m = false) (h : Guided R (joint x v ⟨.receive f k, log⟩ [r] [])) :
    Guided R (joint x v ⟨.receive f k, log⟩ [] [m]) := by
  rw [joint_comm] at h ⊢
  refine .serve x.other ?_ joint_inbox_other joint_inbox_self hsrv ?_ ?_
  · exact (Side.forall_iff x.other).mpr
      ⟨by rw [joint_node_self]; exact ⟨f, k, rfl⟩, by rwa [joint_node_other]⟩
  · rw [joint_node_self]
    rintro _ _ ⟨⟩
    exact htk
  · rw [next_joint, joint_node_self]
    exact h

/-- With nothing in the channels a safe pair is guided. -/
theorem Safe.guided (h : Safe R (joint x v w [] [])) : Guided R (joint x v w [] []) := by
  refine .free h ((Side.forall_iff x).mpr ⟨?_, ?_⟩)
  · rw [joint_inbox_self]
    nofun
  · rw [joint_inbox_other]
    nofun

end run

end Lib.Session
