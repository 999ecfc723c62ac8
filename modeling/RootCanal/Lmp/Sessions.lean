import RootCanal.Lib.Inevitable
import RootCanal.Lmp.Polling

/-!
# Two link managers that follow a session

Two link managers joined by channels that keep the order.  A run is any interleaving of ticks,
deliveries and replies of the hosts to the prompts of their controllers (`Answered`).

* `step_spec`, `run_spec`: the link managers follow the session of their two procedures, step by
  step.
* `ended_or_active`: as long as the procedures have not returned, a tick does something, a packet is
  on its way, or a host is asked for something.
* `concludes`: each of these steps goes down in a well founded order, so that the procedures return.
* **`run_concludes`**: if the two procedures are guided, no run gets stuck, every run comes to its
  end, and there the queues are empty and what has been noted is what the session says.

Source: `lmp/manager.rs`, `lmp/procedure/mod.rs`
-/

namespace RootCanal.Lmp

open Lib Lib.Session

variable {ω : Type}

/-! ## Runs -/

/-- The loop waits for a command such as this one. -/
def Task.awaits (t : Task) (c : Command) : Bool :=
  match t.current with
  | .command g _ => g.accepts c
  | _ => false

/-- The command is a reply to a request of the controller. -/
def OpCode.isReply (opCode : OpCode) : Bool :=
  opCode ∉ [.authenticationRequested, .setConnectionEncryption]

/-- The loop waits for a reply of the host. -/
def Task.prompts (t : Task) : Bool :=
  match t.current with
  | .command g _ => g.takes.any OpCode.isReply
  | _ => false

/-- A host answers a prompt, once. -/
def Link.awaits (v : Link) (c : Command) : Bool := v.hci.isNone && v.tasks.any fun t => t.awaits c

/-- A prompt of the host is outstanding. -/
def Link.prompts (v : Link) : Bool := v.hci.isNone && v.tasks.any Task.prompts

/-- Hosts answer prompts, with the replies that are allowed.  Packets come from the peer only. -/
def Answered (allowed : Side → Command → Prop) (s : Pair) : Duplex.Input Input Unit → Prop
  | .act x (.hci c) => (s.node x).awaits c = true ∧ allowed x c
  | .act _ (.lmp _) => False
  | .act _ .tick => True
  | .deliver _ _ => True

instance Answered.decidable (allowed : Side → Command → Prop)
    [∀ x c, Decidable (allowed x c)] (s : Pair) :
    (i : Duplex.Input Input Unit) → Decidable (Answered allowed s i)
  | .act _ (.hci _) => inferInstanceAs (Decidable (_ ∧ _))
  | .act _ (.lmp _) => isFalse not_false
  | .act _ .tick => isTrue trivial
  | .deliver _ _ => isTrue trivial

/-- Two link managers that have just been joined; the host of the left one asks for
authentication. -/
def start (ctx : Side → Context) : Pair where
  node
    | .left => { Link.new (ctx .left) with hci := some .authenticationRequested }
    | .right => Link.new (ctx .right)
  inbox _ := []

/-- A tick neither does nor takes anything. -/
def Link.Stalled (v : Link) : Prop :=
  ∀ v' outs, v.tick = .ok (v', outs) → outs = [] ∧ v'.hci = v.hci ∧ v'.lmp = v.lmp

instance Link.Stalled.decidable (v : Link) : Decidable v.Stalled :=
  match h : v.tick with
  | .error _ => isTrue fun v' outs h' => by cases h.symm.trans h'
  | .ok (v', outs) => decidable_of_iff (outs = [] ∧ v'.hci = v.hci ∧ v'.lmp = v.lmp) (by
      constructor
      · rintro hsame v'' outs' h'
        cases h.symm.trans h'
        exact hsame
      · intro hstalled
        exact hstalled v' outs h)

/-- The input does nothing. -/
def Idle (s : Pair) : Duplex.Input Input Unit → Prop
  | .act x .tick => (s.node x).Stalled
  | .deliver x _ => s.inbox x = []
  | _ => False

/-- Neither side can go on, and no host is asked for anything. -/
def Stuck (s : Pair) : Prop :=
  ∀ x, (s.node x).Stalled ∧ s.inbox x = [] ∧ (s.node x).prompts = false

instance Stuck.decidable (s : Pair) : Decidable (Stuck s) :=
  inferInstanceAs (Decidable (∀ _, _ ∧ _ ∧ _))

/-- How often the procedure of a side has returned. -/
def Link.ended (v : Link) : Side → ℕ
  | .left => (v.tasks[0]?).elim 0 Task.ended
  | .right => (v.tasks[1]?).elim 0 Task.ended

/-- Both procedures have returned. -/
def Ended (s : Pair) : Prop := ∀ x, (s.node x).ended x ≠ 0

instance Ended.decidable (s : Pair) : Decidable (Ended s) :=
  inferInstanceAs (Decidable (∀ _, _ ≠ _))

/-- What has been noted of a side in a run. -/
def told (noted : Output → Option ω) (x : Side)
    (tr : List (Duplex.Input Input Unit × List (Side × Output))) : List ω :=
  (tr.flatMap Prod.snd).filterMap fun o => if o.1 = x then noted o.2 else none

/-! ## The link managers follow the session -/

section run

variable {ctx : Side → Context} {noted : Output → Option ω}
  {R : Rules Future Packet Prompt Command Event ω}
  {x : Side} {a a' : Session ω} {s s' : Pair} {v : Link} {t : Task} {c : Context} {d : Command}

theorem told_snoc (x : Side) (tr : List (Duplex.Input Input Unit × List (Side × Output)))
    (i : Duplex.Input Input Unit) (outs : List (Side × Output)) :
    told noted x (tr ++ [(i, outs)]) = told noted x tr ++ outs.filterMap fun o =>
      if o.1 = x then noted o.2 else none := by
  simp [told]

/-- What a side sends is told to its own host. -/
theorem told_map (x y : Side) (outs : List Output) :
    ((outs.map (x, ·)).filterMap fun o => if o.1 = y then noted o.2 else none) =
      if y = x then outs.filterMap noted else [] := by
  rw [List.filterMap_map]
  by_cases h : y = x
  · rw [if_pos h]
    refine congrArg (List.filterMap · outs) (funext fun o => ?_)
    exact if_pos h.symm
  · rw [if_neg h]
    refine List.filterMap_eq_nil_iff.mpr fun o _ => ?_
    exact if_neg (Ne.symm h)

/-- What is on its way, and the commands that have not been taken. -/
def load (s : Pair) (x : Side) : ℕ := (s.inbox x).length + (s.node x).hci.toList.length

/-- What goes down in a run: the session goes on, or what was on its way arrives. -/
def Lower (R : Rules Future Packet Prompt Command Event ω) : Session ω × ℕ → Session ω × ℕ → Prop :=
  Prod.Lex (Relation.TransGen fun a' a => Step R a a') (· < ·)

theorem lower_wf (R : Rules Future Packet Prompt Command Event ω) : WellFounded (Lower R) :=
  WellFounded.prod_lex (step_wf (R := R)).transGen Nat.lt_wfRel.wf

theorem load_eq (s : Pair) (x : Side) :
    load s .left + load s .right = load s x + load s x.other := by
  cases x with
  | left => rfl
  | right => exact Nat.add_comm _ _

/-- A loop that begins anew waits for a packet, or for a command that is no reply. -/
theorem awaits_false {p} {n : ℕ} (hp : p ∈ procedures c) (hd : d.opCode.isReply = true) :
    Task.awaits ⟨p, p, n⟩ d = false := by
  have hd : d.opCode ∉ [OpCode.authenticationRequested, .setConnectionEncryption] :=
      of_decide_eq_true hd
  simp only [List.mem_cons, List.not_mem_nil, or_false, not_or] at hd
  simp only [procedures, List.mem_cons, List.not_mem_nil, or_false] at hp
  rcases hp with rfl | rfl | rfl | rfl | rfl
  · exact decide_eq_false (by simp [hd.1])
  · rfl
  · exact decide_eq_false (by simp [hd.2])
  · rfl
  · rfl

/-- Among the loops of a side only the main one waits for replies. -/
theorem awaits_main {served : ℕ} (hts : v.tasks = tasksWith c x t served) (hv : v.awaits d = true)
    (hd : d.opCode.isReply = true) : v.hci = none ∧ t.awaits d = true := by
  obtain ⟨hhci, hany⟩ := Bool.and_eq_true_iff.mp hv
  refine ⟨Option.isNone_iff_eq_none.mp hhci, ?_⟩
  obtain ⟨t', ht', haw⟩ := List.any_eq_true.mp hany
  have hnew : ∀ p n, p ∈ procedures c → t' ≠ ⟨p, p, n⟩ := by
    rintro p n hp rfl
    rw [awaits_false hp hd] at haw
    cases haw
  rw [hts, tasksWith] at ht'
  simp only [List.mem_append, List.mem_singleton] at ht'
  have hpre : t' ∉ tasksBefore c x := by
    cases x with
    | left => nofun
    | right =>
      intro h
      exact hnew _ 0 (by simp [procedures]) (List.mem_singleton.mp h)
  have hpost : t' ∉ tasksAfter c x := by
    intro h
    cases x with
    | left =>
      simp only [tasksAfter, List.mem_cons, List.not_mem_nil, or_false] at h
      rcases h with h | h | h
      all_goals exact hnew _ 0 (by simp [procedures]) h
    | right =>
      simp only [tasksAfter, List.mem_cons, List.not_mem_nil, or_false] at h
      rcases h with h | h
      all_goals exact hnew _ 0 (by simp [procedures]) h
  rcases ht' with h | rfl | h | h
  · exact absurd h hpre
  · exact haw
  · exact absurd h hpost
  · exact absurd h (hnew _ served (by simp [procedures]))

theorem mainProcedure_mem (c : Context) (x : Side) : mainProcedure c x ∈ procedures c := by
  cases x <;> simp [mainProcedure, procedures]

/-- A loop that waits for a reply is where its process is. -/
theorem Position.of_awaits {p} (hpos : Position x t none p)
    (hb : t.body = mainProcedure c x) (haw : t.awaits d = true) (hd : d.opCode.isReply = true) :
    t.ended = 0 ∧ ∃ g k, t.current = .command g k ∧ p = .command g k ∧ g.accepts d = true := by
  cases hpos with
  | running hend =>
    unfold Task.awaits at haw
    split at haw
    · rename_i g k hcur
      exact ⟨hend, g, k, hcur, hcur, haw⟩
    · cases haw
  | ended _ hcur =>
    have ht : t = ⟨mainProcedure c x, mainProcedure c x, t.ended⟩ := by
      obtain ⟨body, current, ended⟩ := t
      cases hb
      cases hcur
      rfl
    rw [ht, awaits_false (mainProcedure_mem c x) hd] at haw
    cases haw

/-! ### One step -/

variable (ctx noted R) in
/-- What a step does to the session. -/
structure Stepped (s s' : Pair) (a a' : Session ω) (i : Duplex.Input Input Unit)
    (outs : List (Side × Output)) : Prop where
  step : pair.step s i = .ok (s', outs)
  guided : Guided R a'
  simulates : Simulates ctx s' a'
  log : ∀ y, (a'.node y).log = (a.node y).log ++ outs.filterMap fun o =>
    if o.1 = y then noted o.2 else none
  lower : Idle s i ∨ Lower R (a', load s' .left + load s' .right)
    (a, load s .left + load s .right)

theorem ended_eq {served : ℕ} (hts : v.tasks = tasksWith c x t served) : v.ended x = t.ended := by
  cases x with
  | left | right =>
    rw [Link.ended, hts]
    rfl

section guided

variable (hreply : ∀ x c, R.allowed x c → c.opCode.isReply = true) (hR : LinkRules ctx noted R)
  (hg : Guided R a)
  (hsim : Simulates ctx s a)

include hR hg hsim

/-- A host answers. -/
theorem hci_spec (hreply : d.opCode.isReply = true) (haw : (s.node x).awaits d = true)
    (hal : R.allowed x d) : ∃ s' a' outs, Stepped ctx noted R s s' a a' (.act x (.hci d)) outs := by
  obtain ⟨t, served, hts, hb, hpos⟩ := hsim.runs x
  obtain ⟨hhci, ht⟩ := awaits_main hts haw hreply
  rw [hhci] at hpos
  obtain ⟨hend, g, k, hcur, hproc, hacc⟩ := hpos.of_awaits hb ht hreply
  have hstep : Step R a (next a x ⟨k d, (a.node x).log⟩ (a.inbox x) []) :=
    .moves x (.of_command hproc (by rwa [hR.accepts]) hal)
  refine ⟨s.act x { s.node x with hci := some d } [], next a x ⟨k d, (a.node x).log⟩
    (a.inbox x) [], [], ?_, hg.step hstep, ?_, ?_, .inr (.left _ _ (.single hstep))⟩
  · have hing : (s.node x).ingestHci d = .ok { s.node x with hci := some d } := by
      unfold Link.ingestHci
      rw [hhci]
      rfl
    exact bind_eq_ok.mpr ⟨({ s.node x with hci := some d }, []), bind_eq_ok.mpr ⟨_, hing, rfl⟩, rfl⟩
  · refine hsim.act hts hb ?_ ?_ next_node_other next_inbox_other
    · rw [next_node_self]
      refine .replied hend hcur hacc fun _ hd => ?_
      rw [hd] at hreply
      cases hreply
    · rw [next_inbox_self]
      exact hsim.inbox x
  · refine (Side.forall_iff x).mpr ⟨?_, ?_⟩
    · simp
    · simp

omit hR in
/-- A packet arrives. -/
theorem deliver_spec (x : Side) :
    ∃ s' a' outs, Stepped ctx noted R s s' a a' (.deliver x ()) outs := by
  cases hin : s.inbox x with
  | nil =>
    refine ⟨s, a, [], ?_, hg, hsim, by simp, .inl hin⟩
    unfold pair Duplex.machine
    dsimp only
    rw [hin]
  | cons m q =>
    refine ⟨(s.take x q).act x ((s.node x).ingestLmp m) [], a, [], ?_, hg,
      ?_, by simp, .inr (.right _ ?_)⟩
    · unfold pair Duplex.machine
      dsimp only
      rw [hin]
      rfl
    · obtain ⟨t, served, hts, hb, hpos⟩ := hsim.runs x
      refine ⟨(Side.forall_iff x).mpr ⟨?_, ?_⟩, (Side.forall_iff x).mpr ⟨?_, ?_⟩⟩
      · rw [Duplex.State.act_node_self]
        exact ⟨t, served, hts, hb, hpos⟩
      · rw [Duplex.State.act_node_other]
        exact hsim.runs x.other
      · rw [Duplex.State.act_node_self, Duplex.State.act_inbox_self, Duplex.State.take_inbox_self,
          hsim.inbox x, hin]
        simp [Link.ingestLmp]
      · rw [Duplex.State.act_node_other, Duplex.State.act_inbox_other,
          Duplex.State.take_inbox_other, List.append_nil]
        exact hsim.inbox x.other
    · rw [load_eq _ x, load_eq s x]
      simp only [load, Duplex.State.act_node_self, Duplex.State.act_node_other,
        Duplex.State.act_inbox_self, Duplex.State.act_inbox_other, Duplex.State.take_node,
        Duplex.State.take_inbox_self, Duplex.State.take_inbox_other, Link.ingestLmp, hin,
        List.length_cons, List.append_nil]
      omega

/-- The procedures of a side are polled. -/
theorem tick_step (x : Side) : ∃ s' a' outs, Stepped ctx noted R s s' a a' (.act x .tick) outs := by
  obtain ⟨v, outs, a', htick, hsim', hticked⟩ := tick_spec hR hg hsim x
  refine ⟨_, a', outs.map (x, ·), ?_, hticked.guided, hsim', fun y => ?_, ?_⟩
  · show ((s.node x).tick >>= fun r =>
      .ok (s.act x r.1 (r.2.filterMap Output.packet?), r.2.map (x, ·))) = _
    rw [htick]
    rfl
  · rw [told_map, hticked.log]
  · rcases hticked.steps with ⟨rfl, rfl, hlmp⟩ | ⟨hsteps, -⟩
    · cases hhci : (s.node x).hci with
      | none =>
        refine .inl fun v' outs' htick' => ?_
        cases htick.symm.trans htick'
        exact ⟨rfl, hticked.hci.trans hhci.symm, hlmp⟩
      | some =>
        refine .inr (.right _ ?_)
        rw [load_eq _ x, load_eq s x]
        simp only [load, Duplex.State.act_node_self, Duplex.State.act_node_other,
          Duplex.State.act_inbox_self, Duplex.State.act_inbox_other, List.filterMap_nil,
          List.append_nil, hticked.hci, hhci,
          Option.toList_none, Option.toList_some, List.length_nil, List.length_singleton]
        omega
    · exact .inr (.left _ _ (Relation.transGen_swap.mp hsteps))

include hreply in
/-- **A step follows the session.** -/
theorem step_spec {i} (hi : Answered R.allowed s i) :
    ∃ s' a' outs, Stepped ctx noted R s s' a a' i outs := by
  cases i with
  | act x i =>
    cases i with
    | hci => exact hci_spec hR hg hsim (hreply _ _ hi.2) hi.1 hi.2
    | lmp => exact absurd hi not_false
    | tick => exact tick_step hR hg hsim x
  | deliver x => exact deliver_spec hg hsim x

/-! ### What is left to do -/

/-- A side whose tick does nothing waits in vain, unless its process has returned. -/
theorem blocked_of_stalled (hstalled : (s.node x).Stalled) (hin : s.inbox x = [])
    (hprompt : ∀ c, (s.node x).awaits c = true → ¬ R.allowed x c) :
    (s.node x).hci = none ∧ a.inbox x = [] ∧
    ((a.node x).proc = .ret () ∨ (a.node x).proc.Waits) := by
  obtain ⟨v, outs, a', htick, -, hticked⟩ := tick_spec hR hg hsim x
  obtain ⟨houts, hhci, hlmp⟩ := hstalled v outs htick
  have hhci : (s.node x).hci = none := by rw [← hhci, hticked.hci]
  obtain ⟨rfl, -, -⟩ := hticked.steps.resolve_right fun h => h.2.elim (absurd houts) (absurd hlmp)
  refine ⟨hhci, ?_⟩
  rcases hticked.blocked with hret | ⟨g, k, hcmd⟩ | ⟨f, k, hreceive, hemp⟩
  · exact ⟨hg.empty_of_ret hret, .inl hret⟩
  · -- the process waits for a command: the host is asked for it
    exfalso
    obtain ⟨c, hacc, hal⟩ := hg.exists_command hcmd
    rw [hR.accepts] at hacc
    refine hprompt c ?_ hal
    obtain ⟨t, served, hts, -, hpos⟩ := hsim.runs x
    rw [hhci, hcmd] at hpos
    have hcur : t.current = .command g k := by
      generalize hp : (Proc.command g k : Procedure Unit) = p at hpos
      cases hpos with
      | running => rfl
      | ended => cases hp
    have haw : t.awaits c = true := by
      unfold Task.awaits
      rw [hcur]
      exact hacc
    refine Bool.and_eq_true_iff.mpr ⟨Option.isNone_iff_eq_none.mpr hhci,
      List.any_eq_true.mpr ⟨t, ?_, haw⟩⟩
    rw [hts]
    simp [tasksWith]
  · refine ⟨?_, .inr ⟨f, k, hreceive⟩⟩
    rw [hsim.inbox x, hin, ← hlmp, hemp, List.append_nil]

/-- **Two link managers that follow the session have ended, or something is left to do.** -/
theorem ended_or_active :
    Ended s ∨ ∃ x, ¬ (s.node x).Stalled ∨ s.inbox x ≠ [] ∨ ∃ c, (s.node x).awaits c = true ∧
      R.allowed x c := by
  by_contra hn
  simp only [not_or, not_exists, not_not, not_and] at hn
  obtain ⟨hend, hidle⟩ := hn
  have hblocked := fun x => blocked_of_stalled hR hg hsim (hidle x).1 (hidle x).2.1 (hidle x).2.2
  rcases hg.progress with hagreed | ⟨a', hstep⟩
  · refine hend fun x => ?_
    obtain ⟨t, served, hts, -, hpos⟩ := hsim.runs x
    rw [(hblocked x).1, hagreed.ret x] at hpos
    rw [ended_eq hts]
    generalize hp : (Proc.ret () : Procedure Unit) = p at hpos
    cases hpos with
    | running _ hret => exact absurd hp.symm hret
    | ended hend =>
      rw [hend]
      exact Nat.one_ne_zero
  · cases hstep with
    | moves x hmv =>
      obtain ⟨-, hemp, hret | hw⟩ := hblocked x
      · exact not_enabled_ret hret ⟨_, _, _, hmv⟩
      · rw [hemp] at hmv
        exact not_enabled_waits hw ⟨_, _, _, hmv⟩
    | serves x hin =>
      rw [(hblocked x).2.1] at hin
      cases hin

omit hR in
/-- Where both procedures have returned the session has ended in agreement. -/
theorem Ended.agreed (h : Ended s) : Agreed R a := by
  refine hg.agreed_of_ret fun x => ?_
  obtain ⟨t, served, hts, -, hpos⟩ := hsim.runs x
  have hend : t.ended ≠ 0 := by
    rw [← ended_eq hts]
    exact h x
  generalize (a.node x).proc = p at hpos
  generalize (s.node x).hci = hci at hpos
  cases hpos with
  | running h | replied h => exact absurd h hend
  | ended => rfl

include hreply in
/-- **Whatever comes, both procedures return.** -/
theorem concludes : pair.Concludes (Answered R.allowed) Idle Ended s := by
  refine Machine.concludes_of_descent (lower_wf R)
    (fun b s => b.2 = load s .left + load s .right ∧ Guided R b.1 ∧ Simulates ctx s b.1)
    ?_ ?_ (a := (a, load s .left + load s .right)) ⟨rfl, hg, hsim⟩
  · rintro b s ⟨-, hg, hsim⟩
    refine (ended_or_active hR hg hsim).imp_right ?_
    rintro ⟨x, hstalled | hin | ⟨c, haw, hal⟩⟩
    · exact ⟨.act x .tick, trivial, hstalled⟩
    · exact ⟨.deliver x (), trivial, hin⟩
    · exact ⟨.act x (.hci c), ⟨haw, hal⟩, not_false⟩
  · rintro ⟨a, n⟩ s i ⟨rfl, hg, hsim⟩ hi hidle
    obtain ⟨s', a', outs, hstp⟩ := step_spec hreply hR hg hsim hi
    exact ⟨s', outs, (a', load s' .left + load s' .right), hstp.step,
      ⟨rfl, hstp.guided, hstp.simulates⟩, hstp.lower.resolve_left hidle⟩

include hreply in
/-- A pair that is stuck has ended. -/
theorem Stuck.ended (h : Stuck s) : Ended s := by
  rcases ended_or_active hR hg hsim with hend | ⟨x, hstalled | hin | ⟨c, haw, hal⟩⟩
  · exact hend
  · exact absurd (h x).1 hstalled
  · exact absurd (h x).2.1 hin
  · -- a wait that takes the reply is a prompt
    obtain ⟨hhci, hany⟩ := Bool.and_eq_true_iff.mp haw
    obtain ⟨t, ht, hc⟩ := List.any_eq_true.mp hany
    have hprompts : t.prompts = true := by
      unfold Task.awaits at hc
      unfold Task.prompts
      split at hc
      · exact List.any_eq_true.mpr ⟨c.opCode, of_decide_eq_true hc, hreply x c hal⟩
      · cases hc
    have hv : (s.node x).prompts = true := Bool.and_eq_true_iff.mpr
        ⟨hhci, List.any_eq_true.mpr ⟨t, ht, hprompts⟩⟩
    rw [(h x).2.2] at hv
    cases hv

omit hR in
/-- A pair that has ended has no packet left. -/
theorem Ended.empty (h : Ended s) (x : Side) : s.inbox x = [] ∧ (s.node x).lmp = [] := by
  have hemp := (h.agreed hg hsim).empty x
  rw [hsim.inbox x, List.append_eq_nil_iff] at hemp
  exact hemp.symm

end guided

/-! ### Whole runs -/

variable {s₀ : Pair} {a₀ : Session ω} {tr : List (Duplex.Input Input Unit × List (Side × Output))}

section runs

variable (hreply : ∀ x c, R.allowed x c → c.opCode.isReply = true) (hR : LinkRules ctx noted R)
  (hg : Guided R a₀)
  (hsim : Simulates ctx s₀ a₀) (hlog : ∀ x, (a₀.node x).log = [])
  (h : pair.Run (Answered R.allowed) s₀ tr s)

include hreply hR hg hsim hlog h

/-- **A run follows the session**, and the session says what has been noted. -/
theorem run_spec : ∃ a, Guided R a ∧ Simulates ctx s a ∧ ∀ x, (a.node x).log = told noted x tr := by
  refine h.invariant_trace (fun tr s => ∃ a, Guided R a ∧ Simulates ctx s a ∧
    ∀ x, (a.node x).log = told noted x tr) ⟨a₀, hg, hsim, hlog⟩ ?_
  rintro tr s i s' outs ⟨a, hg, hsim, hlog⟩ hi hstep
  obtain ⟨s'', a', outs', hstp⟩ := step_spec hreply hR hg hsim hi
  cases hstep.symm.trans hstp.step
  refine ⟨a', hstp.guided, hstp.simulates, fun x => ?_⟩
  rw [told_snoc, hstp.log, hlog]

/-- **Two link managers that follow a guided session come to its end.** -/
theorem run_concludes : (Stuck s → Ended s) ∧ pair.Concludes (Answered R.allowed) Idle Ended s ∧
    (∃ logs, R.final logs ∧ ∀ x, told noted x tr <+: logs x) ∧
      (Ended s → R.final (fun x => told noted x tr) ∧ ∀ x, s.inbox x = [] ∧
        (s.node x).lmp = []) := by
  obtain ⟨a, hg, hsim, hlog⟩ := run_spec hreply hR hg hsim hlog h
  refine ⟨fun hstuck => hstuck.ended hreply hR hg hsim, concludes hreply hR hg hsim, ?_,
    fun hend => ⟨?_, hend.empty hg hsim⟩⟩
  · obtain ⟨logs, hfinal, hextends⟩ := hg.log
    refine ⟨logs, hfinal, fun x => ?_⟩
    rw [← hlog x]
    exact hextends x
  · have hfinal := (hend.agreed hg hsim).final
    simp only [hlog] at hfinal
    exact hfinal

end runs

/-- The link managers begin with the procedures of the session: the left one has the command that
begins its own. -/
theorem simulates_start {k : Command → Procedure Unit}
    (hinitiate : Authentication.initiate (ctx .left) =
      .command ⟨[.authenticationRequested], none⟩ k) :
    Simulates ctx (start ctx)
      (joint .left (⟨k .authenticationRequested, []⟩ : Party Future Packet Prompt Command Event ω)
      ⟨Authentication.respond (ctx .right), []⟩ [] []) := by
  refine ⟨fun x => ⟨.new (mainProcedure (ctx x) x), 0, ?_, rfl, ?_⟩, fun x => ?_⟩
  · cases x <;> rfl
  · cases x with
    | left => exact .replied rfl hinitiate rfl nofun
    | right => exact .running rfl nofun
  · cases x <;> rfl

end run

/-- Each side ticks, and receives a packet of the other. -/
def turns (n : ℕ) : List (Duplex.Input Input Unit) :=
  (List.replicate n
    [.act .left .tick, .deliver .right (), .act .right .tick, .deliver .left ()]).flatten

end RootCanal.Lmp
