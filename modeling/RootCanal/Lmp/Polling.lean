import RootCanal.Lmp.LinkManager

/-!
# A tick follows the session of two procedures

A session (`Lib.Session`) is about two processes that run next to each other.  A link manager polls
five loops; of these one runs the procedure of its side and the last serves features, while the
others have nothing to do.

* `LinkRules`: the rules of a session are those of two link managers.  What hosts may say, what is
  noted and how the session is to end are left open.
* `poll_spec`: a poll of a procedure is a number of moves of its process, up to where it waits in
  vain.
* `Simulates`: the loops of both sides are where the processes are.  The queue of a side and what is
  in flight to it make up one channel, and a command in the slot has been taken already
  (`Position`).
* **`tick_spec`**: a tick does not panic, and it keeps `Simulates`.  It leaves the process waiting
  for what is not there (`Blocked`).

Source: `lmp/manager.rs` `LinkManager::tick`, `lmp/procedure/mod.rs` `run`
-/

namespace RootCanal.Lmp

open Lib Lib.Session

variable {ω : Type}

/-! ## The rules of two link managers -/

/-- The packets that begin another procedure than the one that is running. -/
def Packet.foreign (p : Packet) : Bool :=
  p.opcode ∈ [.auRand, .ioCapabilityReq, .inRand, .encryptionModeReq]

/-- The answer of `Features.respond`. -/
def Context.serve (ctx : Context) : Packet → Option Packet
  | .featuresReqExt featuresPage _ _ =>
    some (.featuresResExt featuresPage 1 (ctx.extendedFeatures featuresPage))
  | _ => none

/-- The feature is supported on page 1. -/
def Context.supports (ctx : Context) (feature : UInt64) : Prop :=
  ctx.extendedFeatures 1 &&& feature ≠ 0

instance Context.supports.decidable (ctx : Context) (feature : UInt64) :
    Decidable (ctx.supports feature) :=
  inferInstanceAs (Decidable (_ ≠ _))

/-- The session of two link managers, of which hosts say what is allowed, and of which `noted` is
kept. -/
def session (ctx : Side → Context) (allowed : Side → Command → Prop) (noted : Output → Option ω)
    (final : (Side → List ω) → Prop) : Rules Future Packet Prompt Command Event ω where
  takes := Future.takes
  accepts := Prompt.accepts
  allowed := allowed
  result e := noted (.event e)
  sent p := noted (.packet p)
  serve x := (ctx x).serve
  serve_answer x p r h y := by
    unfold Context.serve at h
    split at h
    · cases h
      rfl
    · cases h
  foreign := Packet.foreign
  final := final

/-- The rules are those of two link managers. -/
structure LinkRules (ctx : Side → Context) (noted : Output → Option ω)
    (R : Rules Future Packet Prompt Command Event ω) : Prop where
  takes : R.takes = Future.takes
  accepts : R.accepts = Prompt.accepts
  result : ∀ e, R.result e = noted (.event e)
  sent : ∀ p, R.sent p = noted (.packet p)
  serve : ∀ x, R.serve x = (ctx x).serve
  foreign : R.foreign = Packet.foreign
  /-- An answer to a request for features is not noted. -/
  unnoted : ∀ page last features, noted (.packet (.featuresResExt page last features)) = none

theorem linkRules_session {ctx allowed noted} {final : (Side → List ω) → Prop}
    (h : ∀ page last features, noted (.packet (.featuresResExt page last features)) = none) :
    LinkRules ctx noted (session ctx allowed noted final) :=
  ⟨rfl, rfl, fun _ => rfl, fun _ => rfl, fun _ => rfl, rfl, h⟩

/-! ## Polling a wait -/

theorem Future.poll_nil (f : Future) : f.poll [] = (none, []) := by
  cases f <;> rfl

/-- A wait ends with the packet that it takes. -/
theorem Future.poll_takes {f : Future} {m : Packet} (q : List Packet) (h : f.takes m = true) :
    f.poll (m :: q) = (some m, q) := by
  cases f with
  | receive => exact if_pos (of_decide_eq_true h)
  | sendAccepted opcode =>
    cases m with
    | accepted o =>
      have hfil : (some (Packet.accepted o)).filter (Future.takes (.sendAccepted opcode)) =
          some (.accepted o) := by
        rw [Option.filter_some, if_pos h]
      have h1 : pollLmpPacket [.accepted] (Packet.accepted o :: q) = (some (.accepted o), q) := rfl
      simp only [Future.poll, h1, hfil]
    | notAccepted o e =>
      show ((some (Packet.notAccepted o e)).filter (Future.takes (.sendAccepted opcode)), q) = _
      rw [Option.filter_some, if_pos h]
    | _ => cases h

/-- A request for features is left in the queue. -/
theorem Future.poll_serve {f : Future} {ctx : Context} {m r : Packet} (q : List Packet)
    (h : f.takes m = false) (hsrv : ctx.serve m = some r) : f.poll (m :: q) = (none, m :: q) := by
  cases m with
  | featuresReqExt =>
    cases f with
    | receive => exact if_neg (of_decide_eq_false h)
    | sendAccepted => rfl
  | _ => cases hsrv

/-! ## Polling a procedure -/

/-- The processes of two link managers, and what is noted of them. -/
abbrev Session (ω : Type) := Config Future Packet Prompt Command Event ω

section poll

variable (noted : Output → Option ω) (R : Rules Future Packet Prompt Command Event ω)

/-- What a poll at one side does to the session: the mail of the side goes with it, except for what
is in flight (`l`). -/
structure Polled (x : Side) (l : List Packet) (a a' : Session ω) (b b' : Mail)
    (outs : List Output) : Prop where
  sent : b'.sent = b.sent ++ outs
  hci : b'.hci = none
  inbox : a'.inbox x = b'.lmp ++ l
  peer : a'.inbox x.other = a.inbox x.other ++ outs.filterMap Output.packet?
  log : (a'.node x).log = (a.node x).log ++ outs.filterMap noted
  other : a'.node x.other = a.node x.other
  shrinks : b'.lmp.length ≤ b.lmp.length
  steps : (a' = a ∧ b' = b) ∨ (Relation.TransGen (Step R) a a' ∧
    (outs ≠ [] ∨ b'.lmp.length < b.lmp.length))

/-- Where a poll leaves a procedure: at its end, or waiting for what is not there. -/
def Parked (lmp : List Packet) (p : Procedure Unit) : Option (Procedure Unit) → Prop
  | none => p = .ret ()
  | some q => p = q ∧ ((∃ g k, q = .command g k) ∨
      ∃ f k, q = .receive f k ∧ ∀ m ∈ lmp.head?, f.takes m = false)

variable {noted R} {ctx : Side → Context} {x : Side} {l : List Packet} {a a' a'' : Session ω}
  {b b' b'' : Mail}
  {outs outs' : List Output}

theorem Polled.refl (hhci : b.hci = none) (hin : a.inbox x = b.lmp ++ l) :
    Polled noted R x l a a b b [] :=
  ⟨by simp, hhci, hin, by simp, by simp, rfl, Nat.le_refl _, .inl ⟨rfl, rfl⟩⟩

theorem Polled.trans (h : Polled noted R x l a a' b b' outs)
    (h' : Polled noted R x l a' a'' b' b'' outs') :
    Polled noted R x l a a'' b b'' (outs ++ outs') where
  sent := by rw [h'.sent, h.sent, List.append_assoc]
  hci := h'.hci
  inbox := h'.inbox
  peer := by rw [h'.peer, h.peer, List.filterMap_append, List.append_assoc]
  log := by rw [h'.log, h.log, List.filterMap_append, List.append_assoc]
  other := h'.other.trans h.other
  shrinks := h'.shrinks.trans h.shrinks
  steps := by
    have houts : outs ≠ [] ∨ outs' ≠ [] → outs ++ outs' ≠ [] := by
      rw [Ne, Ne, Ne, List.append_eq_nil_iff]
      tauto
    have hshrinks' := h'.shrinks
    rcases h.steps with ⟨rfl, rfl⟩ | ⟨hsteps, hout⟩
    · rcases h'.steps with hsame | ⟨hsteps', hout'⟩
      · exact .inl hsame
      · exact .inr ⟨hsteps', hout'.imp_left fun h => houts (.inr h)⟩
    · have hmoved : outs ++ outs' ≠ [] ∨ b''.lmp.length < b.lmp.length := by
        rcases hout with hout | hout
        · exact .inl (houts (.inl hout))
        · exact .inr (by omega)
      rcases h'.steps with ⟨rfl, rfl⟩ | ⟨hsteps', -⟩
      · exact .inr ⟨hsteps, hmoved⟩
      · exact .inr ⟨hsteps.trans hsteps', hmoved⟩

/-- What a procedure sends is a move of its process. -/
theorem Polled.output {o : Output} {p} (hhci : b.hci = none) (hin : a.inbox x = b.lmp ++ l)
    (hmv : Moves R x (a.node x) (a.inbox x) ⟨p, (a.node x).log ++ (noted o).toList⟩
      (a.inbox x) o.packet?.toList) :
    Polled noted R x l a
      (next a x ⟨p, (a.node x).log ++ (noted o).toList⟩ (a.inbox x) o.packet?.toList) b
      { b with sent := b.sent ++ [o] } [o] := by
  refine ⟨rfl, hhci, by rw [next_inbox_self, hin], ?_, ?_, next_node_other, Nat.le_refl _,
    .inr ⟨.single (.moves x hmv), .inl nofun⟩⟩
  · rw [next_inbox_other, List.filterMap_cons]
    cases o.packet? <;> rfl
  · rw [next_node_self, List.filterMap_cons]
    cases noted o <;> rfl

/-- **A poll follows the session.** By induction on the procedure. -/
theorem poll_spec {p : Procedure Unit} (hR : LinkRules ctx noted R) (hg : Guided R a)
    (hproc : (a.node x).proc = p) (hin : a.inbox x = b.lmp ++ l) (hhci : b.hci = none) :
    ∃ r b' a' outs, poll p b = .ok (r, b') ∧ Polled noted R x l a a' b b' outs ∧
      Guided R a' ∧ Parked b'.lmp (a'.node x).proc r := by
  induction p generalizing a b with
  | ret => exact ⟨none, b, a, [], rfl, .refl hhci hin, hg, hproc⟩
  | send m p ih =>
    have hmv : Moves R x (a.node x) (a.inbox x)
        ⟨p, (a.node x).log ++ (noted (.packet m)).toList⟩ (a.inbox x) [m] := by
      rw [← hR.sent m]
      exact .of_send hproc
    have hone := Polled.output (o := .packet m) hhci hin hmv
    obtain ⟨r, b', a', outs, hpoll, hpolled, hg', hpk⟩ :=
      ih (hg.step (.moves x hmv)) (by rw [next_node_self]) hone.inbox hone.hci
    exact ⟨r, b', a', _, hpoll, hone.trans hpolled, hg', hpk⟩
  | emit e p ih =>
    have hmv : Moves R x (a.node x) (a.inbox x)
        ⟨p, (a.node x).log ++ (noted (.event e)).toList⟩ (a.inbox x) [] := by
      rw [← hR.result e]
      exact .of_emit hproc
    have hone := Polled.output (o := .event e) hhci hin hmv
    obtain ⟨r, b', a', outs, hpoll, hpolled, hg', hpk⟩ :=
      ih (hg.step (.moves x hmv)) (by rw [next_node_self]) hone.inbox hone.hci
    exact ⟨r, b', a', _, hpoll, hone.trans hpolled, hg', hpk⟩
  | receive f k ih =>
    cases hlmp : b.lmp with
    | nil =>
      refine ⟨some (.receive f k), b, a, [], ?_, .refl hhci hin, hg, hproc, .inr ⟨f, k, rfl, ?_⟩⟩
      · rw [poll, hlmp, Future.poll_nil]
        simp only [← hlmp]
      · rw [hlmp]
        nofun
    | cons m q =>
      rw [hlmp, List.cons_append] at hin
      rcases hg.takes_or_serves hproc hin with htk | ⟨htk, hemp, r, hsrv⟩
      · have hmv : Moves R x (a.node x) (a.inbox x) ⟨k m, (a.node x).log⟩ (q ++ l) [] := by
          rw [hin]
          exact .of_receive hproc htk
        have hone : Polled noted R x l a (next a x ⟨k m, (a.node x).log⟩ (q ++ l) []) b
            { b with lmp := q } [] :=
          ⟨by simp, hhci, next_inbox_self, next_inbox_other, by rw [next_node_self]; simp,
            next_node_other, by simp [hlmp], .inr ⟨.single (.moves x hmv), .inr (by simp [hlmp])⟩⟩
        obtain ⟨r, b', a', outs, hpoll, hpolled, hg', hpk⟩ :=
          ih m (hg.step (.moves x hmv)) (by rw [next_node_self]) hone.inbox hone.hci
        refine ⟨r, b', a', _, ?_, hone.trans hpolled, hg', hpk⟩
        rw [hR.takes] at htk
        rw [poll, hlmp, Future.poll_takes q htk]
        exact hpoll
      · rw [hR.takes] at htk
        rw [hR.serve x] at hsrv
        refine ⟨some (.receive f k), b, a, [], ?_, .refl hhci (by rw [hin, hlmp]; rfl), hg, hproc,
          .inr ⟨f, k, rfl, ?_⟩⟩
        · rw [poll, hlmp, Future.poll_serve q htk hsrv]
          simp only [← hlmp]
        · rw [hlmp]
          rintro _ ⟨⟩
          exact htk
  | command g k =>
    refine ⟨some (.command g k), b, a, [], ?_, .refl hhci hin, hg, hproc, .inl ⟨g, k, rfl⟩⟩
    rw [poll, hhci]
  | panic e => exact absurd hproc (hg.ne_panic e)

end poll

/-! ## Polling the tasks of a link -/

/-- The loop takes nothing from the mail. -/
def Quiet (b : Mail) (t : Task) : Prop := poll t.current b = .ok (some t.current, b)

section tasks

variable {b b' b'' : Mail} {t : Task} {ts ts' us us' : List Task}

theorem Task.poll_of_quiet (n : ℕ) (h : Quiet b t) : t.poll (n + 1) b = .ok (t, b) := by
  rw [Task.poll, h]
  rfl

/-- Quiet tasks do nothing when polled. -/
theorem pollTasks_quiet (h : ∀ t ∈ ts, Quiet b t) : pollTasks ts b = .ok (ts, b) := by
  induction ts with
  | nil => rfl
  | cons _ ts ih =>
    obtain ⟨ht, hts⟩ := List.forall_mem_cons.mp h
    rw [pollTasks, Task.poll_of_quiet _ ht]
    show (pollTasks ts b).bind _ = _
    rw [ih hts]
    rfl

/-- Tasks are polled in turn. -/
theorem pollTasks_append (h : pollTasks ts b = .ok (ts', b'))
    (h' : pollTasks us b' = .ok (us', b'')) : pollTasks (ts ++ us) b = .ok (ts' ++ us', b'') := by
  induction ts generalizing b ts' with
  | nil =>
    cases h
    exact h'
  | cons _ ts ih =>
    obtain ⟨⟨t', b₁⟩, ht, h⟩ := bind_eq_ok.mp h
    obtain ⟨⟨ts₁, b₂⟩, hts, h⟩ := bind_eq_ok.mp h
    cases h
    rw [List.cons_append, pollTasks, ht]
    show (pollTasks (ts ++ us) b₁).bind _ = _
    rw [ih hts]
    rfl

theorem pollTasks_one {t'} (h : t.poll (b.lmp.length + 2) b = .ok (t', b')) :
    pollTasks [t] b = .ok ([t'], b') := by
  rw [pollTasks, h]
  rfl

/-- A loop that is about to wait for packets of other types. -/
theorem quiet_receive {opcodes k body} {n : ℕ}
    (hb : body = .receive (.receive opcodes) k) (h : ∀ m ∈ b.lmp.head?, m.opcode ∉ opcodes) :
    Quiet b ⟨body, body, n⟩ := by
  subst hb
  show poll _ b = _
  obtain ⟨hci, lmp, sent⟩ := b
  cases lmp with
  | nil => rfl
  | cons m q =>
    have hm : m.opcode ∉ opcodes := h m rfl
    have hpoll : (Future.receive opcodes).poll (m :: q) = (none, m :: q) := if_neg hm
    simp only [poll, hpoll]

/-- A loop that is about to wait for another command. -/
theorem quiet_command {g k body} {n : ℕ}
    (hb : body = .command g k) (hans : g.answers = none) (h : ∀ c ∈ b.hci, g.accepts c = false) :
    Quiet b ⟨body, body, n⟩ := by
  subst hb
  show poll _ b = _
  obtain ⟨hci, lmp, sent⟩ := b
  cases hci with
  | none => rfl
  | some c =>
    rw [poll]
    simp [h c rfl, hans]

end tasks

/-! ## The session of two link managers -/

/-- The procedure of each side: the left side is told to authenticate. -/
def mainProcedure (ctx : Context) : Side → Procedure Unit
  | .left => Authentication.initiate ctx
  | .right => Authentication.respond ctx

/-- The loops that are polled before it. -/
def tasksBefore (ctx : Context) : Side → List Task
  | .left => []
  | .right => [.new (Authentication.initiate ctx)]

/-- The loops that are polled after it, apart from the last one. -/
def tasksAfter (ctx : Context) : Side → List Task
  | .left =>
    [.new (Authentication.respond ctx), .new (Encryption.initiate ctx),
      .new (Encryption.respond ctx)]
  | .right => [.new (Encryption.initiate ctx), .new (Encryption.respond ctx)]

/-- The last loop, which has answered a number of requests. -/
def featuresTask (ctx : Context) (served : ℕ) : Task :=
  ⟨Features.respond ctx, Features.respond ctx, served⟩

/-- The loops of a side, of which the main one and the one that serves features have been
running. -/
def tasksWith (ctx : Context) (x : Side) (t : Task) (served : ℕ) : List Task :=
  tasksBefore ctx x ++ ([t] ++ (tasksAfter ctx x ++ [featuresTask ctx served]))

/-- Where the main loop of a side is, with what is in the slot for commands, and where its process
is: a command in the slot is the one that the process has taken last. -/
inductive Position (x : Side) (t : Task) : Option Command → Procedure Unit → Prop
  | running : t.ended = 0 → t.current ≠ .ret () → Position x t none t.current
  | replied {c : Command} {g : Prompt} {k : Command → Procedure Unit} :
      t.ended = 0 → t.current = .command g k →
      g.accepts c = true → (x = .right → c ≠ .authenticationRequested) → Position x t (some c) (k c)
  | ended : t.ended = 1 → t.current = t.body → Position x t none (.ret ())

/-- The link managers follow the session. -/
structure Simulates (ctx : Side → Context) (s : Pair) (a : Session ω) : Prop where
  runs : ∀ x, ∃ t served, (s.node x).tasks = tasksWith (ctx x) x t served ∧
    t.body = mainProcedure (ctx x) x ∧
    Position x t (s.node x).hci (a.node x).proc
  inbox : ∀ x, a.inbox x = (s.node x).lmp ++ s.inbox x

section tick

variable {noted : Output → Option ω} {R : Rules Future Packet Prompt Command Event ω}
  {ctx : Side → Context}
  {x : Side} {l : List Packet} {a a' : Session ω} {b b' : Mail} {t : Task}

variable {c : Context}

/-- The main loop, when its procedure begins anew with nothing to do. -/
theorem quiet_main {n : ℕ} (hlmp : b.lmp = []) (hhci : b.hci = none) :
    Quiet b ⟨mainProcedure c x, mainProcedure c x, n⟩ := by
  cases x with
  | left =>
    refine quiet_command rfl rfl ?_
    rw [hhci]
    nofun
  | right =>
    refine quiet_receive rfl ?_
    rw [hlmp]
    nofun

/-- **The main loop follows the session.** -/
theorem main_poll (hR : LinkRules ctx noted R) (hg : Guided R a)
    (hb : t.body = mainProcedure (ctx x) x)
    (hpos : Position x t b.hci (a.node x).proc) (hin : a.inbox x = b.lmp ++ l) (n : ℕ) :
    ∃ t' b' a' outs r, t.poll (n + 2) b = .ok (t', b') ∧ t'.body = t.body ∧
      Polled noted R x l a a' { b with hci := none } b' outs ∧
      Guided R a' ∧ Position x t' none (a'.node x).proc ∧
      Parked b'.lmp (a'.node x).proc r := by
  have hcases : (t.ended = 0 ∧ poll t.current b = poll (a.node x).proc { b with hci := none }) ∨
      (t = ⟨t.body, t.body, 1⟩ ∧ b.hci = none ∧ (a.node x).proc = .ret ()) := by
    obtain ⟨hci, lmp, sent⟩ := b
    generalize (a.node x).proc = p at hpos
    cases hpos with
    | running hend => exact .inl ⟨hend, rfl⟩
    | replied hend hcur hacc =>
      refine .inl ⟨hend, ?_⟩
      rw [hcur, poll]
      exact if_pos hacc
    | ended hend hcur =>
      obtain ⟨body, current, ended⟩ := t
      cases hend
      cases hcur
      exact .inr ⟨rfl, rfl, rfl⟩
  rcases hcases with ⟨hend, hcur⟩ | ⟨ht, hhci, hproc⟩
  · obtain ⟨r, b', a', outs, hpoll, hpolled, hg', hpk⟩ :=
      poll_spec (b := { b with hci := none }) hR hg rfl hin rfl
    cases r with
    | some q =>
      refine ⟨{ t with current := q }, b', a', outs, some q, ?_, rfl, hpolled, hg', ?_, hpk⟩
      · rw [Task.poll, hcur, hpoll]
        rfl
      · obtain ⟨hproc, ⟨g, k, rfl⟩ | ⟨f, k, rfl, -⟩⟩ := hpk
        · rw [hproc]
          exact .running hend nofun
        · rw [hproc]
          exact .running hend nofun
    | none =>
      have hret : (a'.node x).proc = .ret () := hpk
      have hemp := hg'.empty_of_ret hret
      rw [hpolled.inbox, List.append_eq_nil_iff] at hemp
      refine ⟨⟨t.body, t.body, 1⟩, b', a', outs, none, ?_, rfl, hpolled, hg', ?_, hpk⟩
      · rw [Task.poll, hcur, hpoll]
        show Task.poll (n + 1) ⟨t.body, t.body, t.ended + 1⟩ b' = _
        rw [hend, hb]
        exact Task.poll_of_quiet n (quiet_main hemp.1 hpolled.hci)
      · rw [hret]
        exact .ended rfl rfl
  · -- the procedure has ended before
    have hemp := hg.empty_of_ret hproc
    rw [hin, List.append_eq_nil_iff] at hemp
    refine ⟨t, b, a, [], none, ?_, rfl, ?_, hg, ?_, hproc⟩
    · rw [ht, hb]
      exact Task.poll_of_quiet _ (quiet_main hemp.1 hhci)
    · rw [← hhci]
      exact .refl hhci hin
    · rw [hproc, ht]
      exact .ended rfl rfl

variable {r : Option (Procedure Unit)}

/-- A procedure that waits for packets leaves at most a request for features in the queue. -/
theorem rest_of_receive {f k} (hR : LinkRules ctx noted R) (hg : Guided R a)
    (hproc : (a.node x).proc = .receive f k)
    (hin : a.inbox x = b.lmp ++ l) (htk : ∀ m ∈ b.lmp.head?, f.takes m = false) :
    b.lmp = [] ∨ ∃ m r, b.lmp = [m] ∧ l = [] ∧ (ctx x).serve m = some r := by
  cases hlmp : b.lmp with
  | nil => exact .inl rfl
  | cons m =>
    rw [hlmp, List.cons_append] at hin
    rcases hg.takes_or_serves hproc hin with h | ⟨-, hemp, r, hsrv⟩
    · rw [hR.takes, htk m (by simp [hlmp])] at h
      cases h
    · rw [hR.serve x] at hsrv
      obtain ⟨rfl, rfl⟩ := List.append_eq_nil_iff.mp hemp
      exact .inr ⟨m, r, rfl, rfl, hsrv⟩

/-- What the main loop leaves in the queue is for no other loop, or is a request for features. -/
theorem rest_of_parked (hR : LinkRules ctx noted R) (hg : Guided R a)
    (hin : a.inbox x = b.lmp ++ l) (hpk : Parked b.lmp (a.node x).proc r) :
    (∀ m ∈ b.lmp.head?, m.foreign = false ∧ (ctx x).serve m = none) ∨
      ∃ m r, b.lmp = [m] ∧ l = [] ∧ (ctx x).serve m = some r := by
  cases r with
  | none =>
    have hemp := hg.empty_of_ret hpk
    rw [hin, List.append_eq_nil_iff] at hemp
    rw [hemp.1]
    exact .inl nofun
  | some q =>
    obtain ⟨hproc, ⟨g, k, rfl⟩ | ⟨f, k, rfl, htk⟩⟩ := hpk
    · refine .inl fun m hm => ?_
      have hhead : (a.inbox x).head? = some m := by
        rw [hin, List.head?_append, hm]
        rfl
      refine ⟨?_, ?_⟩
      · by_contra hforeign
        refine hg.refuses hproc ?_ hhead
        rw [hR.foreign]
        exact Bool.eq_true_of_not_eq_false hforeign
      · rw [← hR.serve x]
        exact hg.not_served hproc hhead
    · refine (rest_of_receive hR hg hproc hin htk).imp_left fun hnil => ?_
      rw [hnil]
      nofun

theorem quiet_before (h : x = .right → ∀ d ∈ b.hci, d ≠ .authenticationRequested) :
    ∀ t ∈ tasksBefore c x, Quiet b t := by
  cases x with
  | left => nofun
  | right =>
    refine List.forall_mem_singleton.mpr (quiet_command rfl rfl fun d hd => ?_)
    have hd := h rfl d hd
    cases d with
    | authenticationRequested => exact absurd rfl hd
    | _ => rfl

theorem quiet_after (hhci : b.hci = none) (hlmp : ∀ m ∈ b.lmp.head?, m.foreign = false) :
    ∀ t ∈ tasksAfter c x, Quiet b t := by
  have hopcode : ∀ m ∈ b.lmp.head?, m.opcode ∉
      [Opcode.auRand, .ioCapabilityReq, .inRand, .encryptionModeReq] :=
    fun m hm => of_decide_eq_false (hlmp m hm)
  have hrespond : Quiet b (.new (Authentication.respond c)) := by
    refine quiet_receive rfl fun m hm hopcodes => hopcode m hm ?_
    simp only [List.mem_cons] at hopcodes ⊢
    tauto
  have hencrypt : Quiet b (.new (Encryption.initiate c)) := by
    refine quiet_command rfl rfl ?_
    rw [hhci]
    nofun
  have henc : Quiet b (.new (Encryption.respond c)) := by
    refine quiet_receive rfl fun m hm hopcodes => hopcode m hm ?_
    tauto
  cases x with
  | left => simp [tasksAfter, hrespond, hencrypt, henc]
  | right => simp [tasksAfter, hencrypt, henc]

/-- The last loop answers a request for features. -/
theorem features_poll {m r} (served : ℕ) (hsrv : c.serve m = some r) (hlmp : b.lmp = [m]) :
    (featuresTask c served).poll (b.lmp.length + 2) b =
      .ok (featuresTask c (served + 1), { b with lmp := [], sent := b.sent ++ [.packet r] }) := by
  obtain ⟨hci, lmp, sent⟩ := b
  cases hlmp
  cases m with
  | featuresReqExt =>
    cases hsrv
    rfl
  | _ => cases hsrv

/-- The procedure waits for what is not in the queue. -/
def Blocked (lmp : List Packet) (p : Procedure Unit) : Prop :=
  p = .ret () ∨ (∃ g k, p = .command g k) ∨ (∃ f k, p = .receive f k ∧ lmp = [])

variable (noted R) in
/-- What a tick at one side does to the session. -/
structure Ticked (x : Side) (v v' : Link) (a a' : Session ω) (outs : List Output) : Prop where
  guided : Guided R a'
  hci : v'.hci = none
  log : ∀ y, (a'.node y).log = (a.node y).log ++ if y = x then outs.filterMap noted else []
  blocked : Blocked v'.lmp (a'.node x).proc
  steps : (a' = a ∧ outs = [] ∧ v'.lmp = v.lmp) ∨ (Relation.TransGen (Step R) a a' ∧
    (outs ≠ [] ∨ v'.lmp ≠ v.lmp))

/-- One side changes, and the session with it. -/
theorem Simulates.act {s v ms} {served : ℕ} (hsim : Simulates ctx s a)
    (hts : v.tasks = tasksWith (ctx x) x t served) (hb : t.body = mainProcedure (ctx x) x)
    (hpos : Position x t v.hci (a'.node x).proc) (hin : a'.inbox x = v.lmp ++ s.inbox x)
    (hoth : a'.node x.other = a.node x.other) (hp : a'.inbox x.other = a.inbox x.other ++ ms) :
    Simulates ctx (s.act x v ms) a' := by
  refine ⟨(Side.forall_iff x).mpr ⟨?_, ?_⟩, (Side.forall_iff x).mpr ⟨?_, ?_⟩⟩
  · rw [Duplex.State.act_node_self]
    exact ⟨t, served, hts, hb, hpos⟩
  · rw [Duplex.State.act_node_other, hoth]
    exact hsim.runs x.other
  · rw [Duplex.State.act_node_self, Duplex.State.act_inbox_self, hin]
  · rw [Duplex.State.act_node_other, Duplex.State.act_inbox_other, hp, hsim.inbox x.other,
      List.append_assoc]

/-- A procedure that is parked is blocked when it does not wait for packets, or there are none. -/
theorem blocked_of_parked {lmp lmp' p} (h : Parked lmp p r)
    (hnil : ∀ f k, p = .receive f k → (∀ m ∈ lmp.head?, f.takes m = false) → lmp' = []) :
    Blocked lmp' p := by
  cases r with
  | none => exact .inl h
  | some =>
    obtain ⟨hproc, ⟨g, k, rfl⟩ | ⟨f, k, rfl, htk⟩⟩ := h
    · exact .inr (.inl ⟨g, k, hproc⟩)
    · exact .inr (.inr ⟨f, k, hproc, hnil f k hproc htk⟩)

/-- **A tick follows the session.** -/
theorem tick_spec {s} (hR : LinkRules ctx noted R) (hg : Guided R a)
    (hsim : Simulates ctx s a) (x : Side) : ∃ v outs a',
    (s.node x).tick = .ok (v, outs) ∧
      Simulates ctx (s.act x v (outs.filterMap Output.packet?)) a' ∧
      Ticked noted R x (s.node x) v a a' outs := by
  obtain ⟨t, served, hts, hbody, hpos⟩ := hsim.runs x
  obtain ⟨t', b', a₁, outs, r, hpoll, hbody', hpolled, hg₁, hpos', hpk⟩ :=
    main_poll (b := ⟨(s.node x).hci, (s.node x).lmp, []⟩) hR hg hbody hpos (hsim.inbox x)
      (s.node x).lmp.length
  have hpre : pollTasks (tasksBefore (ctx x) x) ⟨(s.node x).hci, (s.node x).lmp, []⟩ =
      .ok (tasksBefore (ctx x) x, ⟨(s.node x).hci, (s.node x).lmp, []⟩) := by
    refine pollTasks_quiet (quiet_before fun hx c hc => ?_)
    generalize (a.node x).proc = p at hpos
    rw [show (s.node x).hci = some c from hc] at hpos
    cases hpos with
    | replied _ _ _ hc => exact hc hx
  have htick : ∀ {ts : List Task} {b : Mail},
      pollTasks (tasksAfter (ctx x) x ++ [featuresTask (ctx x) served]) b' = .ok (ts, b) →
      (s.node x).tick = .ok (⟨tasksBefore (ctx x) x ++ ([t'] ++ ts), b.hci, b.lmp⟩, b.sent) := by
    intro ts b hrs
    have hall := pollTasks_append hpre (pollTasks_append (pollTasks_one hpoll) hrs)
    rw [Link.tick, hts]
    unfold tasksWith
    rw [hall]
    rfl
  have hlog : ∀ {a' : Session ω} {outs : List Output}, a'.node x.other = a.node x.other →
      (a'.node x).log = (a.node x).log ++ outs.filterMap noted →
      ∀ y, (a'.node y).log = (a.node y).log ++ if y = x then outs.filterMap noted else [] := by
    intro a' outs hoth hlog
    refine (Side.forall_iff x).mpr ⟨?_, ?_⟩
    · rw [if_pos rfl, hlog]
    · rw [if_neg (Side.other_ne x), List.append_nil, hoth]
  have hsent : b'.sent = outs := hpolled.sent
  rcases rest_of_parked hR hg₁ hpolled.inbox hpk with hq | ⟨m, r', hlmp, hl, hsrv⟩
  · -- nothing is left for the other loops
    have hrs : pollTasks (tasksAfter (ctx x) x ++ [featuresTask (ctx x) served]) b' =
        .ok (tasksAfter (ctx x) x ++ [featuresTask (ctx x) served], b') := by
      refine pollTasks_quiet
        (List.forall_mem_append.mpr ⟨quiet_after hpolled.hci fun m hm => (hq m hm).1,
        List.forall_mem_singleton.mpr (quiet_receive rfl fun m hm hopcode => ?_)⟩)
      have hsrv := (hq m hm).2
      cases m with
      | featuresReqExt => cases hsrv
      | _ => simp [Packet.opcode] at hopcode
    refine ⟨_, _, a₁, htick hrs, ?_, hg₁, hpolled.hci, ?_, ?_, ?_⟩
    · rw [hsent]
      refine hsim.act rfl (hbody'.trans hbody) ?_ hpolled.inbox hpolled.other hpolled.peer
      rw [hpolled.hci]
      exact hpos'
    · rw [hsent]
      exact hlog hpolled.other hpolled.log
    · refine blocked_of_parked hpk fun f k hproc htk => ?_
      rcases rest_of_receive hR hg₁ hproc hpolled.inbox htk with hnil | ⟨m, r, hlmp, -, hsrv⟩
      · exact hnil
      · rw [(hq m (by rw [hlmp]; rfl)).2] at hsrv
        cases hsrv
    · rcases hpolled.steps with ⟨ha, hb⟩ | hsteps
      · refine .inl ⟨ha, ?_, ?_⟩
        · rw [hb]
        · rw [hb]
      · refine .inr ⟨hsteps.1, hsteps.2.imp (by rw [hsent]; exact id) fun hlt heq => ?_⟩
        rw [show b'.lmp = (s.node x).lmp from heq] at hlt
        exact Nat.lt_irrefl _ hlt
  · -- a request for features is answered
    have hforeign : ∀ m ∈ b'.lmp.head?, m.foreign = false := by
      rw [hlmp]
      rintro _ ⟨⟩
      cases m with
      | featuresReqExt => rfl
      | _ => cases hsrv
    have hrs :=
        pollTasks_append (pollTasks_quiet (quiet_after (x := x) (c := ctx x) hpolled.hci hforeign))
      (pollTasks_one (features_poll served hsrv hlmp))
    have hin : a₁.inbox x = [m] := by
      rw [hpolled.inbox, hlmp, hl]
      rfl
    have hstep : Step R a₁ (next a₁ x (a₁.node x) [] [r']) :=
        .serves x hin (by rw [hR.serve x, hsrv])
    have hnode : (next a₁ x (a₁.node x) [] [r']).node = a₁.node := next_node_idle
    refine ⟨_, _, next a₁ x (a₁.node x) [] [r'], htick hrs, ?_, hg₁.step hstep,
      hpolled.hci, ?_, ?_, ?_⟩
    · refine hsim.act rfl (hbody'.trans hbody) ?_ ?_ ?_ ?_
      · rw [hnode]
        show Position x t' b'.hci _
        rw [hpolled.hci]
        exact hpos'
      · rw [next_inbox_self, hl]
        rfl
      · rw [hnode, hpolled.other]
      · rw [next_inbox_other, hpolled.peer, hsent, List.filterMap_append, List.append_assoc]
        rfl
    · refine hlog ?_ ?_
      · rw [hnode, hpolled.other]
      · have hunnoted : noted (.packet r') = none := by
          cases m with
          | featuresReqExt =>
            cases hsrv
            exact hR.unnoted _ _ _
          | _ => cases hsrv
        rw [hnode, hpolled.log, hsent, List.filterMap_append]
        simp [hunnoted]
    · rw [hnode]
      exact blocked_of_parked hpk fun _ _ _ _ => rfl
    · refine .inr ⟨?_, .inl (by simp)⟩
      rcases hpolled.steps with ⟨ha, -⟩ | ⟨hsteps, -⟩
      · rw [← ha]
        exact .single hstep
      · exact hsteps.tail hstep

end tick

end RootCanal.Lmp
