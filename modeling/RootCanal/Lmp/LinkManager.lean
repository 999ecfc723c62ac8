import RootCanal.Lmp.Procedures

/-!
# Link managers

A link has a queue of packets, room for one command, and five procedures that run next to each
other, each in a loop.  `tick` polls them in turn: each goes on as far as the queue and the command
allow, and what it does not take is left to those after it.

`pair` is the machine of two link managers and the channels between them.

Source: `lmp/manager.rs`, `lmp/procedure/mod.rs` `run`
-/

namespace RootCanal.Lmp

open Lib Lib.Session

/-! ## Polling -/

/-- What a link manager gives to the host and to the peer. -/
inductive Output
  | event (e : Event)
  | packet (p : Packet)
  deriving DecidableEq, Repr

/-- The packet, if it is one. -/
def Output.packet? : Output → Option Packet
  | .packet p => some p
  | .event _ => none

/-- What the procedures of a link share while they are polled. -/
structure Mail where
  hci : Option Command
  lmp : List Packet
  sent : List Output

/-- Poll a procedure: until it has returned (`none`) or waits for what is not there.
Source: `LinkContext` and the poll of the future -/
def poll : Procedure Unit → Mail → Except Panic (Option (Procedure Unit) × Mail)
  | .ret _, b => .ok (none, b)
  | .send p next, b => poll next { b with sent := b.sent ++ [.packet p] }
  | .emit e next, b => poll next { b with sent := b.sent ++ [.event e] }
  | .receive f next, b =>
    match f.poll b.lmp with
    | (some p, lmp) => poll (next p) { b with lmp }
    | (none, lmp) => .ok (some (.receive f next), { b with lmp })
  | .command g next, b =>
    match b.hci with
    | none => .ok (some (.command g next), b)
    | some c =>
      if g.accepts c then
        poll (next c) { b with hci := none }
      else if g.answers = some c.opCode then
        .ok (some (.command g next),
          { b with hci := none, sent := b.sent ++ [.event (.commandComplete c.opCode .success)] })
      else
        .ok (some (.command g next), b)
  | .panic e, _ => .error e

/-- A procedure in a loop. `ended` counts how often it has returned. -/
structure Task where
  body : Procedure Unit
  current : Procedure Unit
  ended : ℕ

/-- A loop that has just been entered. -/
def Task.new (body : Procedure Unit) : Task := ⟨body, body, 0⟩

/-- Poll a loop. A loop whose body does not wait does not end.
Source: `run_procedures` -/
def Task.poll : ℕ → Task → Mail → Except Panic (Task × Mail)
  | 0, _, _ => .error .hang
  | rounds + 1, t, b => do
    match ← Lmp.poll t.current b with
    | (some current, b) => .ok ({ t with current }, b)
    | (none, b) => Task.poll rounds { t with current := t.body, ended := t.ended + 1 } b

/-- Poll the loops in turn.  Each time that one returns it has taken a packet or the command, so
that the number of rounds is enough.
Source: `run_procedures` -/
def pollTasks : List Task → Mail → Except Panic (List Task × Mail)
  | [], b => .ok ([], b)
  | t :: ts, b => do
    let (t, b) ← t.poll (b.lmp.length + 2) b
    let (ts, b) ← pollTasks ts b
    .ok (t :: ts, b)

/-! ## Links -/

/-- The procedures of a link, in the order in which they are polled.
Source: `run` -/
def procedures (ctx : Context) : List (Procedure Unit) :=
  [Authentication.initiate ctx, Authentication.respond ctx, Encryption.initiate ctx,
    Encryption.respond ctx, Features.respond ctx]

/-- A link: its procedures, and what waits for them. -/
structure Link where
  tasks : List Task
  hci : Option Command
  lmp : List Packet

/-- Source: `add_link` -/
def Link.new (ctx : Context) : Link := ⟨(procedures ctx).map .new, none, []⟩

/-- There is room for one command. -/
def Link.ingestHci (v : Link) (c : Command) : Except Panic Link := do
  assert v.hci.isNone
  .ok { v with hci := some c }

/-- An LMP packet is queued. -/
def Link.ingestLmp (v : Link) (p : Packet) : Link := { v with lmp := v.lmp ++ [p] }

/-- The procedures are polled in turn. -/
def Link.tick (v : Link) : Except Panic (Link × List Output) := do
  let (tasks, b) ← pollTasks v.tasks ⟨v.hci, v.lmp, []⟩
  .ok (⟨tasks, b.hci, b.lmp⟩, b.sent)

/-! ## The machine of two link managers -/

/-- An input of a link manager. -/
inductive Input
  | hci (c : Command)
  | lmp (p : Packet)
  | tick
  deriving DecidableEq, Repr

/-- A link manager with one link. -/
def machine : Machine Link Input Output where
  step v
    | .hci c => do
      let v ← v.ingestHci c
      .ok (v, [])
    | .lmp p => .ok (v.ingestLmp p, [])
    | .tick => v.tick

/-- Two link managers, and the packets on their way to each. -/
abbrev Pair := Duplex.State Link Packet

/-- Two link managers joined by channels that keep the order. -/
def pair : Machine Pair (Duplex.Input Input Unit) (Side × Output) :=
  Duplex.machine machine Output.packet? fun _ p => .lmp p

end RootCanal.Lmp
