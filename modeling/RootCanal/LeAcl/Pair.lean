import RootCanal.LeAcl.Turns
import RootCanal.Lib.Duplex

/-!
# A Central and a Peripheral

`pair` is the machine of two LE controllers and the channels between them.  Each has one connection,
the one with the other: the left side is its Central, the right side its Peripheral.

What the two have of it is a `Link`: the connection at each end and the packets on their way.  A
link is `Coherent` when its ends have their roles and name each other, and when the packets on their
way are for the connection they arrive at.  **`moves_of_step`: a command about the connection, a
task or a delivery is a move of the link**, so that what holds of links along the moves holds of the
two controllers (`exists_link`).
-/

namespace RootCanal.LeAcl

open Lib RootCanal.Hci RootCanal.Gap

/-- Two controllers, and the packets on their way to each. -/
abbrev Pair := Duplex.State LeController Packet

/-- Two LE controllers joined by channels that keep the order. -/
def pair : Machine Pair (Duplex.Input Input Env) (Side × Output) :=
  Duplex.machine machine Output.packet? fun env p => ⟨env, .packet p⟩

/-- The ends of a connection, and the packets on their way to each. -/
abbrev Link := Duplex.State LeAclConnection Packet

/-- The role of each side. -/
def sideRole : Side → Role
  | .left => .central
  | .right => .peripheral

/-- The input is about the connection. -/
def OnLink : Duplex.Input Input Env → Bool
  | .act _ i => i.action.onLink
  | .deliver _ _ => true

/-! ## The link -/

/-- The ends have their roles and name each other, and what is on its way is for the end it arrives
at. -/
structure Link.Coherent (t : Link) : Prop where
  role : ∀ x, (t.node x).role = sideRole x
  ends : ∀ x, (t.node x.other).ends = (t.node x).ends.swap
  carries : Duplex.Carries (fun x p =>
    (t.node x).ends = (p.destinationAddress, p.sourceAddress) ∧ p.body.suits (sideRole x)) t

/-- What the two controllers have of the connection between them. -/
structure Pair.Links (s : Pair) (handle : Side → UInt16) (t : Link) : Prop where
  sole : ∀ x, Sole (s.node x) (handle x) (t.node x)
  inbox : t.inbox = s.inbox

/-- What a step does to the link. -/
inductive Link.Moves (s : Pair) (handle : Side → UInt16) (t : Link) :
    Duplex.Input Input Env → Pair → Link → Prop
  | act {x : Side} {i : Input} {v : LeController} {c : LeAclConnection} {bodies : List Body} :
      Turn (s.node x) (handle x) (t.node x) i.action v c bodies →
      Moves s handle t (.act x i) (s.act x v (bodies.map (t.node x).sends))
        (t.act x c (bodies.map (t.node x).sends))
  | idle {x : Side} {e : Env} : Moves s handle t (.deliver x e) s t
  | deliver {x : Side} {e : Env} {p : Packet} {q : List Packet} {v : LeController}
      {c : LeAclConnection} {bodies : List Body} : t.inbox x = p :: q →
      Turn (s.node x) (handle x) (t.node x) (.packet p) v c bodies →
      Moves s handle t (.deliver x e) ((s.take x q).act x v (bodies.map (t.node x).sends))
        ((t.take x q).act x c (bodies.map (t.node x).sends))

namespace Link

variable {s s' : Pair} {handle : Side → UInt16} {t t' : Link} {x : Side} {c : LeAclConnection}
  {p : Packet} {q ps : List Packet}

theorem sideRole_other (x : Side) : sideRole x.other = peerRole (sideRole x) := by
  cases x <;> rfl

theorem Coherent.take (ht : t.Coherent) (hq : t.inbox x = p :: q) : Coherent (t.take x q) :=
  ⟨ht.role, ht.ends, ht.carries.take hq⟩

/-- An end of a coherent link keeps its ends and its role. -/
theorem Coherent.act {bodies} (ht : t.Coherent) (hc : Keeps (t.node x) c bodies) :
    Coherent (t.act x c (bodies.map (t.node x).sends)) := by
  have hnode : ∀ y, ((t.act x c (bodies.map (t.node x).sends)).node y).ends = (t.node y).ends := by
    refine (Side.forall_iff x).mpr ⟨?_, ?_⟩
    · rw [Duplex.State.act_node_self]
      exact hc.ends
    · rw [Duplex.State.act_node_other]
  refine ⟨?_, ?_, ?_⟩
  · refine (Side.forall_iff x).mpr ⟨?_, ?_⟩
    · rw [Duplex.State.act_node_self, hc.role, ht.role]
    · rw [Duplex.State.act_node_other, ht.role]
  · intro y
    rw [hnode, hnode, ht.ends]
  · have hcar := ht.carries
    simp only [← hnode] at hcar
    refine hcar.act fun p hp => ?_
    obtain ⟨body, hb, rfl⟩ := List.mem_map.mp hp
    refine ⟨?_, ?_⟩
    · rw [hnode, ht.ends]
      rfl
    · rw [sideRole_other, ← ht.role]
      exact hc.sent body hb

theorem links_act {v} (hs : s.Links handle t) (hv : Sole v (handle x) c) :
    Pair.Links (s.act x v ps) handle (t.act x c ps) := by
  refine ⟨(Side.forall_iff x).mpr ⟨?_, ?_⟩, ?_⟩
  · rw [Duplex.State.act_node_self, Duplex.State.act_node_self]
    exact hv
  · rw [Duplex.State.act_node_other, Duplex.State.act_node_other]
    exact hs.sole x.other
  · unfold Duplex.State.act
    rw [hs.inbox]

theorem links_take (hs : s.Links handle t) : Pair.Links (s.take x q) handle (t.take x q) := by
  refine ⟨hs.sole, ?_⟩
  unfold Duplex.State.take
  rw [hs.inbox]

/-- A packet on its way is about the connection it arrives at. -/
theorem Coherent.about (ht : t.Coherent) (hq : t.inbox x = p :: q) :
    About (t.node x) (.packet p) := by
  obtain ⟨hends, hsuits⟩ := ht.carries.head hq
  exact .inr ⟨p, rfl, hends, Body.isProcedure_of_suits hsuits⟩

variable {i : Duplex.Input Input Env}

/-- **A step about the connection is a move of the link.** -/
theorem moves_of_step {outs} (hs : s.Links handle t) (ht : t.Coherent) (hi : OnLink i)
    (h : pair.step s i = .ok (s', outs)) :
    ∃ t', s'.Links handle t' ∧ t'.Coherent ∧ Moves s handle t i s' t' := by
  cases Duplex.steps_of_step h with
  | @act _ _ _ out hstep =>
    obtain ⟨c, bodies, hsole, hout, hturn⟩ := turn_of_step (hs.sole _) (.inl hi) hstep
    rw [show out.filterMap Output.packet? = bodies.map _ from hout]
    exact ⟨_, links_act hs hsole, ht.act hturn.keeps, .act hturn⟩
  | idle => exact ⟨t, hs, ht, .idle⟩
  | @deliver x e p _ _ out hq hstep =>
    rw [← hs.inbox] at hq
    obtain ⟨c, bodies, hsole, hout, hturn⟩ :=
      turn_of_step (i := ⟨e, .packet p⟩) (hs.sole x) (ht.about hq) hstep
    rw [show out.filterMap Output.packet? = bodies.map _ from hout]
    exact ⟨_, links_act (links_take hs) hsole, (ht.take hq).act hturn.keeps, .deliver hq hturn⟩

/-- What has happened, with what was sent. -/
abbrev Trace := List (Duplex.Input Input Env × List (Side × Output))

/-- **What the moves of the link preserve holds of the two controllers in every run.** -/
theorem exists_link {C s₀ t₀ tr}
    (I : Trace → Pair → Link → Prop) (hC : ∀ s i, C s i → OnLink i) (hs₀ : s₀.Links handle t₀)
    (ht₀ : t₀.Coherent) (hI : I [] s₀ t₀)
    (hstep : ∀ tr s t i s' t' outs, s.Links handle t → t.Coherent → I tr s t → C s i →
      Moves s handle t i s' t' → I (tr ++ [(i, outs)]) s' t') (h : pair.Run C s₀ tr s) :
    ∃ t, s.Links handle t ∧ t.Coherent ∧ I tr s t := by
  refine h.invariant_trace (fun tr s => ∃ t, s.Links handle t ∧ t.Coherent ∧ I tr s t)
    ⟨t₀, hs₀, ht₀, hI⟩ ?_
  rintro tr s i s' outs ⟨t, hs, ht, hinv⟩ hi hrun
  obtain ⟨t', hs', ht', hmv⟩ := moves_of_step hs ht (hC s i hi) hrun
  exact ⟨t', hs', ht', hstep tr s t i s' t' outs hs ht hinv hi hmv⟩

/-! ## A link that has just been made -/

/-- The connection has just been made: it is not encrypted, on LE 1M, with the same parameters at
both ends, and nothing is in flight. -/
structure Made (t : Link) : Prop where
  coherent : t.Coherent
  inbox : ∀ x, t.inbox x = []
  phys : ∀ x, (t.node x).txPhy = .le1m ∧ (t.node x).rxPhy = .le1m
  key : ∀ x, (t.node x).ltk = none ∧ (t.node x).encrypted = false
  parameters : (t.node .right).parameters = (t.node .left).parameters

/-- The addresses of the two. -/
def oneAndTwo : Side → Address
  | .left => 1
  | .right => 2

/-- A controller that supports LE 2M. -/
def supporting2M : ControllerProperties where
  leFeatures := LLFeaturesBits.le2mPhy

/-- A connection between the two, with an interval of 30 ms and a timeout of 1 s. -/
def oneToTwo : Link where
  node x := (LeController.new (oneAndTwo x) supporting2M).newConnection 0x200
    ⟨oneAndTwo x.other, .publicDeviceAddress⟩ .empty
      ⟨oneAndTwo x, .publicDeviceAddress⟩ (sideRole x)
    24 0 100
  inbox _ := []

/-- The two with the connection. -/
def joined : Pair where
  node x := { LeController.new (oneAndTwo x) supporting2M with
    leAclConnections := (∅ : HashMap UInt16 LeAclConnection).insert 0x200 (oneToTwo.node x) }
  inbox _ := []

theorem joined_links : joined.Links (fun _ => 0x200) oneToTwo := by
  refine ⟨fun x => ⟨?_, ?_⟩, rfl⟩
  · exact (HashMap.getElem?_insert' ..).trans (if_pos rfl)
  · intro k c hk
    have hk' := (HashMap.getElem?_insert' ..).symm.trans hk
    split at hk'
    · rename_i heq
      exact heq.symm
    · cases hk'

theorem oneToTwo_made : Made oneToTwo := by
  refine ⟨⟨?_, ?_, ?_⟩, fun _ => rfl, fun _ => ⟨rfl, rfl⟩, fun _ => ⟨rfl, rfl⟩, rfl⟩
  · intro x
    rfl
  · intro x
    cases x <;> rfl
  · intro x p hp
    cases hp

/-! ## The commands of the hosts -/

/-- The action is what happens at a side. -/
def Occurs (t : Link) (x : Side) (a : Action) : Duplex.Input Input Env → Prop
  | .act y i => y = x ∧ i.action = a
  | .deliver y _ => y = x ∧ ∃ p q, t.inbox x = p :: q ∧ a = .packet p

/-- The command about a connection, with its side and handle. -/
def requestOf : Duplex.Input Input Env → Option (Side × UInt16 × Request)
  | .act x ⟨_, .command (.onConnection handle request)⟩ => some (x, handle, request)
  | _ => none

/-- The input is about the connection, and a command on it satisfies `P` for its side. -/
def Meets (P : Side → LeAclConnection → Request → Prop) (s : Pair) (i : Duplex.Input Input Env) :
    Prop :=
  OnLink i ∧ ∀ r ∈ requestOf i, ∀ c ∈ (s.node r.1).leAclConnections[r.2.1]?, P r.1 c r.2.2

instance Meets.decidable (P : Side → LeAclConnection → Request → Prop)
    [∀ x c request, Decidable (P x c request)] (s : Pair) (i : Duplex.Input Input Env) :
    Decidable (Meets P s i) :=
  have : Decidable (∀ r ∈ requestOf i, ∀ c ∈ (s.node r.1).leAclConnections[r.2.1]?,
      P r.1 c r.2.2) := @Option.decidableForallMem _ _ (fun _ => Option.decidableForallMem _)
      (requestOf i)
  inferInstanceAs (Decidable (_ ∧ _))

/-- A command of the turn that a side takes satisfies `P`. -/
theorem Meets.occurs {P request} (h : Meets P s i) (hs : s.Links handle t)
    (ha : Occurs t x (.command (.onConnection (handle x) request)) i) : P x (t.node x) request := by
  cases i with
  | act y i =>
    obtain ⟨env, action⟩ := i
    obtain ⟨rfl, rfl⟩ := ha
    exact h.2 (y, handle y, request) rfl (t.node y) (hs.sole y).get
  | deliver =>
    obtain ⟨-, p, q, -, hp⟩ := ha
    cases hp

/-- A packet that a side receives in its turn was on its way to it. -/
theorem Occurs.head (h : Occurs t x (.packet p) i) (hi : OnLink i) : ∃ q, t.inbox x = p :: q := by
  cases i with
  | act _ i =>
    obtain ⟨env, action⟩ := i
    obtain ⟨rfl, rfl⟩ := h
    cases hi
  | deliver =>
    obtain ⟨-, p', q, hq, hp⟩ := h
    cases hp
    exact ⟨q, hq⟩

/-- The packet that an action is. -/
def packetOf : Action → Option Packet
  | .packet p => some p
  | _ => none

/-- The state after the turn of a side. -/
structure Taken (s : Pair) (t : Link) (x : Side) (a : Action) (v : LeController)
    (c : LeAclConnection) (bodies : List Body) (s' : Pair) (t' : Link) : Prop where
  self : s'.node x = v
  other : s'.node x.other = s.node x.other
  linkSelf : t'.node x = c
  linkOther : t'.node x.other = t.node x.other
  sent : t'.inbox x.other = t.inbox x.other ++ bodies.map (t.node x).sends
  took : t.inbox x = (packetOf a).toList ++ t'.inbox x

/-- A move is a turn of one side, or nothing. -/
theorem Moves.taken (h : Moves s handle t i s' t') (hi : OnLink i) :
    (s' = s ∧ t' = t) ∨ ∃ x a v c bodies, Occurs t x a i ∧
      Turn (s.node x) (handle x) (t.node x) a v c bodies ∧ Taken s t x a v c bodies s' t' := by
  cases h with
  | @act x i v c bodies hturn =>
    refine .inr
      ⟨x, i.action, v, c, bodies, ⟨rfl, rfl⟩,
      hturn, by simp, by simp, by simp, by simp, by simp, ?_⟩
    rw [Duplex.State.act_inbox_self]
    obtain ⟨env, a⟩ := i
    cases a with
    | packet => cases hi
    | _ => rfl
  | idle => exact .inl ⟨rfl, rfl⟩
  | @deliver x _ p q v c bodies hq hturn =>
    refine .inr ⟨x, .packet p, v, c, bodies, ⟨rfl, p, q, hq, rfl⟩, hturn, by simp, by simp, by simp,
      by simp, by simp, ?_⟩
    rw [hq, Duplex.State.act_inbox_self, Duplex.State.take_inbox_self]
    rfl

/-! ## The Peripheral follows the Central -/

/-- What a packet, if the action is one, makes of what is seen of an end. -/
def arrives {β : Type} (arrive : β → Body → β) (b : β) : Action → β
  | .packet p => arrive b p.body
  | _ => b

/-- **The rule for a link whose Peripheral follows its Central.** -/
theorem follows_of_moves {β : Type} {arrive : β → Body → β} {lead view : LeAclConnection → β}
    (h : Duplex.Follows (fun b p => arrive b p.body) lead view .left t) (hi : OnLink i)
    (hleft : ∀ {a v c bodies}, Occurs t .left a i →
      Turn (s.node .left) (handle .left) (t.node .left) a v c bodies →
      bodies.foldl arrive (lead (t.node .left)) = lead c)
        (hrt : ∀ {a v c bodies}, Occurs t .right a i →
      Turn (s.node .right) (handle .right) (t.node .right) a v c bodies →
      view c = arrives arrive (view (t.node .right)) a) (hmv : Moves s handle t i s' t') :
    Duplex.Follows (fun b p => arrive b p.body) lead view .left t' := by
  cases hmv with
  | @act x i _ _ _ hturn =>
    cases x with
    | left =>
      refine h.act_leader ?_
      rw [List.foldl_map]
      exact hleft ⟨rfl, rfl⟩ hturn
    | right =>
      refine h.act_follower ?_
      rw [hrt ⟨rfl, rfl⟩ hturn]
      obtain ⟨env, a⟩ := i
      cases a with
      | packet => cases hi
      | _ => rfl
  | idle => exact h
  | @deliver x _ p q _ _ _ hq hturn =>
    cases x with
    | left =>
      refine h.take_leader.act_leader ?_
      rw [List.foldl_map]
      exact hleft ⟨rfl, p, q, hq, rfl⟩ hturn
    | right =>
      refine h.deliver_follower hq ?_
      exact hrt ⟨rfl, p, q, hq, rfl⟩ hturn

end Link

end RootCanal.LeAcl
