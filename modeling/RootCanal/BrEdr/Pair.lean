import RootCanal.BrEdr.Protocol
import RootCanal.BrEdr.Registration

/-!
# Two controllers joined by channels

`pair` is the machine of two BR/EDR controllers and the channels between them.  A packet is in
flight from when it is scheduled until it is delivered (`Pair.inFlight`).

Each controller has a connection only with the other (`Facing`), and what it does is seen by the
other through the signals it sends.  `Pair.view` is what the two have of the connection between
them, and **`Pair.moves_of_step`: a step of the pair is a move of the protocol**, provided that a
page is given up or accepted as the moves ask (`Pair.Allows`).
-/

namespace RootCanal.BrEdr

open Lib RootCanal.Hci

/-! ## The pair -/

/-- The packet an output sends. -/
def Output.packet? : Output → Option Packet
  | .remote packet => some packet
  | _ => none

/-- The packet a task sends. -/
def Task.packet? : Task → Option Packet
  | .send packet => some packet
  | _ => none

/-- Two controllers, and the packets on their way to each. -/
abbrev Pair := Duplex.State BrEdrController Packet

/-- Two BR/EDR controllers joined by channels that keep the order. -/
def pair : Machine Pair (Duplex.Input Input Env) (Side × Output) :=
  Duplex.machine machine Output.packet? fun env packet => ⟨env, .packet packet⟩

/-- The signal of a packet. -/
def Body.signal? : Body → Option Signal
  | .pageResponse try_ => some (.response try_)
  | .pageReject _ => some .reject
  | .disconnect _ => some .close
  | .roleSwitchResponse status =>
    if status = ErrorCode.success.toUInt8 then some .switched else none
  | _ => none

/-- The signals among some packets. -/
def signalsOf (packets : List Packet) : List Signal :=
  packets.filterMap fun packet => packet.body.signal?

/-- The packets that are scheduled. -/
def packetsOf (ts : List Task) : List Packet := ts.filterMap Task.packet?

/-- What a controller has of the connection with a peer. -/
def Connections.party (k : Connections) (peer : Address) : Party :=
  match k.link peer with
  | some connection => .linked connection.role
  | none =>
    match k.pageFor peer with
    | some page => .paging page.allowRoleSwitch
    | none => .apart

namespace Pair

/-- The pair at the start, with the address of each. -/
def start (own : Side → Address) : Pair where
  node x := BrEdrController.new (own x)
  inbox _ := []

/-- The address of the other. -/
def peer (s : Pair) (x : Side) : Address := (s.node x.other).address

/-- The packets on their way to a side, with those that are still to be sent. -/
def inFlight (s : Pair) (x : Side) : List Packet :=
  s.inbox x ++ packetsOf (s.node x.other).tasks

/-- The signals on their way to a side. -/
def signals (s : Pair) (x : Side) : List Signal := signalsOf (s.inFlight x)

/-- What the two have of the connection between them. -/
def view (s : Pair) : Duplex.State Party Signal where
  node x := (s.node x).connections.party (s.peer x)
  inbox := s.signals

end Pair

/-! ## Signals -/

theorem signalsOf_append (ps ps' : List Packet) :
    signalsOf (ps ++ ps') = signalsOf ps ++ signalsOf ps' :=
  List.filterMap_append

variable {packet : Packet}

/-- A packet that is no signal. -/
theorem signalsOf_cons_none (h : packet.body.signal? = none) (ps : List Packet) :
    signalsOf (packet :: ps) = signalsOf ps :=
  List.filterMap_cons_none (f := fun packet : Packet => packet.body.signal?) h

/-- A packet that is a signal. -/
theorem signalsOf_cons_some {m} (h : packet.body.signal? = some m) (ps : List Packet) : signalsOf
    (packet :: ps) = m :: signalsOf ps :=
  List.filterMap_cons_some (f := fun packet : Packet => packet.body.signal?) h

theorem packetsOf_append (ts ts' : List Task) :
    packetsOf (ts ++ ts') = packetsOf ts ++ packetsOf ts' :=
  List.filterMap_append

/-- A minor packet is no signal. -/
theorem Body.signal?_of_minor {body : Body} (h : body.minor = true) : body.signal? = none := by
  cases body with
  | roleSwitchResponse => simpa [minor, signal?] using h
  | page | pageResponse | pageReject | disconnect => cases h
  | _ => rfl

/-- Only a role switch that succeeds is a signal. -/
theorem Body.signal?_roleSwitchResponse {status m}
    (h : (Body.roleSwitchResponse status).signal? = some m) :
    status = ErrorCode.success.toUInt8 ∧ m = .switched := by
  change (if status = ErrorCode.success.toUInt8 then some Signal.switched else none) = some m at h
  split at h
  · rename_i hst
    exact ⟨hst, (Option.some.inj h).symm⟩
  · cases h

/-- Minor tasks send no signals. -/
theorem Minor.signals {ts : List Task} (h : Minor ts) : signalsOf (packetsOf ts) = [] := by
  refine List.filterMap_eq_nil_iff.mpr fun packet hmem => ?_
  obtain ⟨t, ht, hpkt⟩ := List.mem_filterMap.mp hmem
  cases t with
  | send =>
    cases hpkt
    exact Body.signal?_of_minor (h _ ht)
  | event | rejectPeripheralConnection => cases hpkt

/-- There is no packet among them. -/
theorem Unreported.packets {out} (h : Unreported out) : out.filterMap Output.packet? = [] := by
  refine List.filterMap_eq_nil_iff.mpr fun o ho => ?_
  cases o with
  | remote => cases h _ ho
  | status | event => rfl

/-! ## Each faces the other -/

/-- A packet about the connection goes from the one to the other. -/
def Packet.Between (own peer : Address) (packet : Packet) : Prop :=
  (packet.body.minor = false → packet.sourceAddress = own) ∧
    (packet.body.signal? ≠ none → packet.destinationAddress = peer)

/-- So do the packets that a task sends. -/
def Task.Between (own peer : Address) : Task → Prop
  | .send packet => Packet.Between own peer packet
  | .event _ => True
  | .rejectPeripheralConnection bdAddr _ => bdAddr = peer

/-- The connections are with the peer, and a page that waits for the host is of the peer. -/
structure Facing (k : Connections) (own peer : Address) : Prop where
  coherent : Coherent k
  links : k.acl.Every fun connection => connection.address = peer ∧ connection.ownAddress = own
  scan : ∀ scan, k.pageScan = some scan → scan.bdAddr = peer

section ends

variable {own peer : Address}

/-- A minor packet may be for anyone. -/
theorem Packet.between_of_minor (h : packet.body.minor = true) :
    Packet.Between own peer packet := by
  constructor
  · intro hno
    rw [h] at hno
    cases hno
  · intro hsome
    exact absurd (Body.signal?_of_minor h) hsome

/-- A packet to the peer. -/
theorem Packet.between_mk (body : Body) : Packet.Between own peer ⟨own, peer, body⟩ :=
  ⟨fun _ => rfl, fun _ => rfl⟩

/-- Minor tasks send what may be for anyone. -/
theorem Minor.between {ts} (h : Minor ts) : ∀ t ∈ ts, t.Between own peer := by
  intro t ht
  have hmin := h t ht
  cases t with
  | send => exact Packet.between_of_minor hmin
  | event => exact trivial
  | rejectPeripheralConnection => cases hmin

/-- A new controller faces its peer. -/
theorem Facing.new (own peer : Address) : Facing (BrEdrController.new own).connections own peer :=
  ⟨Coherent.new own, HashMap.every_empty, nofun⟩

namespace BrEdrController

variable {s s' : BrEdrController} {i : Input} {out : List Output}

/-- A step keeps the address. -/
theorem Effect.address (he : Effect s i s' out) : s'.address = s.address := by
  cases he with
  | quiet hq =>
    obtain ⟨ts, hch, -⟩ := hq
    exact hch.address
  | accepted _ _ _ _ _ _ hch | paged _ _ hch | gaveUp _ _ hch | connected _ _ _ _ _ _ _ hch
  | released _ _ _ _ _ hch | dropped _ _ _ _ _ _ _ hch | switched _ _ _ _ _ _ hch
  | answered _ _ _ _ _ _ hch => exact hch.address
  | _ => rfl

/-- Whatever a step does, the controller goes on to face its peer. -/
theorem Effect.facing (he : Effect s i s' out) (hres : i.action ≠ .command .reset)
    (hpkt : ∀ packet, i.action = .packet packet → Packet.Between peer s.address packet)
    (hf : Facing s.connections s.address peer) : Facing s'.connections s.address peer := by
  have hk := he.coherent hf.coherent
  cases he with
  | quiet hq =>
    obtain ⟨ts, hch, -⟩ := hq
    rw [hch.connections]
    exact hf
  | noTask | sent | reported | refused | collided | rejected | masked => exact hf
  | accepted _ hscan _ _ _ _ hch =>
    rw [hch.connections] at hk ⊢
    exact ⟨hk, hf.links.insert ⟨hf.scan _ hscan, rfl⟩, nofun⟩
  | created | turnedDown => exact ⟨hk, hf.links, hf.scan⟩
  | paged _ _ hch | gaveUp _ _ hch =>
    rw [hch.connections] at hk ⊢
    exact ⟨hk, hf.links, hf.scan⟩
  | scanned hact _ hb =>
    refine ⟨hk, hf.links, ?_⟩
    rintro scan hscan
    cases hscan
    exact (hpkt _ hact).1 (by rw [hb]; rfl)
  | connected hact _ hb _ _ _ _ hch =>
    rw [hch.connections] at hk ⊢
    have hsrc := (hpkt _ hact).1 (by rw [hb]; rfl)
    exact ⟨hk, hf.links.insert ⟨hsrc, rfl⟩, hf.scan⟩
  | released _ _ _ _ _ hch | dropped _ _ _ _ _ _ _ hch =>
    rw [hch.connections] at hk ⊢
    exact ⟨hk, hf.links.erase, hf.scan⟩
  | switched _ _ _ _ _ _ hch | answered _ _ _ _ _ _ hch =>
    rw [hch.connections] at hk ⊢
    exact ⟨hk, hf.links.modify fun _ h => h, hf.scan⟩
  | policy => exact ⟨hk, hf.links.modify fun _ h => h, hf.scan⟩
  | reset hact => exact absurd hact hres

/-- What is scheduled and sent goes from the controller to its peer. -/
theorem Effect.between (he : Effect s i s' out) (hres : i.action ≠ .command .reset)
    (hpkt : ∀ packet, i.action = .packet packet → Packet.Between peer s.address packet)
    (hf : Facing s.connections s.address peer) (hs : ∀ t ∈ s.tasks, t.Between s.address peer) :
    (∀ t ∈ s'.tasks, t.Between s.address peer) ∧
      ∀ packet ∈ out.filterMap Output.packet?, Packet.Between s.address peer packet := by
  have hn : ∀ {out : List Output}, out.filterMap Output.packet? = [] →
      ∀ packet ∈ out.filterMap Output.packet?, Packet.Between s.address peer packet := by
    intro out hout packet hmem
    rw [hout] at hmem
    exact absurd hmem List.not_mem_nil
  have hsend : ∀ body, ∀ t ∈ [Task.send ⟨s.address, peer, body⟩], t.Between s.address peer := by
    intro body
    exact List.forall_mem_singleton.mpr (Packet.between_mk body)
  -- the tasks that are scheduled come after those that wait
  have hch : ∀ {k ts}, Change s s' k ts → (∀ t ∈ ts, t.Between s.address peer) →
      ∀ t ∈ s'.tasks, t.Between s.address peer := by
    intro k ts hchange hts
    rw [hchange.tasks]
    exact List.forall_mem_append.mpr ⟨hs, hts⟩
  have hrs : ∀ {t ts}, s.tasks = t :: ts → t.Between s.address peer ∧ ∀ t ∈ ts,
      t.Between s.address peer := by
    intro t ts htasks
    rw [htasks] at hs
    exact List.forall_mem_cons.mp hs
  cases he with
  | quiet hq hout =>
    obtain ⟨ts, hchange, hmin⟩ := hq
    exact ⟨hch hchange hmin.between, hn hout.packets⟩
  | noTask | collided | created | scanned | policy => exact ⟨hs, hn rfl⟩
  | turnedDown _ _ _ _ _ hout => exact ⟨hs, hn hout.packets⟩
  | sent _ htasks =>
    obtain ⟨h1, hts⟩ := hrs htasks
    exact ⟨hts, List.forall_mem_singleton.mpr h1⟩
  | reported _ htasks => exact ⟨(hrs htasks).2, hn rfl⟩
  | refused _ htasks hout =>
    obtain ⟨h1, hts⟩ := hrs htasks
    obtain rfl : _ = peer := h1
    exact ⟨List.forall_mem_append.mpr ⟨hts, hsend _⟩, hn hout.packets⟩
  | rejected _ hscan =>
    refine ⟨List.forall_mem_append.mpr ⟨hs, List.forall_mem_singleton.mpr ?_⟩, hn rfl⟩
    exact hf.scan _ hscan
  | accepted _ hscan _ _ _ hmin hchange =>
    obtain rfl := hf.scan _ hscan
    exact ⟨hch hchange (List.forall_mem_append.mpr ⟨hmin.between, hsend _⟩), hn rfl⟩
  | paged _ _ hchange =>
    refine ⟨hch hchange (List.forall_mem_singleton.mpr ⟨fun _ => rfl, ?_⟩), hn rfl⟩
    intro hsignal
    exact absurd rfl hsignal
  | gaveUp _ _ hchange hmin hout =>
    exact ⟨hch hchange hmin.between, hn hout.packets⟩
  | masked hact hb =>
    obtain rfl := (hpkt _ hact).1 (by rw [hb]; rfl)
    exact ⟨List.forall_mem_append.mpr ⟨hs, hsend _⟩, hn rfl⟩
  | connected _ _ _ _ _ _ _ hchange hout => exact ⟨hch hchange nofun, hn hout.packets⟩
  | released _ hacl _ hmin hmin' hchange hout =>
    obtain ⟨hp, hown⟩ := hf.links _ _ hacl
    rw [hp, hown] at hchange
    refine ⟨hch hchange (List.forall_mem_append.mpr ⟨hmin.between, ?_⟩), hn hout.packets⟩
    exact List.forall_mem_cons.mpr ⟨Packet.between_mk _, hmin'.between⟩
  | dropped _ _ _ _ _ _ hmin hchange | answered _ _ _ _ _ hmin hchange =>
    exact ⟨hch hchange hmin.between, hn rfl⟩
  | switched _ _ _ hacl hsrc hmin hchange =>
    obtain ⟨hp, -⟩ := hf.links _ _ hacl
    rw [← hsrc, hp] at hchange
    exact ⟨hch hchange (List.forall_mem_cons.mpr ⟨Packet.between_mk _, hmin.between⟩), hn rfl⟩
  | reset hact => exact absurd hact hres

end BrEdrController

/-! ## What a step is for the connection -/

section party

variable {k k' : Connections} {c : AclConnection} {page : PageState}

/-- A side with a connection. -/
theorem Connections.party_linked (h : k.link peer = some c) : k.party peer = .linked c.role := by
  unfold party
  rw [h]

/-- A side that pages. -/
theorem Connections.party_paging (hl : k.link peer = none) (hpage : k.pageFor peer = some page) :
    k.party peer = .paging page.allowRoleSwitch := by
  unfold party
  rw [hl, hpage]

/-- A side with neither. -/
theorem Connections.party_apart (hl : k.link peer = none) (hpage : k.pageFor peer = none) :
    k.party peer = .apart := by
  unfold party
  rw [hl, hpage]

/-- A new controller is apart. -/
theorem party_new (own peer : Address) :
    (BrEdrController.new own).connections.party peer = .apart :=
  Connections.party_apart
    (HashMap.findBy_empty : (∅ : HashMap UInt16 AclConnection).findBy _ _ = none) rfl

/-- What a side is depends on the connection and the page only. -/
theorem Connections.party_congr (hl : k'.link peer = k.link peer)
    (hpage : k'.pageFor peer = k.pageFor peer) : k'.party peer = k.party peer := by
  unfold party
  rw [hl, hpage]

/-- The peer is linked exactly when there is a connection with it. -/
theorem Connections.role?_party : (k.party peer).role? = (k.link peer).map AclConnection.role := by
  unfold party
  cases k.link peer with
  | some => rfl
  | none => cases k.pageFor peer <;> rfl

/-- The page is for the peer. -/
theorem Connections.pageFor_of_eq (hpage : k.page = some page) (hp : page.bdAddr = peer) :
    k.pageFor peer = some page := by
  unfold pageFor
  rw [hpage, Option.filter_some, if_pos (decide_eq_true hp)]

/-- The page is for another. -/
theorem Connections.pageFor_of_ne (hpage : k.page = some page) (hp : page.bdAddr ≠ peer) :
    k.pageFor peer = none := by
  unfold pageFor
  rw [hpage, Option.filter_some, if_neg (by simpa using hp)]

/-- There is no page. -/
theorem Connections.pageFor_of_none (hpage : k.page = none) : k.pageFor peer = none := by
  unfold pageFor
  rw [hpage]
  rfl

/-- No peer with a connection is paged. -/
theorem Coherent.pageFor_of_link (hk : Coherent k) (h : k.link peer = some c) :
    k.pageFor peer = none := by
  refine Option.filter_eq_none_iff.mpr fun page hpage hp => ?_
  have hn := hk.paging page hpage
  rw [of_decide_eq_true hp, h] at hn
  cases hn

/-- No peer that is paged has a connection. -/
theorem Coherent.link_of_pageFor (hk : Coherent k) (h : k.pageFor peer = some page) :
    k.link peer = none := by
  obtain ⟨hpage, hp⟩ := Option.filter_eq_some_iff.mp h
  exact of_decide_eq_true hp ▸ hk.paging page hpage

/-- The connection with the peer is made. -/
theorem Coherent.party_establish (hk : Coherent k) (hfree : k.acl[c.handle]? = none)
    (hl : k.link c.address = none) (lm : LinkManager) (hp : c.address = peer) :
    (k.establish c lm).party peer = .linked c.role := by
  have hnew := hk.link_establish hfree hl lm peer
  rw [if_pos hp] at hnew
  exact Connections.party_linked hnew

/-- The page is sent again. -/
theorem Connections.party_repage (hpage : k.page = some page) (next : Nat) :
    ({ k with page := some { page with nextPageEvent := next } } : Connections).party peer =
      k.party peer := by
  unfold party pageFor
  rw [hpage, Option.filter_some, Option.filter_some]
  change (match k.link peer with | some _ => _ | none => _) = _
  cases k.link peer with
  | some => rfl
  | none => by_cases hp : page.bdAddr = peer <;> simp [hp]

/-- The connection with the peer is closed. -/
theorem Coherent.party_release {handle} (hk : Coherent k) (hacl : k.acl[handle]? = some c)
    (lm : LinkManager) (hp : c.address = peer) : (k.release handle lm).party peer = .apart := by
  have hgone : (k.release handle lm).link peer = _ := hk.link_release hacl peer
  rw [if_pos hp] at hgone
  exact Connections.party_apart hgone (hk.pageFor_of_link (hp ▸ hk.link_of_mem hacl))

/-- The connection with the peer gets another role. -/
theorem Coherent.party_modify {handle f}
    (hf : ∀ x, (f x).address = x.address) (hk : Coherent k) (hacl : k.acl[handle]? = some c)
    (hp : c.address = peer) :
    ({ k with acl := k.acl.modify handle f } : Connections).party peer = .linked (f c).role := by
  have hnew := hk.link_modify hacl hf peer
  rw [if_pos hp] at hnew
  exact Connections.party_linked hnew

/-- The one connection there can be. -/
theorem Facing.linked {handle : UInt16} (hf : Facing k own peer) (hacl : k.acl[handle]? = some c) :
    c.address = peer ∧ k.party peer = .linked c.role := by
  obtain ⟨hp, -⟩ := hf.links _ _ hacl
  exact ⟨hp, Connections.party_linked (hp ▸ hf.coherent.link_of_mem hacl)⟩

/-- What an end does about the connection, and what it tells the other. -/
inductive Does (s : BrEdrController) (i : Input) (peer : Address) : Party → List Signal → Prop
  | idle : Does s i peer (s.connections.party peer) []
  | page (allow : Bool) : s.connections.party peer = .apart → Does s i peer (.paging allow) []
  | giveUp {page : PageState} : GivesUp i page → s.page = some page → page.bdAddr = peer →
      s.connections.link peer = none → Does s i peer .apart []
  | accept {scan : PageScanState} {try_ : Bool} :
      i.action = .command (.acceptConnectionRequest scan.bdAddr try_) → s.pageScan = some scan →
      scan.bdAddr = peer → s.connections.link peer = none →
      Does s i peer (.linked (BrEdrController.acceptorRole scan try_)) [.response try_]
  | refuse : Does s i peer (s.connections.party peer) [.reject]
  | release {role : Role} : s.connections.party peer = .linked role → Does s i peer .apart [.close]
  | switch {role : Role} : s.connections.party peer = .linked role →
      Does s i peer (.linked (otherRole role)) [.switched]

/-- What the connection is after a step, and the signals that are scheduled or sent. -/
structure Outcome (s s' : BrEdrController) (out : List Output) (peer : Address) (v : Party)
    (ms : List Signal) : Prop where
  party : s'.connections.party peer = v
  signals : signalsOf (out.filterMap Output.packet? ++ packetsOf s'.tasks) =
    signalsOf (packetsOf s.tasks) ++ ms

variable {s s' : BrEdrController} {out : List Output} {ts : List Task} {v : Party}
  {ms : List Signal}

/-- The outcome of a change. -/
theorem Outcome.of_change (hch : BrEdrController.Change s s' k ts)
    (hout : out.filterMap Output.packet? = []) (hv : k.party peer = v)
    (hms : signalsOf (packetsOf ts) = ms) : Outcome s s' out peer v ms := by
  refine ⟨by rw [hch.connections, hv], ?_⟩
  rw [hout, List.nil_append, hch.tasks, packetsOf_append, signalsOf_append, hms]

/-- The outcome of a step that schedules nothing. -/
theorem Outcome.of_tasks (hts : s'.tasks = s.tasks) (hout : out.filterMap Output.packet? = [])
    (hv : s'.connections.party peer = v) : Outcome s s' out peer v [] := by
  refine ⟨hv, ?_⟩
  rw [hout, hts, List.nil_append, List.append_nil]

/-- The outcome of running a task. -/
theorem Outcome.of_run {t} (hts : s.tasks = t :: ts)
    (hsig : signalsOf (out.filterMap Output.packet? ++ packetsOf s'.tasks) =
      signalsOf (packetsOf (t :: ts)) ++ ms)
    (hv : s'.connections = s.connections) : Outcome s s' out peer (s.connections.party peer) ms :=
  ⟨by rw [hv], by rw [hts, hsig]⟩

end party

namespace BrEdrController

variable {s s' : BrEdrController} {i : Input} {out : List Output} {page : PageState}

/-- A step that no signal comes with is one of these. -/
theorem Effect.does (he : Effect s i s' out) (hres : i.action ≠ .command .reset)
    (hpkt : ∀ packet, i.action = .packet packet → packet.body.signal? = none)
    (hf : Facing s.connections s.address peer) :
    ∃ v ms, Does s i peer v ms ∧ Outcome s s' out peer v ms := by
  have hk := hf.coherent
  have hsignal : ∀ {packet m}, i.action = .packet packet →
      packet.body.signal? = some m → False := by
    intro packet m hact hsome
    rw [hpkt packet hact] at hsome
    cases hsome
  cases he with
  | quiet hq hout =>
    obtain ⟨ts, hch, hmin⟩ := hq
    exact ⟨_, _, .idle, .of_change hch hout.packets rfl hmin.signals⟩
  | noTask | collided | scanned => exact ⟨_, _, .idle, .of_tasks rfl rfl rfl⟩
  | sent _ hts | reported _ hts => exact ⟨_, _, .idle, .of_run hts (List.append_nil _).symm rfl⟩
  | refused _ hts hout =>
    refine ⟨_, _, .refuse, .of_run hts ?_ rfl⟩
    rw [hout.packets, packetsOf_append, List.nil_append, signalsOf_append]
    rfl
  | rejected => exact ⟨_, _, .idle, .of_change ⟨rfl, rfl, rfl⟩ rfl rfl rfl⟩
  | masked => exact ⟨_, _, .refuse, .of_change ⟨rfl, rfl, rfl⟩ rfl rfl rfl⟩
  | @accepted _ scan try_ handle lm _ hact hscan hl hfree _ hmin hch =>
    have hp := hf.scan _ hscan
    refine ⟨_, _, .accept hact hscan hp (hp ▸ hl), .of_change hch rfl ?_ ?_⟩
    · exact hk.party_establish (c := s.newConnection handle scan.bdAddr (acceptorRole scan try_))
        hfree hl lm hp
    · rw [packetsOf_append, signalsOf_append, hmin.signals]
      rfl
  | @created page _ hpage hl =>
    have hn : s.connections.pageFor peer = none := Connections.pageFor_of_none hpage
    by_cases hp : page.bdAddr = peer
    · have hl : s.connections.link peer = none := hp ▸ hl
      refine ⟨_, _, .page page.allowRoleSwitch (Connections.party_apart hl hn),
        .of_tasks rfl rfl ?_⟩
      exact Connections.party_paging hl (Connections.pageFor_of_eq rfl hp)
    · refine ⟨_, _, .idle, .of_tasks rfl rfl (Connections.party_congr rfl ?_)⟩
      rw [hn]
      exact Connections.pageFor_of_ne rfl hp
  | paged _ hpage hch =>
    exact ⟨_, _, .idle, .of_change hch rfl (Connections.party_repage hpage _) rfl⟩
  | @gaveUp _ page _ _ hgives hpage hch hmin hout =>
    have hn : ({ s.connections with page := none } : Connections).pageFor peer = none :=
      Connections.pageFor_of_none rfl
    by_cases hp : page.bdAddr = peer
    · have hl := link_of_page hk hpage hp
      exact ⟨_, _, .giveUp hgives hpage hp hl, .of_change hch hout.packets
        (Connections.party_apart hl hn) hmin.signals⟩
    · refine ⟨_, _, .idle, .of_change hch hout.packets ?_ hmin.signals⟩
      have hpre := Connections.pageFor_of_ne (k := s.connections) hpage hp
      exact Connections.party_congr rfl (hn.trans hpre.symm)
  | released _ hacl _ hmin hmin' hch hout =>
    obtain ⟨hp, hlkd⟩ := hf.linked hacl
    refine ⟨_, _, .release hlkd, .of_change hch hout.packets (hk.party_release hacl _ hp) ?_⟩
    rw [packetsOf_append, signalsOf_append, hmin.signals]
    change Signal.close :: signalsOf (packetsOf _) = _
    rw [hmin'.signals]
  | switched _ _ _ hacl _ hmin hch =>
    obtain ⟨hp, hlkd⟩ := hf.linked hacl
    refine ⟨_, _, .switch hlkd, .of_change hch rfl (hk.party_modify (fun _ => rfl) hacl hp) ?_⟩
    change Signal.switched :: signalsOf (packetsOf _) = _
    rw [hmin.signals]
  | @policy _ settings c _ hacl =>
    obtain ⟨hp, hlkd⟩ := hf.linked hacl
    refine ⟨_, _, .idle, .of_tasks rfl rfl ?_⟩
    rw [hlkd]
    exact hk.party_modify (f := fun c => { c with linkPolicySettings := settings })
      (fun _ => rfl) hacl hp
  | @answered _ _ _ _ _ status hact _ hb hacl _ hmin hch =>
    -- the peer has refused to switch
    have hst : status ≠ ErrorCode.success.toUInt8 := by
      rintro rfl
      exact hsignal hact (by rw [hb]; rfl)
    obtain ⟨hp, hlkd⟩ := hf.linked hacl
    rw [if_pos hst] at hch
    refine ⟨_, _, .idle, .of_change hch rfl ?_ hmin.signals⟩
    rw [hlkd]
    exact hk.party_modify (fun _ => rfl) hacl hp
  | turnedDown hact _ hb | connected hact _ hb | dropped hact _ hb =>
    exact (hsignal hact (by rw [hb]; rfl)).elim
  | reset hact => exact absurd hact hres

/-- A signal that finds nothing to change. -/
theorem arrive_of_idle {m} (hidle : Idle s (.packet packet))
    (hrch : Reaches s.address packet) (hm : packet.body.signal? = some m)
    (hsrc : packet.sourceAddress = peer) :
    (s.connections.party peer).arrive m = s.connections.party peer := by
  have hnot := hidle hrch
  rw [hsrc] at hnot
  generalize packet.body = body at hm hnot
  cases body with
  | pageResponse | pageReject =>
    cases hm
    unfold Connections.party
    rw [hnot]
    cases s.connections.link peer <;> rfl
  | disconnect =>
    cases hm
    unfold Connections.party
    rw [hnot]
    cases s.connections.pageFor peer <;> rfl
  | roleSwitchResponse =>
    obtain ⟨-, rfl⟩ := Body.signal?_roleSwitchResponse hm
    unfold Connections.party
    rw [hnot]
    cases s.connections.pageFor peer <;> rfl
  | _ => cases hm

/-- A signal of the peer does what it does to the connection, and nothing else. -/
theorem Effect.arrives {m : Signal} (he : Effect s i s' out)
    (hact : i.action = .packet packet) (hm : packet.body.signal? = some m)
    (hp : Packet.Between peer s.address packet) (hf : Facing s.connections s.address peer) :
    Outcome s s' out peer ((s.connections.party peer).arrive m) [] := by
  have hk := hf.coherent
  have hsrc : packet.sourceAddress = peer := by
    refine hp.1 (Bool.eq_false_iff.mpr fun hmin => ?_)
    rw [Body.signal?_of_minor hmin] at hm
    cases hm
  have hdestination : packet.destinationAddress = s.address := hp.2 (by rw [hm]; nofun)
  have hsame : ∀ {packet'}, i.action = .packet packet' → packet' = packet := by
    intro packet' h
    cases hact.symm.trans h
    rfl
  cases he with
  | quiet hq hout hidle =>
    obtain ⟨ts, hch, hmin⟩ := hq
    rw [hact] at hidle
    refine .of_change hch hout.packets ?_ hmin.signals
    exact (arrive_of_idle hidle (.inr hdestination) hm hsrc).symm
  | turnedDown h _ hb hpage hpr hout =>
    cases hsame h
    rw [hb] at hm
    cases hm
    have hpr := hpr.trans hsrc
    have hl := link_of_page hk hpage hpr
    refine .of_tasks rfl hout.packets ?_
    rw [Connections.party_paging hl (Connections.pageFor_of_eq hpage hpr)]
    exact Connections.party_apart hl (Connections.pageFor_of_none rfl)
  | @connected _ _ page try_ handle lm _ h _ hb hpage hpr hfree _ hch hout =>
    cases hsame h
    rw [hb] at hm
    cases hm
    have hpr := hpr.trans hsrc
    have hl := link_of_page hk hpage hpr
    rw [hsrc] at hch
    refine .of_change hch hout.packets ?_ rfl
    rw [Connections.party_paging hl (Connections.pageFor_of_eq hpage hpr)]
    exact hk.party_establish (c := s.newConnection handle peer (initiatorRole page try_))
      hfree hl lm rfl
  | dropped h _ hb hacl _ _ hmin hch =>
    cases hsame h
    rw [hb] at hm
    cases hm
    obtain ⟨hpr, hlkd⟩ := hf.linked hacl
    refine .of_change hch rfl ?_ hmin.signals
    rw [hlkd]
    exact hk.party_release hacl _ hpr
  | answered h _ hb hacl _ hmin hch =>
    cases hsame h
    rw [hb] at hm
    obtain ⟨hst, rfl⟩ := Body.signal?_roleSwitchResponse hm
    obtain ⟨hpr, hlkd⟩ := hf.linked hacl
    rw [if_neg (not_not_intro hst)] at hch
    refine .of_change hch rfl ?_ hmin.signals
    rw [hlkd]
    exact hk.party_modify (fun _ => rfl) hacl hpr
  | scanned h _ hb | masked h hb | switched h _ hb =>
    cases hsame h
    rw [hb] at hm
    cases hm
  | noTask h | sent h | reported h | refused h | collided h | accepted h | rejected h | created h
  | paged h | policy h | reset h => cases hact.symm.trans h
  | gaveUp h =>
    rcases h with h | ⟨h, -⟩
    · cases hact.symm.trans h
    · cases hact.symm.trans h
  | released h =>
    rcases h with ⟨reason, h⟩ | h
    · cases hact.symm.trans h
    · cases hact.symm.trans h

end BrEdrController

end ends

/-! ## What a step is for the pair -/

/-- The action is of the host or of a timer, and does not reset the controller. -/
def Action.isLocal : Action → Bool
  | .packet _ | .command .reset => false
  | _ => true

namespace Pair

open BrEdrController

/-- A page is not given up while an answer to it is on its way. -/
def KeepsPage (s : Pair) (x : Side) (i : Input) : Prop :=
  ∀ page ∈ (s.node x).connections.pageFor (s.peer x), GivesUp i page →
    ∀ m ∈ s.signals x, m.isResponse = false

/-- A page is accepted while it goes on: the other side pages, no answer is on its way to it, and no
end of an earlier connection is on its way here. -/
def AnswersPage (s : Pair) (x : Side) (i : Input) : Prop :=
  (s.node x).establishes i.action = true →
    ((s.node x.other).connections.pageFor (s.peer x.other)).isSome = true ∧
    (∀ m ∈ s.signals x.other, m.isResponse = false) ∧ .reject ∉ s.signals x.other ∧
    .close ∉ s.signals x

/-- The inputs that end or answer a page only while it is due. -/
def Prompt (s : Pair) : Duplex.Input Input Env → Prop
  | .act x i => i.action.isLocal = true ∧ s.KeepsPage x i ∧ s.AnswersPage x i
  | .deliver _ _ => True

/-- The roles that the two ends of an accepted page settle to fit. -/
def Fitting (R : Role → Role → Prop) (s : Pair) : Duplex.Input Input Env → Prop
  | .act x i => ∀ scan try_ page, i.action = .command (.acceptConnectionRequest scan.bdAddr try_) →
      (s.node x).pageScan = some scan → (s.node x).establishes i.action = true →
      .close ∉ s.signals x → (s.node x.other).connections.pageFor (s.peer x.other) = some page →
      ∀ r, (s.signals x).foldl Party.roleAfter (some (acceptorRole scan try_)) = some r →
        R r (pagerRole page.allowRoleSwitch try_)
  | .deliver _ _ => True

/-- Each side faces the other, and so do the packets between them. -/
structure Faced (s : Pair) : Prop where
  facing : ∀ x, Facing (s.node x).connections (s.node x).address (s.peer x)
  tasks : ∀ x, ∀ t ∈ (s.node x).tasks, t.Between (s.node x).address (s.peer x)
  inbox : ∀ x, ∀ packet ∈ s.inbox x, Packet.Between (s.peer x) (s.node x).address packet

variable {s s' : Pair} {x : Side} {v : BrEdrController} {ps q : List Packet} {ms : List Signal}

/-- The two face each other at the start. -/
theorem Faced.start (own : Side → Address) : Faced (start own) :=
  ⟨fun _ => Facing.new _ _, fun _ _ hmem => absurd hmem List.not_mem_nil,
    fun _ _ hmem => absurd hmem List.not_mem_nil⟩

/-- Taking a packet leaves the addresses. -/
theorem peer_take (y : Side) : peer (s.take x q) y = s.peer y := rfl

/-- They go on facing each other when a packet is taken. -/
theorem Faced.take (hs : Faced s) (hq : ∀ packet ∈ q, packet ∈ s.inbox x) : Faced (s.take x q) := by
  refine ⟨hs.facing, hs.tasks, (Side.forall_iff x).mpr ⟨?_, ?_⟩⟩
  · rw [Duplex.State.take_inbox_self]
    exact fun packet hmem => hs.inbox x packet (hq packet hmem)
  · rw [Duplex.State.take_inbox_other]
    exact hs.inbox x.other

/-- They go on facing each other when one takes a turn. -/
theorem Faced.act (hs : Faced s) (haddr : v.address = (s.node x).address)
    (hfacing : Facing v.connections (s.node x).address (s.peer x))
    (hts : ∀ t ∈ v.tasks, t.Between (s.node x).address (s.peer x))
    (hps : ∀ packet ∈ ps, Packet.Between (s.node x).address (s.peer x) packet) :
    Faced (s.act x v ps) := by
  have hoth : peer (s.act x v ps) x.other = (s.node x).address := by simp [peer, haddr]
  have hself : peer (s.act x v ps) x = s.peer x := by simp [peer]
  have hp : s.peer x.other = (s.node x).address := by simp [peer]
  constructor
  · refine (Side.forall_iff x).mpr ⟨?_, ?_⟩
    · rwa [hself, Duplex.State.act_node_self, haddr]
    · rw [hoth, Duplex.State.act_node_other, ← hp]
      exact hs.facing x.other
  · refine (Side.forall_iff x).mpr ⟨?_, ?_⟩
    · rwa [hself, Duplex.State.act_node_self, haddr]
    · rw [hoth, Duplex.State.act_node_other, ← hp]
      exact hs.tasks x.other
  · refine (Side.forall_iff x).mpr ⟨?_, ?_⟩
    · rw [hself, Duplex.State.act_node_self, haddr, Duplex.State.act_inbox_self]
      exact hs.inbox x
    · rw [hoth, Duplex.State.act_node_other, Duplex.State.act_inbox_other]
      refine List.forall_mem_append.mpr ⟨?_, hps⟩
      rw [← hp]
      exact hs.inbox x.other

/-- What a side does, seen from the connection. -/
theorem view_act (haddr : v.address = (s.node x).address)
    (hsig : signalsOf (ps ++ packetsOf v.tasks) = signalsOf (packetsOf (s.node x).tasks) ++ ms) :
    view (s.act x v ps) = s.view.act x (v.connections.party (s.peer x)) ms := by
  refine Duplex.State.eq_of_sides x ?_ ?_ ?_ ?_
  · simp [view, peer]
  · simp [view, peer, haddr]
  · simp [view, signals, inFlight]
  · rw [Duplex.State.act_inbox_other]
    change signalsOf
      ((s.act x v ps).inbox x.other ++ packetsOf ((s.act x v ps).node x.other.other).tasks) =
      signalsOf (s.inbox x.other ++ packetsOf (s.node x.other.other).tasks) ++ ms
    rw [Side.other_other, Duplex.State.act_node_self, Duplex.State.act_inbox_other,
      List.append_assoc, signalsOf_append, hsig, signalsOf_append, List.append_assoc]

/-- A packet leaves the channel. -/
theorem view_take :
    view (s.take x q) = s.view.take x (signalsOf (q ++ packetsOf (s.node x.other).tasks)) := by
  refine Duplex.State.eq_of_sides x rfl rfl ?_ ?_
  · simp [view, signals, inFlight]
  · simp [view, signals, inFlight]

/-- The step of a side keeps what each faces. -/
theorem Faced.effect {i out} (hs : Faced s) (he : Effect (s.node x) i v out)
    (hres : i.action ≠ .command .reset) (hpkt : ∀ packet, i.action = .packet packet →
      Packet.Between (s.peer x) (s.node x).address packet) :
    Faced (s.act x v (out.filterMap Output.packet?)) := by
  obtain ⟨hts, hps⟩ := he.between hres hpkt (hs.facing x) (hs.tasks x)
  exact hs.act he.address (he.facing hres hpkt (hs.facing x)) hts hps

/-- The inputs of the hosts and the timers, and the deliveries. -/
def Unreset : Duplex.Input Input Env → Prop
  | .act _ i => i.action.isLocal = true
  | .deliver _ _ => True

instance Unreset.decidable (i : Duplex.Input Input Env) : Decidable (Unreset i) :=
  match i with
  | .act _ i => inferInstanceAs (Decidable (i.action.isLocal = true))
  | .deliver _ _ => isTrue trivial

variable {i : Duplex.Input Input Env}

/-- A prompt input is no reset. -/
theorem Prompt.unreset (hi : Prompt s i) : Unreset i := by
  cases i with
  | act => exact hi.1
  | deliver => exact trivial

/-- What a side does on its own is no reset. -/
theorem isLocal_ne_reset {i : Input} (h : i.action.isLocal = true) :
    i.action ≠ .command .reset := by
  intro hact
  rw [hact] at h
  cases h

/-- What a side does on its own is no packet. -/
theorem isLocal_ne_packet {i : Input} (h : i.action.isLocal = true) (packet : Packet) :
    i.action ≠ .packet packet := by
  intro hact
  rw [hact] at h
  cases h

/-- The packet that is delivered comes from the other side. -/
theorem Faced.delivered (hs : Faced s) (hin : s.inbox x = packet :: q) :
    ∀ packet', Action.packet packet = .packet packet' →
      Packet.Between (s.peer x) (s.node x).address packet' := by
  rintro packet' heq
  cases heq
  exact hs.inbox x packet (hin ▸ List.mem_cons_self ..)

/-- **The sides go on to face each other.** -/
theorem Faced.step {outs : List (Side × Output)} (hs : Faced s)
    (hi : Unreset i) (h : pair.step s i = .ok (s', outs)) : Faced s' := by
  cases Duplex.steps_of_step h with
  | idle => exact hs
  | act hstep =>
    exact hs.effect (effect_of_step hstep) (isLocal_ne_reset hi)
      fun packet hact => absurd hact (isLocal_ne_packet hi packet)
  | @deliver x _ packet q _ _ hin hstep =>
    have hs₁ : Faced (s.take x q) := hs.take fun packet' hmem =>
        hin ▸ List.mem_cons_of_mem packet hmem
    exact hs₁.effect (effect_of_step hstep) nofun (hs.delivered hin)

/-- What a side does is a move, if it ends and answers pages only while they are due. -/
theorem moves_of_does {R i p} (hs : Faced s)
    (hkeep : s.KeepsPage x i) (hans : s.AnswersPage x i) (hfits : Fitting R s (.act x i))
    (hdoes : Does (s.node x) i (s.peer x) p ms) : Moves R s.view (s.view.act x p ms) := by
  cases hdoes with
  | idle =>
    rw [show (s.node x).connections.party (s.peer x) = s.view.node x from rfl,
      Duplex.State.act_idle]
    exact .idle
  | page allow hapart => exact .page allow hapart
  | giveUp hgives hpage hp hl =>
    have hfor := Connections.pageFor_of_eq (k := (s.node x).connections) hpage hp
    exact .giveUp (Connections.party_paging hl hfor) (hkeep _ hfor hgives)
  | @accept scan try_ hact hscan hp hl =>
    have hmakes : (s.node x).establishes i.action = true := by
      rw [hact, establishes_accept, hp, hl]
      simp [Connections.scanFor, connections, hscan, hp]
    obtain ⟨hsome, hn, hreject, hclose⟩ := hans hmakes
    obtain ⟨page, hpage⟩ := Option.isSome_iff_exists.mp hsome
    have hpaging :=
        Connections.party_paging ((hs.facing x.other).coherent.link_of_pageFor hpage) hpage
    refine .accept ?_ hpaging hn hreject hclose ?_
    · change ((s.node x).connections.party (s.peer x)).role? = none
      rw [Connections.role?_party, hl]
      rfl
    · exact hfits scan try_ page hact hscan hmakes hclose hpage
  | refuse => exact .refuse
  | release hlkd => exact .release hlkd
  | switch hlkd => exact .switch hlkd

/-- Only an answer makes a connection. -/
theorem establishes_of_quiet {c : BrEdrController}
    (h : packet.body.signal? = none) : c.establishes (.packet packet) = false := by
  obtain ⟨source, destination, body⟩ := packet
  cases body with
  | pageResponse => cases h
  | _ => rfl

/-- **A step of the pair is a move of the protocol.** -/
theorem moves_of_step {R : Role → Role → Prop}
    {outs : List (Side × Output)} (hs : Faced s) (hi : Prompt s i) (hfits : Fitting R s i)
    (h : pair.step s i = .ok (s', outs)) : Faced s' ∧ Moves R s.view (view s') := by
  refine ⟨hs.step hi.unreset h, ?_⟩
  cases Duplex.steps_of_step h with
  | idle => exact .idle
  | @act x _ _ _ hstep =>
    obtain ⟨hlocal, hkeep, hans⟩ := hi
    have he := effect_of_step hstep
    obtain ⟨p, ms, hdoes, hout⟩ := he.does (isLocal_ne_reset hlocal)
      (fun packet hact => absurd hact (isLocal_ne_packet hlocal packet)) (hs.facing x)
    rw [view_act he.address hout.signals, hout.party]
    exact moves_of_does hs hkeep hans hfits hdoes
  | @deliver x _ packet q _ _ hin hstep =>
    have hp := hs.delivered hin packet rfl
    have he := effect_of_step hstep
    have hsig : s.signals x = signalsOf ((packet :: q) ++ packetsOf (s.node x.other).tasks) := by
      rw [← hin]
      rfl
    cases hm : packet.body.signal? with
    | none =>
      have hview : view (s.take x q) = s.view := by
        rw [List.cons_append, signalsOf_cons_none hm] at hsig
        rw [view_take, ← hsig]
        exact Duplex.State.take_self ..
      have hq : ∀ packet', Action.packet packet = .packet packet' →
          packet'.body.signal? = none := by
        rintro packet' heq
        cases heq
        exact hm
      obtain ⟨p, ms, hdoes, hout⟩ := he.does nofun hq (hs.facing x)
      rw [view_act (s := s.take x q) he.address hout.signals, peer_take, hout.party, hview]
      refine moves_of_does hs ?_ ?_ ?_ hdoes
      · rintro page - (hgives | ⟨hgives, -⟩)
        · cases hgives
        · cases hgives
      · intro hmakes
        rw [establishes_of_quiet hm] at hmakes
        cases hmakes
      · intro scan try_ page hact
        cases hact
    | some m =>
      have hout := he.arrives rfl hm hp (hs.facing x)
      rw [view_act (s := s.take x q) he.address hout.signals, peer_take, hout.party, view_take]
      refine Moves.arrive (m := m) ?_
      rw [List.cons_append, signalsOf_cons_some hm] at hsig
      exact hsig

end Pair

end RootCanal.BrEdr
