import RootCanal.BrEdr.ScoHandlers

/-!
# What a step of the BR/EDR controller can do

Every handler is inverted once here; no later module unfolds one.

* `Connections` is the part of the state that the connections are made of, and `Change` says what a
  step makes of it and which tasks it schedules.
* `Effect` lists the outcomes of a step, each with the conditions under which it happens.
  **`effect_of_step`: whatever a step returns is one of them.**

The synchronous connections and the settings of the host leave the connections alone: what they do
is `Effect.quiet`.
-/

namespace RootCanal.BrEdr

open Lib RootCanal.Hci

/-! ## The connections -/

/-- The tables of a controller that its ACL connections are made of. -/
structure Connections where
  acl : HashMap UInt16 AclConnection
  page : Option PageState
  pageScan : Option PageScanState
  lm : LinkManager

/-- The ACL connection with a peer. -/
def Connections.link (k : Connections) (peer : Address) : Option AclConnection :=
  k.acl.findBy AclConnection.address peer

/-- The page of a peer. -/
def Connections.pageFor (k : Connections) (peer : Address) : Option PageState :=
  k.page.filter fun page => page.bdAddr = peer

/-- The page of a peer that waits for an answer of the host. -/
def Connections.scanFor (k : Connections) (peer : Address) : Option PageScanState :=
  k.pageScan.filter fun scan => scan.bdAddr = peer

namespace BrEdrController

/-- The part of the controller that is about ACL connections. -/
def connections (s : BrEdrController) : Connections where
  acl := s.aclConnections
  page := s.page
  pageScan := s.pageScan
  lm := s.lm

/-- A step leaves the connections `k`, and schedules `ts`. -/
structure Change (s s' : BrEdrController) (k : Connections) (ts : List Task) : Prop where
  address : s'.address = s.address
  connections : s'.connections = k
  tasks : s'.tasks = s.tasks ++ ts

variable {s s' s'' : BrEdrController} {env : Env} {k k' : Connections} {ts ts' : List Task}

theorem Change.refl (s : BrEdrController) : Change s s s.connections [] :=
  ⟨rfl, rfl, (List.append_nil _).symm⟩

/-- Two changes make one, with the tasks of both. -/
theorem Change.trans (h : Change s s' k ts) (h' : Change s' s'' k' ts') :
    Change s s'' k' (ts ++ ts') :=
  ⟨h'.address.trans h.address, h'.connections, by rw [h'.tasks, h.tasks, List.append_assoc]⟩

end BrEdrController

/-! ## What does not concern the connections -/

/-- The packet concerns neither the making nor the end of a connection, nor its roles. -/
def Body.minor : Body → Bool
  | .roleSwitchRequest | .scoConnectionRequest _ _ | .scoConnectionResponse _ _
  | .scoDisconnect _ | .pingRequest | .pingResponse => true
  | .roleSwitchResponse status => status ≠ ErrorCode.success.toUInt8
  | .page _ _ | .pageResponse _ | .pageReject _ | .disconnect _ => false

/-- The event reports a page to the host. -/
def Event.pageRequest? : Event → Option Address
  | .connectionRequest bdAddr _ .acl => some bdAddr
  | _ => none

/-- The task neither sends a packet about an ACL connection nor reports a page. -/
def Task.minor : Task → Bool
  | .send packet => packet.body.minor
  | .event e => e.pageRequest?.isNone
  | .rejectPeripheralConnection _ _ => false

/-- An event that asks for no connection is minor. -/
theorem Task.minor_event {e} (h : e.pageRequest? = none) : (Task.event e).minor = true :=
  Option.isNone_iff_eq_none.mpr h

/-- The events of synchronous connections ask for none. -/
theorem Event.pageRequest?_of_synchronous {e : Event} (h : e.synchronous) :
    e.pageRequest? = none := by
  unfold Event.pageRequest?
  split
  · cases h
  · rfl

/-- The tasks of synchronous connections are minor. -/
theorem Task.minor_of_synchronous {t : Task} (h : t.synchronous) : t.minor = true := by
  unfold Task.synchronous at h
  split at h
  · rfl
  · rfl
  · rfl
  · exact Task.minor_event (Event.pageRequest?_of_synchronous h)
  · cases h

/-- The page an output reports to the host. -/
def Output.pageRequest? : Output → Option Address
  | .event e => e.pageRequest?
  | _ => none

/-- The output is neither a packet nor the report of a page. -/
def Output.minor : Output → Bool
  | .status _ => true
  | .event e => e.pageRequest?.isNone
  | .remote _ => false

/-- Tasks and outputs that do not concern the connections. -/
def Minor (ts : List Task) : Prop := ∀ t ∈ ts, t.minor = true

/-- No output is a packet, and none asks the host for a connection. -/
def Unreported (out : List Output) : Prop := ∀ o ∈ out, o.minor = true

theorem minor_nil : Minor [] := nofun

theorem minor_cons {t ts} (ht : t.minor = true) (hts : Minor ts) : Minor (t :: ts) :=
  List.forall_mem_cons.mpr ⟨ht, hts⟩

theorem Minor.append {ts ts'} (h : Minor ts) (h' : Minor ts') : Minor (ts ++ ts') :=
  fun t ht => (List.mem_append.mp ht).elim (h t) (h' t)

theorem unreported_nil : Unreported [] := nofun

theorem unreported_singleton {o} (ho : o.minor = true) : Unreported [o] :=
  List.forall_mem_singleton.mpr ho

/-- An event that asks for no connection, alone. -/
theorem unreported_event {e} (h : e.pageRequest? = none) : Unreported [.event e] :=
  unreported_singleton (Option.isNone_iff_eq_none.mpr h)

/-- What the handlers of synchronous connections send. -/
theorem unreported_of_synchronous {out : List Output} (h : ∀ o ∈ out, o.synchronous) :
    Unreported out := by
  intro o ho
  cases o with
  | event => exact Option.isNone_iff_eq_none.mpr (Event.pageRequest?_of_synchronous (h _ ho))
  | _ => cases h _ ho

theorem Unreported.append {out out'} (h : Unreported out) (h' : Unreported out') :
    Unreported (out ++ out') :=
  fun o ho => (List.mem_append.mp ho).elim (h o) (h' o)

namespace BrEdrController

variable {s s' s'' : BrEdrController} {env : Env} {k k' : Connections} {ts ts' : List Task}

/-- The task of an event that the host has not masked. -/
def eventTasks (s : BrEdrController) (code : EventCode) (event : Event) : List Task :=
  if s.isEventUnmasked code then [.event event] else []

/-- The task of an event that asks for no connection, if it is unmasked. -/
theorem minor_eventTasks {code event} (h : event.pageRequest? = none) :
    Minor (s.eventTasks code event) := by
  unfold eventTasks
  split
  · exact minor_cons (Task.minor_event h) minor_nil
  · exact minor_nil

/-- An event that asks for no connection, if it is unmasked. -/
theorem unreported_sendEvent {code event} (h : event.pageRequest? = none) :
    Unreported (s.sendEvent code event) := by
  unfold sendEvent
  split
  · exact unreported_event h
  · exact unreported_nil

/-- An event is scheduled at the end of the tasks. -/
theorem scheduleEvent_eq (s : BrEdrController) (code : EventCode) (event : Event) :
    s.scheduleEvent code event = { s with tasks := s.tasks ++ s.eventTasks code event } := by
  unfold scheduleEvent eventTasks
  split
  · rfl
  · rw [List.append_nil]

/-- Nothing but minor tasks. -/
def Quiet (s s' : BrEdrController) : Prop := ∃ ts, Change s s' s.connections ts ∧ Minor ts

theorem Quiet.refl (s : BrEdrController) : Quiet s s := ⟨[], Change.refl s, minor_nil⟩

/-- Two quiet changes make one. -/
theorem Quiet.trans (h : Quiet s s') (h' : Quiet s' s'') : Quiet s s'' := by
  obtain ⟨ts, hc, hm⟩ := h
  obtain ⟨ts', hc', hm'⟩ := h'
  exact ⟨ts ++ ts', hc.connections ▸ hc.trans hc', hm.append hm'⟩

/-- The tables of the synchronous connections and the settings are not part of the connections. -/
theorem quiet_of_same (haddr : s'.address = s.address) (hconn : s'.connections = s.connections)
    (hts : s'.tasks = s.tasks) : Quiet s s' :=
  ⟨[], ⟨haddr, hconn, by rw [hts, List.append_nil]⟩, minor_nil⟩

/-- A minor task is scheduled. -/
theorem quiet_schedule {t} (ht : t.minor = true) : Quiet s (s.schedule t) :=
  ⟨[t], ⟨rfl, rfl, rfl⟩, minor_cons ht minor_nil⟩

/-- A minor packet is scheduled. -/
theorem quiet_send {source destination body} (h : body.minor = true) :
    Quiet s (s.sendLinkLayerPacket source destination body) :=
  quiet_schedule h

/-- An event that asks for no connection is scheduled. -/
theorem quiet_scheduleEvent {code event} (h : event.pageRequest? = none) :
    Quiet s (s.scheduleEvent code event) := by
  rw [scheduleEvent_eq]
  exact ⟨_, ⟨rfl, rfl, rfl⟩, minor_eventTasks h⟩

/-- A synchronous connection is removed. -/
theorem quiet_removeSco (handle : UInt16) : Quiet s (s.removeScoConnection handle) :=
  quiet_of_same rfl rfl rfl

/-- What the handlers of synchronous connections do is quiet. -/
theorem ScoStep.quiet {a : Option Address} (h : ScoStep s env a s') : Quiet s s' := by
  obtain ⟨table, last, ts, rfl, hts⟩ := h.same
  exact ⟨ts, ⟨rfl, rfl, rfl⟩, fun t ht => Task.minor_of_synchronous (hts t ht)⟩

end BrEdrController

/-! ## The effects -/

/-- The packet is addressed to the controller, or broadcast.
Source: `IncomingPacket` -/
def Reaches (own : Address) (packet : Packet) : Prop :=
  packet.destinationAddress = Address.kEmpty ∨ packet.destinationAddress = own

instance Reaches.decidable (own : Address) (packet : Packet) : Decidable (Reaches own packet) :=
  inferInstanceAs (Decidable (_ ∨ _))

/-- The input ends a page that was not answered: it is cancelled, or its time is over. -/
def GivesUp (i : Input) (page : PageState) : Prop :=
  i.action = .command (.createConnectionCancel page.bdAddr) ∨
    i.action = .paging ∧ page.pageTimeout ≤ i.env.now

/-- The input closes the connection with this handle. -/
def Closes (i : Input) (handle : UInt16) : Prop :=
  (∃ reason, i.action = .command (.disconnect handle reason)) ∨
    i.action = .checkExpiring handle .expired

/-- The connections after one more is made, and its page is over. -/
def Connections.establish (k : Connections) (connection : AclConnection) (lm : LinkManager) :
    Connections :=
  { k with
    acl := k.acl.insert connection.handle connection
    page := k.page.filter fun page => page.bdAddr ≠ connection.address
    lm := lm }

/-- The connections after one is gone. -/
def Connections.release (k : Connections) (handle : UInt16) (lm : LinkManager) : Connections :=
  { k with acl := k.acl.erase handle, lm := lm }

/-- The connections after the role of one has changed. -/
def Connections.setRole (k : Connections) (handle : UInt16) (role : Role) : Connections :=
  { k with acl := k.acl.modify handle fun connection => { connection with role := role } }

namespace BrEdrController

/-- The new connection with a peer. -/
def newConnection (s : BrEdrController) (handle : UInt16) (peer : Address) (role : Role) :
    AclConnection where
  handle := handle
  address := peer
  ownAddress := s.address
  role := role
  linkPolicySettings := s.defaultLinkPolicySettings

/-- The action finds nothing that it could change. -/
def Idle (s : BrEdrController) : Action → Prop
  | .packet packet => Reaches s.address packet →
      match packet.body with
      | .pageResponse _ | .pageReject _ => s.connections.pageFor packet.sourceAddress = none
      | .disconnect _ | .roleSwitchResponse _ => s.connections.link packet.sourceAddress = none
      | _ => True
  | .command (.acceptConnectionRequest bdAddr _)
  | .command (.rejectConnectionRequest bdAddr _) => s.connections.scanFor bdAddr = none
  | .command .reset | .task => False
  | _ => True

/-- Everything a step can do, with what it schedules and sends. -/
inductive Effect (s : BrEdrController) (i : Input) : BrEdrController → List Output → Prop
  /-- The connections stay as they are. -/
  | quiet {s' : BrEdrController} {out : List Output} :
      Quiet s s' → Unreported out → Idle s i.action → Effect s i s' out
  /-- There is no task to run. -/
  | noTask : i.action = .task → s.tasks = [] → Effect s i s []
  /-- A packet is sent. -/
  | sent {packet : Packet} {ts : List Task} :
      i.action = .task → s.tasks = .send packet :: ts →
      Effect s i { s with tasks := ts } [.remote packet]
  /-- An event is sent. -/
  | reported {event : Event} {ts : List Task} :
      i.action = .task → s.tasks = .event event :: ts →
      Effect s i { s with tasks := ts } [.event event]
  /-- The rejection of a page is scheduled. -/
  | refused {bdAddr : Address} {reason : UInt8} {ts : List Task} {out : List Output} :
      i.action = .task → s.tasks = .rejectPeripheralConnection bdAddr reason :: ts →
        Unreported out →
      Effect s i { s with tasks := ts ++ [.send ⟨s.address, bdAddr, .pageReject reason⟩] } out
  /-- A page is accepted that the peer has answered with a connection of its own. -/
  | collided {bdAddr : Address} {try_ : Bool} :
      i.action = .command (.acceptConnectionRequest bdAddr try_) →
      s.connections.scanFor bdAddr ≠ none → s.connections.link bdAddr ≠ none →
      Effect s i s [.status .success]
  /-- A page is accepted. -/
  | accepted {s' : BrEdrController} {scan : PageScanState} {try_ : Bool} {handle : UInt16}
      {lm : LinkManager} {ts : List Task} :
      i.action = .command (.acceptConnectionRequest scan.bdAddr try_) →
      s.pageScan = some scan → s.connections.link scan.bdAddr = none →
      s.aclConnections[handle]? = none → s.lm.addLink scan.bdAddr = some lm → Minor ts →
      Change s s'
        { s.connections.establish
            (s.newConnection handle scan.bdAddr (acceptorRole scan try_)) lm with pageScan := none }
        (ts ++ [.send ⟨s.address, scan.bdAddr, .pageResponse try_⟩]) →
      Effect s i s' [.status .success]
  /-- A page is rejected. -/
  | rejected {scan : PageScanState} {reason : UInt8} :
      i.action = .command (.rejectConnectionRequest scan.bdAddr reason) → s.pageScan = some scan →
      Effect s i (s.schedule (.rejectPeripheralConnection scan.bdAddr reason)) [.status .success]
  /-- A peer is going to be paged. -/
  | created {page : PageState} :
      i.action = .command (.createConnection page.bdAddr page.allowRoleSwitch) → s.page = none →
      s.connections.link page.bdAddr = none → s.connections.scanFor page.bdAddr = none →
      Effect s i { s with page := some page } [.status .success]
  /-- A page is sent. -/
  | paged {s' : BrEdrController} {page : PageState} {next : Nat} {classOfDevice : UInt32} :
      i.action = .paging → s.page = some page →
      Change s s' { s.connections with page := some { page with nextPageEvent := next } }
        [.send ⟨s.address, page.bdAddr, .page classOfDevice page.allowRoleSwitch⟩] →
      Effect s i s' []
  /-- The page is given up. -/
  | gaveUp {s' : BrEdrController} {page : PageState} {ts : List Task} {out : List Output} :
      GivesUp i page → s.page = some page → Change s s' { s.connections with page := none } ts →
      Minor ts → Unreported out → Effect s i s' out
  /-- The peer rejects the page. -/
  | turnedDown {packet : Packet} {page : PageState} {reason : UInt8} {out : List Output} :
      i.action = .packet packet → Reaches s.address packet → packet.body = .pageReject reason →
      s.page = some page → page.bdAddr = packet.sourceAddress → Unreported out →
      Effect s i { s with page := none } out
  /-- A page of a peer is reported to the host. -/
  | scanned {packet : Packet} {classOfDevice : UInt32} {allow : Bool} :
      i.action = .packet packet → Reaches s.address packet →
      packet.body = .page classOfDevice allow → s.pageScan = none →
      s.connections.link packet.sourceAddress = none →
      Effect s i { s with pageScan := some ⟨packet.sourceAddress, allow⟩ }
        [.event (.connectionRequest packet.sourceAddress classOfDevice .acl)]
  /-- A page of a peer is rejected without the host. -/
  | masked {packet : Packet} {classOfDevice : UInt32} {allow : Bool} {reason : UInt8} :
      i.action = .packet packet → packet.body = .page classOfDevice allow →
      Effect s i (s.sendLinkLayerPacket s.address packet.sourceAddress (.pageReject reason)) []
  /-- The peer accepts the page. -/
  | connected {s' : BrEdrController} {packet : Packet} {page : PageState} {try_ : Bool}
      {handle : UInt16} {lm : LinkManager} {out : List Output} :
      i.action = .packet packet → Reaches s.address packet → packet.body = .pageResponse try_ →
      s.page = some page → page.bdAddr = packet.sourceAddress →
      s.aclConnections[handle]? = none → s.lm.addLink packet.sourceAddress = some lm →
      Change s s' (s.connections.establish
        (s.newConnection handle packet.sourceAddress (initiatorRole page try_)) lm) [] →
      Unreported out → Effect s i s' out
  /-- A connection is closed, and the peer is told. -/
  | released {s' : BrEdrController} {handle : UInt16} {connection : AclConnection}
      {lm : LinkManager} {ts ts' : List Task} {reason : UInt8} {out : List Output} :
      Closes i handle → s.aclConnections[handle]? = some connection →
      s.lm.removeLink connection.address = some lm → Minor ts → Minor ts' →
      Change s s' (s.connections.release handle lm)
        (ts ++ .send ⟨connection.ownAddress, connection.address, .disconnect reason⟩ :: ts') →
      Unreported out → Effect s i s' out
  /-- The peer has closed a connection. -/
  | dropped {s' : BrEdrController} {packet : Packet} {handle : UInt16}
      {connection : AclConnection} {lm : LinkManager} {ts : List Task} {reason : UInt8} :
      i.action = .packet packet → Reaches s.address packet → packet.body = .disconnect reason →
      s.aclConnections[handle]? = some connection → connection.address = packet.sourceAddress →
      s.lm.removeLink connection.address = some lm → Minor ts →
      Change s s' (s.connections.release handle lm) ts → Effect s i s' []
  /-- A role switch is accepted. -/
  | switched {s' : BrEdrController} {packet : Packet} {handle : UInt16}
      {connection : AclConnection} {ts : List Task} :
      i.action = .packet packet → Reaches s.address packet → packet.body = .roleSwitchRequest →
      s.aclConnections[handle]? = some connection → connection.address = packet.sourceAddress →
      Minor ts →
      Change s s' (s.connections.setRole handle (otherRole connection.role))
        (.send ⟨s.address, packet.sourceAddress,
          .roleSwitchResponse ErrorCode.success.toUInt8⟩ :: ts) → Effect s i s' []
  /-- The peer has answered a role switch. -/
  | answered {s' : BrEdrController} {packet : Packet} {handle : UInt16}
      {connection : AclConnection} {ts : List Task} {status : UInt8} :
      i.action = .packet packet → Reaches s.address packet →
      packet.body = .roleSwitchResponse status →
      s.aclConnections[handle]? = some connection → connection.address = packet.sourceAddress →
      Minor ts →
      Change s s' (s.connections.setRole handle
        (if status ≠ ErrorCode.success.toUInt8 then connection.role else otherRole connection.role))
        ts → Effect s i s' []
  /-- The link policy of a connection is set. -/
  | policy {handle settings : UInt16} {connection : AclConnection} :
      i.action = .command (.writeLinkPolicySettings handle settings) →
      s.aclConnections[handle]? = some connection →
      Effect s i
        { s with aclConnections := s.aclConnections.modify handle fun connection =>
          { connection with linkPolicySettings := settings } } [.status .success]
  /-- The controller is reset. -/
  | reset : i.action = .command .reset → Effect s i (s.reset i.env) [.status .success]

/-! ## The handlers -/

variable {s s' : BrEdrController} {i : Input} {env : Env} {out : List Output} {bdAddr : Address}
  {handle : UInt16}
  {status : ErrorCode}

/-- A handle is found for the address exactly if there is a connection. -/
theorem link_eq_none :
    s.getAclConnectionHandle env bdAddr = none ↔ s.connections.link bdAddr = none :=
  HashMap.keyBy_eq_none

/-- There is no connection if no handle is found. -/
theorem link_of_not_isSome (h : ¬ (s.getAclConnectionHandle env bdAddr).isSome) :
    s.connections.link bdAddr = none :=
  link_eq_none.mp (Option.not_isSome_iff_eq_none.mp h)

/-- The handle that is found is of a connection with the peer. -/
theorem link_of_handle (h : s.getAclConnectionHandle env bdAddr = some handle) :
    ∃ connection, s.aclConnections[handle]? = some connection ∧ connection.address = bdAddr :=
  HashMap.mem_of_keyBy h

/-- The controller once the connection is made. -/
def connected (s : BrEdrController) (bdAddr : Address) (role : Role) (handle last : UInt16)
    (lm : LinkManager) : BrEdrController :=
  { s with
    aclConnections := s.aclConnections.insert handle (s.newConnection handle bdAddr role)
    lastAclHandle := last
    lm := lm }

/-- What a new ACL connection takes: an unused handle, and a free link. -/
theorem createAcl_ok {role} : Yields (s.createAclConnection bdAddr role) fun r => ∃ handle last lm,
    ConnectionHandle.getUnusedHandle s.aclConnections ConnectionHandle.kAclRangeStart
      ConnectionHandle.kAclRangeEnd s.lastAclHandle = .ok (handle, last) ∧
        s.lm.addLink bdAddr = some lm ∧
    r = (handle, s.connected bdAddr role handle last lm) :=
  .bind fun _ hh => .bind fun _ hlm => .ok ⟨_, _, _, hh, assertSome_eq_ok.mp hlm, rfl⟩

/-- An ACL connection without a synchronous one is removed with its link. -/
theorem removeAcl_ok : Yields (s.removeAclConnection env handle bdAddr) fun s' => ∃ lm,
    s.getScoConnectionHandle env bdAddr = none ∧ s.lm.removeLink bdAddr = some lm ∧
    s' = { s with aclConnections := s.aclConnections.erase handle, lm := lm } :=
  .bind fun _ hsco => .bind fun _ hlm =>
    .ok ⟨_, Option.isNone_iff_eq_none.mp (assert_eq_ok.mp hsco), assertSome_eq_ok.mp hlm, rfl⟩

/-- The events of an accepted connection are minor. -/
theorem scheduleAccepted_eq (bdAddr : Address) (role : Role) (handle : UInt16) :
    ∃ ts, s.scheduleAccepted bdAddr role handle = { s with tasks := s.tasks ++ ts } ∧ Minor ts := by
  unfold scheduleAccepted
  split
  · rw [scheduleEvent_eq, scheduleEvent_eq]
    exact ⟨_, by rw [List.append_assoc], (minor_eventTasks rfl).append (minor_eventTasks rfl)⟩
  · rw [scheduleEvent_eq]
    exact ⟨_, rfl, minor_eventTasks rfl⟩

/-- A command about a synchronous connection or a setting. -/
theorem effect_setting {c} (hi : i.action = .command c) (hidle : Idle s (.command c))
    (h : Quiet s s') : Effect s i s' [.status status] :=
  .quiet h (unreported_singleton rfl) (hi ▸ hidle)

/-- A command that changes nothing. -/
theorem effect_refused {c} (hi : i.action = .command c) (hidle : Idle s (.command c)) : Effect s i s
    [.status status] :=
  effect_setting hi hidle (Quiet.refl s)

/-- Create Connection. -/
theorem effect_createConnection {allow : Bool}
    (hi : i.action = .command (.createConnection bdAddr allow)) :
    Effect s i (s.createConnection i.env bdAddr allow).1
      [.status (s.createConnection i.env bdAddr allow).2] := by
  unfold createConnection
  split_ifs with hpage hl hscan
  · exact effect_refused hi trivial
  · exact effect_refused hi trivial
  · exact effect_refused hi trivial
  · refine .created hi (Option.not_isSome_iff_eq_none.mp hpage) (link_of_not_isSome hl) ?_
    refine Option.filter_eq_none_iff.mpr fun scan hsome hbd => hscan ?_
    rw [show s.pageScan = some scan from hsome]
    exact hbd

/-- Create Connection Cancel. -/
theorem effect_createConnectionCancel (hi : i.action = .command (.createConnectionCancel bdAddr)) :
    Effect s i (s.createConnectionCancel bdAddr).1
      [.status (s.createConnectionCancel bdAddr).2] := by
  unfold createConnectionCancel
  split_ifs with hany
  · obtain ⟨page, hpage, hbd⟩ := (Option.any_eq_true ..).mp hany
    obtain rfl : page.bdAddr = bdAddr := of_decide_eq_true hbd
    rw [scheduleEvent_eq]
    exact .gaveUp (.inl hi) hpage ⟨rfl, rfl, rfl⟩ (minor_eventTasks rfl) (unreported_singleton rfl)
  · exact effect_refused hi trivial

/-- The page that waits is accepted. -/
theorem effect_acceptPage {scan} {try_ : Bool}
    (hi : i.action = .command (.acceptConnectionRequest scan.bdAddr try_))
    (hscan : s.pageScan = some scan) :
    Yields (s.acceptPage i.env scan try_) fun r => Effect s i r.1 [.status r.2] := by
  refine .ite (fun hl => .ok (.collided hi ?_ ?_)) fun hl => .seq createAcl_ok ?_
  · unfold Connections.scanFor connections
    simp [hscan]
  · intro hn
    rw [link_eq_none.mpr hn] at hl
    cases hl
  · rintro _ ⟨handle, last, lm, hfree, hlm, rfl⟩
    dsimp only
    obtain ⟨ts, hevs, hmin⟩ := scheduleAccepted_eq
      (s := s.connected scan.bdAddr (acceptorRole scan try_) handle last lm)
      scan.bdAddr (acceptorRole scan try_) handle
    rw [hevs]
    exact .ok
      (.accepted hi hscan (link_of_not_isSome hl)
      (ConnectionHandle.getUnusedHandle_unused hfree) hlm hmin ⟨rfl, rfl, List.append_assoc ..⟩)

/-- Accept Connection Request. -/
theorem effect_acceptConnectionRequest {try_ : Bool}
    (hi : i.action = .command (.acceptConnectionRequest bdAddr try_)) :
    Yields (s.acceptConnectionRequest i.env bdAddr try_) fun r => Effect s i r.1 [.status r.2] := by
  unfold acceptConnectionRequest
  split
  · rename_i scan hfil
    obtain ⟨hscan, hbd⟩ := Option.filter_eq_some_iff.mp hfil
    obtain rfl : scan.bdAddr = bdAddr := of_decide_eq_true hbd
    exact effect_acceptPage hi hscan
  · rename_i hscan
    split
    · exact .ok (effect_refused hi hscan)
    · rename_i hpend
      exact .seq (scoStep_acceptSco (a := none) i.env (mem_of_pendingSco hpend).1) fun _ h =>
        .ok (effect_setting hi hscan (h.event rfl).quiet)

/-- Reject Connection Request. -/
theorem effect_rejectConnectionRequest {reason}
    (hi : i.action = .command (.rejectConnectionRequest bdAddr reason)) :
    Effect s i (s.rejectConnectionRequest bdAddr reason).1
      [.status (s.rejectConnectionRequest bdAddr reason).2] := by
  unfold rejectConnectionRequest
  split_ifs with hany
  · obtain ⟨scan, hscan, hbd⟩ := (Option.any_eq_true ..).mp hany
    obtain rfl : scan.bdAddr = bdAddr := of_decide_eq_true hbd
    exact .rejected hi hscan
  · refine effect_refused hi (Option.filter_eq_none_iff.mpr fun scan hsome hbd => hany ?_)
    exact (Option.any_eq_true ..).mpr ⟨scan, hsome, hbd⟩

/-- A connection is closed, or there is none with the handle. -/
theorem effect_disconnect {hostReason controllerReason : UInt8} (hi : Closes i handle)
    (hidle : Idle s i.action) : Yields
    (s.disconnect i.env handle hostReason controllerReason) fun r =>
      ∀ out, Unreported out → Effect s i r.1 out := by
  unfold disconnect
  split
  · refine .ok fun out hout => .quiet ?_ hout hidle
    exact ((quiet_send rfl).trans (quiet_removeSco _)).trans (quiet_scheduleEvent rfl)
  · split
    · exact .ok fun out hout => .quiet (Quiet.refl s) hout hidle
    · rename_i connection hacl
      obtain ⟨table, last, ts, hsco, hts⟩ :=
        (scoStep_disconnectSco (a := none) i.env connection hostReason controllerReason).same
      rw [hsco]
      refine .seq removeAcl_ok ?_
      rintro _ ⟨lm, -, hlm, rfl⟩
      refine .ok fun out hout => ?_
      unfold sendDisconnectionCompleteEvent
      rw [scheduleEvent_eq]
      have htasks : ∀ t ts', s.tasks ++ ts ++ [t] ++ ts' = s.tasks ++ (ts ++ t :: ts') := by simp
      exact .released hi hacl hlm (fun t ht => Task.minor_of_synchronous (hts t ht))
        (by exact minor_eventTasks rfl) ⟨rfl, rfl, htasks ..⟩ hout

/-- Switch Role. -/
theorem effect_switchRole {role} (hi : i.action = .command (.switchRole bdAddr role)) :
    Effect s i (s.switchRole i.env bdAddr role).1 [.status (s.switchRole i.env bdAddr role).2] := by
  refine effect_setting hi trivial ?_
  unfold switchRole
  split
  · exact Quiet.refl s
  · split_ifs
    · exact Quiet.refl s
    · exact quiet_send rfl
    · exact quiet_scheduleEvent rfl

/-- Write Link Policy Settings. -/
theorem effect_writeLinkPolicySettings {handle settings}
    (hi : i.action = .command (.writeLinkPolicySettings handle settings)) :
    Effect s i (s.writeLinkPolicySettings handle settings).1
      [.status (s.writeLinkPolicySettings handle settings).2] := by
  unfold writeLinkPolicySettings
  split_ifs with hn
  · exact effect_refused hi trivial
  · exact effect_refused hi trivial
  · obtain ⟨connection, hacl⟩ := Option.ne_none_iff_exists'.mp (mt Option.isNone_iff_eq_none.mpr hn)
    exact .policy hi hacl

/-- **The effect of a command**. -/
theorem effect_command {c} (hi : i.action = .command c) :
    Yields (s.command i.env c) fun r => Effect s i r.1 [.status r.2] := by
  have hsco : ∀ {x : Except Panic (BrEdrController × ErrorCode)} {a : Option Address},
      Idle s (.command c) → Yields x (fun r => ScoStep s i.env a r.1) → Yields x fun r =>
      Effect s i r.1 [.status r.2] := fun hidle h r hr => effect_setting hi hidle (h r hr).quiet
  cases c with
  | createConnection => exact .ok (effect_createConnection hi)
  | disconnect _ reason =>
    exact fun r hr => effect_disconnect (.inl ⟨reason, hi⟩) (by rw [hi]; trivial) r hr _
      (unreported_singleton rfl)
  | createConnectionCancel => exact .ok (effect_createConnectionCancel hi)
  | acceptConnectionRequest => exact effect_acceptConnectionRequest hi
  | rejectConnectionRequest => exact .ok (effect_rejectConnectionRequest hi)
  | addScoConnection | setupSynchronousConnection => exact hsco trivial (scoStep_requestSco rfl)
  | acceptSynchronousConnection =>
    exact hsco (a := none) trivial scoStep_acceptSynchronousConnection
  | rejectSynchronousConnection =>
    exact hsco (a := none) trivial scoStep_rejectSynchronousConnection
  | switchRole => exact .ok (effect_switchRole hi)
  | writeLinkPolicySettings => exact .ok (effect_writeLinkPolicySettings hi)
  | writeDefaultLinkPolicySettings =>
    refine .ok (effect_setting hi trivial ?_)
    unfold writeDefaultLinkPolicySettings
    split
    · exact Quiet.refl s
    · exact quiet_of_same rfl rfl rfl
  | writeScanEnable | setEventMask | setClassOfDevice | setPageTimeout =>
    exact .ok (effect_setting hi trivial (quiet_of_same rfl rfl rfl))
  | reset => exact .ok (.reset hi)

/-! ## The packets -/

section packets

variable {packet : Packet}

/-- A packet for another controller. -/
theorem step_dropped (env : Env) (hrch : ¬ Reaches s.address packet) :
    machine.step s ⟨env, .packet packet⟩ = .ok (s, []) := by
  change s.incomingPacket env packet = _
  unfold incomingPacket
  rw [if_pos (not_or.mp hrch)]

/-- A packet for this controller. -/
theorem step_reaching (env : Env) (hrch : Reaches s.address packet) :
    machine.step s ⟨env, .packet packet⟩ =
      s.receive env packet.sourceAddress packet.destinationAddress packet.body := by
  change s.incomingPacket env packet = _
  unfold incomingPacket
  rw [if_neg fun h => not_or.mpr h hrch]

variable (hi : i.action = .packet packet) (hrch : Reaches s.address packet)

include hi

/-- A packet that changes nothing. -/
theorem effect_ignored (hidle : Idle s (.packet packet)) : Effect s i s [] :=
  .quiet (Quiet.refl s) unreported_nil (hi ▸ hidle)

include hrch

/-- A page arrives. -/
theorem effect_incomingPage {classOfDevice} {allow : Bool}
    (hb : packet.body = .page classOfDevice allow) :
    Effect s i (s.incomingPage i.env packet.sourceAddress classOfDevice allow).1
      (s.incomingPage i.env packet.sourceAddress classOfDevice allow).2 := by
  have hidle : Idle s (.packet packet) := fun _ => by rw [hb]; trivial
  unfold incomingPage
  split_ifs with hena hmask hl hscan
  · exact effect_ignored hi hidle
  · exact .masked hi hb
  · exact effect_ignored hi hidle
  · exact effect_ignored hi hidle
  · exact .scanned hi hrch hb (Option.not_isSome_iff_eq_none.mp hscan) (link_of_not_isSome hl)

/-- The page is rejected. -/
theorem effect_incomingPageReject {reason} (hb : packet.body = .pageReject reason) :
    Effect s i (s.incomingPageReject packet.sourceAddress reason).1
      (s.incomingPageReject packet.sourceAddress reason).2 := by
  unfold incomingPageReject
  split_ifs with hany
  · obtain ⟨page, hpage, hbd⟩ := (Option.any_eq_true ..).mp hany
    exact .turnedDown hi hrch hb hpage (of_decide_eq_true hbd) (unreported_sendEvent rfl)
  · refine effect_ignored hi fun _ => ?_
    rw [hb]
    refine Option.filter_eq_none_iff.mpr fun page hpage hbd => hany ?_
    exact (Option.any_eq_true ..).mpr ⟨page, hpage, hbd⟩

/-- The page is answered. -/
theorem effect_incomingPageResponse {try_ : Bool} (hb : packet.body = .pageResponse try_) :
    Yields (s.incomingPageResponse packet.sourceAddress try_) fun r => Effect s i r.1 r.2 := by
  unfold incomingPageResponse
  split
  · rename_i hpage
    refine .ok (effect_ignored hi fun _ => ?_)
    rw [hb]
    exact hpage
  · rename_i page hfil
    obtain ⟨hpage, hbd⟩ := Option.filter_eq_some_iff.mp hfil
    have hbd : page.bdAddr = packet.sourceAddress := of_decide_eq_true hbd
    refine .seq createAcl_ok ?_
    rintro _ ⟨handle, last, lm, hfree, hlm, rfl⟩
    have hover : s.page.filter (fun page => page.bdAddr ≠ packet.sourceAddress) = none := by
      exact Option.filter_eq_none_iff.mpr fun page' hsome => by simp_all
    refine .ok (.connected hi hrch hb hpage hbd (ConnectionHandle.getUnusedHandle_unused hfree) hlm
      ⟨rfl, ?_, (List.append_nil _).symm⟩ (Unreported.append ?_ (unreported_sendEvent rfl)))
    · rw [← hover]
      rfl
    · split
      · exact unreported_sendEvent rfl
      · exact unreported_nil

/-- The peer closes the connection. -/
theorem effect_incomingDisconnect {reason} (hb : packet.body = .disconnect reason) :
    Yields (s.incomingDisconnect i.env packet.sourceAddress reason) fun s' => Effect s i s' [] := by
  unfold incomingDisconnect
  split
  · rename_i hl
    refine .ok (effect_ignored hi fun _ => ?_)
    rw [hb]
    exact link_eq_none.mp hl
  · rename_i handle hh
    obtain ⟨connection, hacl, hp⟩ := link_of_handle hh
    refine .seq removeAcl_ok ?_
    rintro _ ⟨lm, -, hlm, rfl⟩
    refine .ok ?_
    unfold sendDisconnectionCompleteEvent
    rw [scheduleEvent_eq]
    exact .dropped hi hrch hb hacl hp (hp ▸ hlm) (minor_eventTasks rfl) ⟨rfl, rfl, rfl⟩

/-- The peer wants the other role. -/
theorem effect_incomingRoleSwitchRequest (hb : packet.body = .roleSwitchRequest) :
    Effect s i (s.incomingRoleSwitchRequest i.env packet.sourceAddress) [] := by
  have hidle : Idle s (.packet packet) := fun _ => by rw [hb]; trivial
  unfold incomingRoleSwitchRequest
  split
  · exact effect_ignored hi hidle
  · rename_i handle hh
    obtain ⟨connection, hacl, hp⟩ := link_of_handle hh
    rw [hacl]
    dsimp only
    split_ifs
    · exact .quiet (quiet_send (by decide)) unreported_nil (hi ▸ hidle)
    · rw [scheduleEvent_eq]
      refine .switched hi hrch hb hacl hp ?_ ⟨rfl, rfl, List.append_assoc ..⟩
      exact minor_eventTasks rfl

/-- The peer answers a role switch. -/
theorem effect_incomingRoleSwitchResponse {status} (hb : packet.body = .roleSwitchResponse status) :
    Effect s i (s.incomingRoleSwitchResponse i.env packet.sourceAddress status) [] := by
  unfold incomingRoleSwitchResponse
  split
  · rename_i hl
    refine effect_ignored hi fun _ => ?_
    rw [hb]
    exact link_eq_none.mp hl
  · rename_i handle hh
    obtain ⟨connection, hacl, hp⟩ := link_of_handle hh
    rw [hacl]
    dsimp only
    rw [scheduleEvent_eq]
    exact .answered hi hrch hb hacl hp (minor_eventTasks rfl) ⟨rfl, rfl, rfl⟩

/-- What a packet for this controller does. -/
theorem effect_receive :
    Yields (s.receive i.env packet.sourceAddress packet.destinationAddress packet.body) fun r =>
      Effect s i r.1 r.2 := by
  -- a packet that can change nothing is idle whatever the tables
  have hq : ∀ {s' out}, Quiet s s' → Unreported out → packet.body.minor = true →
      (∀ status, packet.body ≠ .roleSwitchResponse status) → Effect s i s' out := by
    intro s' out hq hout hmin hoth
    refine .quiet hq hout ?_
    rw [hi]
    intro _
    split <;> simp_all [Body.minor]
  cases hb : packet.body with
  | page => exact .ok (effect_incomingPage hi hrch hb)
  | pageResponse => exact effect_incomingPageResponse hi hrch hb
  | pageReject => exact .ok (effect_incomingPageReject hi hrch hb)
  | disconnect => exact .seq (effect_incomingDisconnect hi hrch hb) fun _ h => .ok h
  | roleSwitchRequest => exact .ok (effect_incomingRoleSwitchRequest hi hrch hb)
  | roleSwitchResponse => exact .ok (effect_incomingRoleSwitchResponse hi hrch hb)
  | scoConnectionRequest =>
    rw [hb] at hq
    exact fun r hr =>
      have h := scoStep_incomingScoConnectionRequest (a := some _) rfl r hr
      hq h.1.quiet (unreported_of_synchronous h.2) rfl nofun
  | scoConnectionResponse =>
    rw [hb] at hq
    exact fun r hr =>
      have h := scoStep_incomingScoConnectionResponse (a := none) r hr
      hq h.1.quiet (unreported_of_synchronous h.2) rfl nofun
  | scoDisconnect =>
    rw [hb] at hq
    exact .ok (hq (scoStep_incomingScoDisconnect (a := none)).quiet unreported_nil rfl nofun)
  | pingRequest =>
    rw [hb] at hq
    exact .ok (hq (quiet_send rfl) unreported_nil rfl nofun)
  | pingResponse =>
    rw [hb] at hq
    exact .ok (hq (Quiet.refl s) unreported_nil rfl nofun)

omit hrch in
/-- **The effect of a packet**. -/
theorem effect_packet :
    Yields (machine.step s ⟨i.env, .packet packet⟩) fun r => Effect s i r.1 r.2 := by
  by_cases hrch : Reaches s.address packet
  · rw [step_reaching i.env hrch]
    exact effect_receive hi hrch
  · rw [step_dropped i.env hrch]
    exact .ok (effect_ignored hi fun hrch' => absurd hrch' hrch)

end packets

/-! ## Time -/

/-- The first task is run. -/
theorem effect_runTask (hi : i.action = .task) : Effect s i s.runTask.1 s.runTask.2 := by
  unfold runTask
  split
  · rename_i hts
    exact .noTask hi hts
  · rename_i task ts hts
    cases task with
    | send => exact .sent hi hts
    | event => exact .reported hi hts
    | rejectPeripheralConnection =>
      exact .refused hi hts (unreported_sendEvent rfl)

/-- The page goes on, or times out. -/
theorem effect_paging (hi : i.action = .paging) :
    Effect s i (s.paging i.env).1 (s.paging i.env).2 := by
  have hidle : Idle s i.action := by rw [hi]; trivial
  unfold paging
  split
  · exact .quiet (Quiet.refl s) unreported_nil hidle
  · rename_i page hpage
    split_ifs with hto hnext
    · exact .gaveUp (.inr ⟨hi, hto⟩) hpage ⟨rfl, rfl, (List.append_nil _).symm⟩ minor_nil
        (unreported_singleton rfl)
    · exact .paged hi hpage ⟨rfl, rfl, rfl⟩
    · exact .quiet (Quiet.refl s) unreported_nil hidle

/-- The timers of a connection are checked. -/
theorem effect_checkExpiringConnection {expiry} (hi : i.action = .checkExpiring handle expiry) :
    Yields (s.checkExpiringConnection i.env handle expiry) fun s' => Effect s i s' [] := by
  have hidle : Idle s i.action := by rw [hi]; trivial
  unfold checkExpiringConnection
  split
  · exact .ok (.quiet (Quiet.refl s) unreported_nil hidle)
  · cases expiry with
    | expired => exact .seq (effect_disconnect (.inr hi) hidle) fun _ h => .ok (h _ unreported_nil)
    | nearExpiring => exact .ok (.quiet (quiet_send rfl) unreported_nil hidle)
    | live => exact .ok (.quiet (Quiet.refl s) unreported_nil hidle)

/-- **Whatever a step returns is one of the effects.** -/
theorem effect_of_step (h : machine.step s i = .ok (s', out)) : Effect s i s' out := by
  suffices hstep : Yields (s.step i) fun r => Effect s i r.1 r.2 from hstep _ h
  unfold step
  split
  · rename_i hi
    exact .seq (effect_command hi) fun _ h => .ok h
  · rename_i hi
    exact effect_packet hi
  · rename_i hi
    exact .ok (effect_runTask hi)
  · rename_i hi
    exact .ok (effect_paging hi)
  · rename_i hi
    exact .seq (effect_checkExpiringConnection hi) fun _ h => .ok h

end BrEdrController

end RootCanal.BrEdr
