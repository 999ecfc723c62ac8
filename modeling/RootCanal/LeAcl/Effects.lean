import RootCanal.LeAcl.Handlers
import RootCanal.Gap.Connecting

/-!
# What a step of the LE controller does

`Effect` lists what a step can make of the connections, of the initiator and of the tasks, and which
packets it sends.  **`effect_of_step`: every step is one of these.**  The results about the
controller are case splits over it.

What is done outside of the connections is taken from `Gap.LeController.Connects`.  The advertisers
and the preferences of the host are not in it: what they are decides which effect a step has, and no
more is said of them.
-/

namespace RootCanal.LeAcl

open Lib RootCanal.Hci RootCanal.Gap

/-! ## Packets among the outputs -/

/-- The packets among the outputs. -/
def packets (out : List Output) : List Packet := out.filterMap Output.packet?

@[simp] theorem packets_nil : packets [] = [] := rfl

@[simp] theorem packets_event (event : Event) (out : List Output) :
    packets (.event event :: out) = packets out := rfl

@[simp] theorem packets_packet (p : Packet) (out : List Output) :
    packets (.packet p :: out) = p :: packets out := rfl

@[simp] theorem packets_append (out out' : List Output) :
    packets (out ++ out') = packets out ++ packets out' := List.filterMap_append

@[simp] theorem packets_toPeer (c : LeAclConnection) (body : Body) (out : List Output) :
    packets (c.toPeer body :: out) = ⟨c.ownAddress.address, c.address.address, body⟩ ::
      packets out :=
  rfl

@[simp] theorem packets_reply (p : Packet) (body : Body) (out : List Output) :
    packets (reply p body :: out) = ⟨p.destinationAddress, p.sourceAddress, body⟩ ::
      packets out := rfl

@[simp] theorem packets_sendEvent (s : LeController) (code : EventCode) (event : Event) :
    packets (s.sendEvent code event) = [] := by
  unfold LeController.sendEvent
  split <;> rfl

@[simp] theorem packets_sendLeEvent (s : LeController) (code : SubeventCode) (event : Event) :
    packets (s.sendLeEvent code event) = [] := by
  unfold LeController.sendLeEvent
  split <;> rfl

/-- The packet is one by which devices find each other. -/
def Body.discovers : Body → Bool
  | .gap body => body.discovers
  | _ => false

/-- The packet belongs to a connection, and does not end it. -/
def Body.isProcedure : Body → Bool
  | .gap _ | .disconnect _ => false
  | _ => true

/-- What can close a connection: a command, a packet or a timer. -/
def Action.closes : Action → Bool
  | .command (.disconnect ..) | .packet ⟨_, _, .disconnect _⟩ | .expire _ => true
  | _ => false

/-- The task sends an event. -/
def Task.isEvent : Task → Bool
  | .sendEvent _ => true
  | .handleLeEnableEncryption .. => false

/-! ## The effects -/

/-- The step leaves the connections, the initiator and the tasks. -/
structure Aside (s s' : LeController) : Prop where
  connections : s'.leAclConnections = s.leAclConnections
  initiator : s'.initiator = s.initiator
  tasks : s'.tasks = s.tasks

/-- A connection that has just been made. -/
def LeController.newConnection (s : LeController) (handle : UInt16)
    (address resolved own : AddressWithType) (role : Role) (interval latency timeout : UInt16) :
    LeAclConnection where
  handle := handle
  address := address
  ownAddress := own
  resolvedAddress := resolved
  role := role
  parameters :=
    { connInterval := interval
      connSubrateFactor := 1
      connContinuationNumber := 0
      connPeripheralLatency := latency
      connSupervisionTimeout := timeout }
  subrateParameters := s.defaultSubrateParameters

/-- A new connection, at a handle that was not in use. -/
structure LeController.Makes (s s' : LeController) (address resolved own : AddressWithType)
    (role : Role) (interval latency timeout handle : UInt16) : Prop where
  unused : s.leAclConnections[handle]? = none
  connections : s'.leAclConnections = s.leAclConnections.insert handle
    (s.newConnection handle address resolved own role interval latency timeout)
  tasks : ∃ ts, s'.tasks = s.tasks ++ ts ∧ ∀ t ∈ ts, t.isEvent

/-- What is sent are packets by which devices find each other, and one other packet. -/
def Sends (q : Gap.Packet) (out : List Output) : Prop :=
  ∀ p ∈ packets out, p.body.discovers ∨ p = ⟨q.sourceAddress, q.destinationAddress, .gap q.body⟩

/-- The advertiser that an advertising PDU is from. -/
def soughtIn (p : Packet) : Option AddressWithType :=
  match p.body with
  | .gap body => advertiserOf ⟨p.sourceAddress, p.destinationAddress, body⟩
  | _ => none

/-- The action is taken outside of the connections. -/
def Action.isOutside : Action → Bool
  | .command (.gap _) | .packet ⟨_, _, .gap _⟩ | .tick => true
  | _ => false

/-- The step leaves the connections, and schedules events alone. -/
structure Outside (s s' : LeController) : Prop where
  connections : s'.leAclConnections = s.leAclConnections
  tasks : ∃ ts, s'.tasks = s.tasks ++ ts ∧ ∀ t ∈ ts, t.isEvent

/-- What a step can do. -/
inductive Effect (s : LeController) (i : Input) (s' : LeController) (out : List Output) : Prop
  /-- A command that is refused, or that is about a preference. -/
  | aside {c : Command} : i.action = .command c → Aside s s' → packets out = [] → Effect s i s' out
  /-- Devices are found, or are to find this one. -/
  | outside : i.action.isOutside → Outside s s' → s'.initiator = s.initiator →
      (∀ p ∈ packets out, p.body.discovers) → Effect s i s' out
  /-- A packet for which the controller has no connection. -/
  | dropped {p : Packet} : i.action = .packet p → s' = s → out = [] →
      s.getLeAclConnectionHandle i.env p.destinationAddress p.sourceAddress = none →
        Effect s i s' out
  /-- The initiator is enabled. -/
  | created {c : InitiateCommand} : i.action = .command (.gap (.initiate c)) → Outside s s' →
      s.initiator.Enabled s'.initiator →
      (∀ p ∈ packets out, p.body.discovers) → Effect s i s' out
  /-- The host gives up the connection that it wanted. -/
  | cancelled : i.action = .command (.gap .leCreateConnectionCancel) → Outside s s' →
      s'.initiator = { s.initiator with connectEnable := false } →
      (∀ p ∈ packets out, p.body.discovers) → Effect s i s' out
  /-- An advertising PDU is answered with a connect request. -/
  | asked {source destination : Address} {body : Gap.Body} {advertiser own : AddressWithType} :
      i.action = .packet ⟨source, destination, .gap body⟩ →
      advertiserOf ⟨source, destination, body⟩ = some advertiser → Outside s s' →
      s.initiator.connectEnable = true → s.initiator.pendingConnectRequest = none →
      s.outside.initiatingAddressTo i.env.toEnv advertiser = .ok own →
      s'.initiator = { s.initiator with
        pendingConnectRequest := some advertiser
        initiatingAddress := own.address } →
      Sends ⟨own.address, advertiser.address, .leConnect own.addressType advertiser.addressType
        s.initiator.le1mPhy.connectionIntervalMax s.initiator.le1mPhy.maxLatency
        s.initiator.le1mPhy.supervisionTimeout⟩ out → Effect s i s' out
  /-- An advertiser accepts a connect request: the connection is made as Peripheral. -/
  | accepted {source destination : Address} {iType aType : AddressType}
      {interval latency timeout handle : UInt16} {resolved : AddressWithType} :
      i.action =
        .packet ⟨source, destination, .gap (.leConnect iType aType interval latency timeout)⟩ →
      s.outside.advertises ⟨destination, aType⟩ = true →
      s.Makes s' ⟨source, iType⟩ resolved ⟨destination, aType⟩ .peripheral interval latency
        timeout handle →
      s'.initiator = s.initiator.connected destination →
      Sends ⟨destination, source, .leConnectComplete iType aType interval latency timeout⟩ out →
      Effect s i s' out
  /-- A connect request is complete: the connection is made as Central. -/
  | completed {source destination : Address} {iType aType : AddressType}
      {interval latency timeout handle : UInt16} {resolved : AddressWithType} :
      i.action = .packet
        ⟨source, destination, .gap (.leConnectComplete iType aType interval latency timeout)⟩ →
      s.outside.expectsComplete ⟨destination, iType⟩ ⟨source, aType⟩ = true →
      s.Makes s' ⟨source, aType⟩ resolved ⟨destination, iType⟩ .central interval latency
        timeout handle →
      s'.initiator = { s.initiator.connected destination with
        pendingConnectRequest := none
        connectEnable := false } → packets out = [] → Effect s i s' out
  /-- A command changes a connection. -/
  | requested {handle : UInt16} {c : LeAclConnection} {request : Request} {r : Handled} :
      i.action = .command (.onConnection handle request) → s.leAclConnections[handle]? = some c →
      s.request handle c request = .ok r →
      s'.leAclConnections = s.leAclConnections.insert handle r.connection →
      s'.initiator = s.initiator → s'.tasks = s.tasks ++ r.tasks → packets out = packets r.out →
      Effect s i s' out
  /-- A packet changes a connection. -/
  | received {p : Packet} {handle : UInt16} {c : LeAclConnection} {r : Handled} :
      i.action = .packet p → p.body.isProcedure → s.leAclConnections[handle]? = some c →
      c.ends = (p.destinationAddress, p.sourceAddress) → s.incomingProcedure c p = .ok r →
      s'.leAclConnections = s.leAclConnections.insert handle r.connection →
      s'.initiator = s.initiator → s'.tasks = s.tasks ++ r.tasks → packets out = packets r.out →
      Effect s i s' out
  /-- The Central starts encryption. -/
  | encrypting {handle : UInt16} {rand : UInt64} {ediv : UInt16} {ltk : Ltk} {c : LeAclConnection}
      {ts : List Task} :
      i.action = .runTask → s.tasks = .handleLeEnableEncryption handle rand ediv ltk :: ts →
      s.leAclConnections[handle]? = some c →
      s'.leAclConnections = s.leAclConnections.insert handle { c with ltk := some ltk } →
      s'.initiator = s.initiator → s'.tasks = ts →
      packets out =
        [⟨c.ownAddress.address, c.address.address, .leEncryptConnection rand ediv ltk⟩] →
      Effect s i s' out
  /-- A task that sends an event, or that is about a connection that is gone. -/
  | ran : i.action = .runTask → s'.leAclConnections = s.leAclConnections →
      s'.initiator = s.initiator → s'.tasks = s.tasks.tail →
      (∀ {handle rand ediv ltk}, s.tasks.head? =
        some (.handleLeEnableEncryption handle rand ediv ltk) →
        s.leAclConnections[handle]? = none) → packets out = [] → Effect s i s' out
  /-- The host asks for other PHYs. -/
  | phyRequested {handle : UInt16} {noTransmitPreference noReceivePreference : Bool}
      {txPhys rxPhys : UInt8} {c : LeAclConnection} :
      i.action =
        .command (.leSetPhy handle noTransmitPreference noReceivePreference txPhys rxPhys) →
      s.leAclConnections[handle]? = some c →
      s' = s.setRequestedPhys handle (s.preferredPhys noTransmitPreference txPhys)
        (s.preferredPhys noReceivePreference rxPhys) →
      packets out = [⟨c.ownAddress.address, c.address.address,
        .llPhyReq (s.preferredPhys noTransmitPreference txPhys)
          (s.preferredPhys noReceivePreference rxPhys)⟩] → Effect s i s' out
  /-- A connection is closed. -/
  | closed {handle : UInt16} {ts : List Task} : i.action.closes →
      s'.leAclConnections = s.leAclConnections.erase handle → s'.initiator = s.initiator →
      s'.tasks = s.tasks ++ ts → (∀ t ∈ ts, t.isEvent) →
      (∀ p ∈ packets out, ∃ reason, p.body = .disconnect reason) → Effect s i s' out
  /-- The timer of a connection that is gone. -/
  | ended : s' = s → out = [] → (∃ handle, i.action = .expire handle) → Effect s i s' out
  /-- The controller is reset. -/
  | reset : i.action = .command (.gap .reset) → s'.leAclConnections = ∅ → s'.initiator = {} →
      s'.tasks = s.tasks → (∀ p ∈ packets out, ∃ reason, p.body = .disconnect reason) →
      Effect s i s' out

variable {s s' s₁ : LeController} {i : Input} {env : Env} {out : List Output}

theorem Aside.refl (s : LeController) : Aside s s := ⟨rfl, rfl, rfl⟩

namespace LeController

/-! ## Outside of the connections -/

/-- The output is an event, or a packet that satisfies `P`. -/
def IsPacket (P : Packet → Prop) : Gap.Output → Prop
  | .event _ => True
  | .packet p => P ⟨p.sourceAddress, p.destinationAddress, .gap p.body⟩
  | .connection .. => False

theorem isPacket_of_discovers {P : Packet → Prop} {o : Gap.Output}
    (hP : ∀ p, p.body.discovers → P p) (h : o.discovers = true) : IsPacket P o := by
  cases o with
  | event => exact trivial
  | packet p => exact hP ⟨_, _, .gap p.body⟩ h
  | connection => cases h

theorem isPacket_of_packet {q : Gap.Packet} {o : Gap.Output}
    (h : o.discovers = true ∨ o = .packet q) :
    IsPacket (fun p => p.body.discovers ∨ p = ⟨q.sourceAddress, q.destinationAddress, .gap q.body⟩)
      o := by
  rcases h with h | rfl
  · exact isPacket_of_discovers (fun _ => .inl) h
  · exact .inr rfl

/-- Outputs that make no connection are sent. By induction on the outputs. -/
theorem outputs_of_packets {P : Packet → Prop} {gs : List Gap.Output} (h : ∀ o ∈ gs, IsPacket P o) :
    Yields (s.outputs gs) fun r => r.1 = s ∧ ∀ p ∈ packets r.2, P p := by
  induction gs with
  | nil => exact .ok ⟨rfl, List.forall_mem_nil _⟩
  | cons o gs ih =>
    obtain ⟨ho, hgs⟩ := List.forall_mem_cons.mp h
    refine .bind fun a ha => ?_
    cases o with
    | connection => exact ho.elim
    | event =>
      cases ha
      exact .seq (ih hgs) fun _ hr => .ok hr
    | packet =>
      cases ha
      exact .seq (ih hgs) fun _ hr => .ok ⟨hr.1, List.forall_mem_cons.mpr ⟨ho, hr.2⟩⟩

/-- What discovery gives changes no connection. -/
theorem outputs_of_discovers {gs : List Gap.Output} (h : Discovers gs) :
    Yields (s.outputs gs) fun r => r.1 = s ∧ ∀ p ∈ packets r.2, p.body.discovers :=
  outputs_of_packets fun o ho => isPacket_of_discovers (fun _ => id) (h o ho)

/-- What advertising and scanning do is outside of the connections. -/
theorem outside_after (g : Gap.LeController) : Outside s (s.after g) := by
  refine ⟨rfl, _, rfl, ?_⟩
  intro t ht
  obtain ⟨_, -, rfl⟩ := List.mem_map.mp ht
  rfl

section connection

variable {address resolved own : AddressWithType} {role : Role} {interval latency timeout : UInt16}

/-- A connection is made under an unused handle, and reported. -/
theorem handleLeConnection_ok {selection : Bool} :
    Yields (s.handleLeConnection address resolved own role interval latency timeout selection)
      fun r =>
      (∃ handle, s.leAclConnections[handle]? = none ∧
      r.1.leAclConnections = s.leAclConnections.insert handle
        (s.newConnection handle address resolved own role interval latency timeout)) ∧
      r.1.initiator = s.initiator.connected own.address ∧ r.1.tasks = s.tasks ∧
        packets r.2 = [] := by
  refine .seq (Q := fun r => r.1 = { s with
      leAclConnections :=
        s.leAclConnections.insert r.2 (s.newConnection r.2 address resolved own role
        interval latency timeout)
      lastLeAclHandle := r.1.lastLeAclHandle } ∧ s.leAclConnections[r.2]? = none)
    (.bind fun _ hfd => .ok ⟨rfl, ConnectionHandle.getUnusedHandle_unused hfd⟩) ?_
  rintro ⟨s₁, handle⟩ ⟨hmade, hunused⟩
  dsimp only at hmade hunused ⊢
  refine .ok ⟨⟨handle, hunused, ?_⟩, ?_, ?_, ?_⟩
  · rw [hmade]
  · rw [hmade]
    rfl
  · rw [hmade]
  · rw [packets_append]
    have hcomp : ∀ {b : Bool} {events events' : List Output}, packets events = [] →
        packets events' = [] → packets (if b then events else events') = [] := by
      intro b events events' hevs hevs'
      cases b
      · exact hevs'
      · exact hevs
    rw [hcomp ?_ (packets_sendLeEvent ..), hcomp (packets_sendLeEvent ..) rfl]
    · rfl
    · split <;> rfl

/-- A connection among the outputs is made, and what comes after it is sent. -/
theorem outputs_of_connection {P : Packet → Prop} {g : Gap.LeController} {gs : List Gap.Output}
    (h : ∀ o ∈ gs, IsPacket P o) :
    Yields
      ((s.after g).outputs (.connection address resolved own role interval latency timeout :: gs))
      fun r => (∃ handle, s.Makes r.1 address resolved own role interval latency timeout handle) ∧
      r.1.initiator = g.initiator.connected own.address ∧ ∀ p ∈ packets r.2, P p := by
  refine .seq handleLeConnection_ok ?_
  rintro ⟨s₁, out⟩ ⟨⟨handle, hunused, hconn⟩, hinit, htasks, hout⟩
  refine .seq (outputs_of_packets h) ?_
  rintro ⟨s₂, outs⟩ ⟨rfl, houts⟩
  obtain ⟨ts, hts, hevents⟩ := (outside_after (s := s) g).tasks
  refine .ok ⟨⟨handle, hunused, hconn, ts, htasks.trans hts, hevents⟩, hinit, ?_⟩
  rw [packets_append, show packets out = [] from hout]
  exact houts

end connection

theorem connected_connected (a : Initiator) (own : Address) :
    (a.connected own).connected own = a.connected own := by
  by_cases h : own = a.initiatingAddress
  · simp [Initiator.connected, h]
  · simp [Initiator.connected, h]

/-- The action is one of the controller outside of its connections. -/
inductive Takes : Action → Gap.Action → Prop
  | command (c : Gap.Command) : Takes (.command (.gap c)) (.command c)
  | packet (bytes : List UInt8) (rssi : UInt8) (p : Gap.Packet) :
      Takes (.packet ⟨p.sourceAddress, p.destinationAddress, .gap p.body⟩) (.packet bytes rssi p)
  | tick : Takes .tick .tick

theorem Takes.isOutside {a g} (h : Takes a g) : a.isOutside := by
  cases h <;> rfl

theorem Takes.command_eq {a c} (h : Takes a (.command c)) : a = .command (.gap c) := by
  cases h
  rfl

theorem Takes.packet_eq {a bytes rssi p} (h : Takes a (.packet bytes rssi p)) :
    a = .packet ⟨p.sourceAddress, p.destinationAddress, .gap p.body⟩ := by
  cases h
  rfl

/-- **What a step outside of the connections does.** The reset is not one of them. -/
theorem effect_of_outside {action : Gap.Action} (hi : Takes i.action action)
    (hreset : action ≠ .command .reset) :
    Yields (s.stepOutside i.env action) fun r => Effect s i r.1 r.2 := by
  refine .bind fun r hstep => ?_
  obtain ⟨g, gs⟩ := r
  have hout := outside_after (s := s) g
  cases Gap.LeController.connects_of_step hstep with
  | apart hinit hgs =>
    refine (outputs_of_discovers hgs).mono ?_
    rintro ⟨_, out⟩ ⟨rfl, hpkts⟩
    exact .outside hi.isOutside hout hinit hpkts
  | reset ha => exact absurd ha hreset
  | created ha hen hgs =>
    subst ha
    refine (outputs_of_discovers hgs).mono ?_
    rintro ⟨_, out⟩ ⟨rfl, hpkts⟩
    exact .created hi.command_eq hout hen hpkts
  | cancelled ha hinit hgs =>
    subst ha
    refine (outputs_of_discovers hgs).mono ?_
    rintro ⟨_, out⟩ ⟨rfl, hpkts⟩
    exact .cancelled hi.command_eq hout hinit hpkts
  | asked ha hadv hena hpend hown hinit hgs =>
    subst ha
    refine (outputs_of_packets fun o ho => isPacket_of_packet (hgs o ho)).mono ?_
    rintro ⟨_, out⟩ ⟨rfl, hpkts⟩
    exact .asked hi.packet_eq hadv hout hena hpend hown hinit hpkts
  | accepted ha hadv hinit hevents hgs =>
    subst ha hgs
    refine (outputs_of_connection (List.forall_mem_cons.mpr
      ⟨isPacket_of_packet (.inr rfl), fun o ho => isPacket_of_packet (.inl (hevents o ho))⟩)).mono
        ?_
    rintro ⟨_, out⟩ ⟨⟨handle, hmakes⟩, hinit', hpkts⟩
    rw [hinit] at hinit'
    exact .accepted hi.packet_eq hadv hmakes hinit' hpkts
  | completed ha hexp hinit hgs =>
    subst ha hgs
    refine (outputs_of_connection (P := fun _ => False) (List.forall_mem_nil _)).mono ?_
    rintro ⟨_, out⟩ ⟨⟨handle, hmakes⟩, hinit', hpkts⟩
    refine .completed hi.packet_eq hexp hmakes ?_ (List.eq_nil_iff_forall_not_mem.mpr hpkts)
    rw [hinit', hinit]
    exact connected_connected
      { s.initiator with pendingConnectRequest := none, connectEnable := false } _

/-! ## Commands that are refused -/

variable {r : Except ErrorCode (LeController × List Output)}

/-- What a command that is carried out does, its status aside. -/
def Leads (s : LeController) (i : Input) (r : LeController × List Output) : Prop :=
  ∀ out, packets out = packets r.2 → Effect s i r.1 out

/-- The effect of a command, from that of its handler. -/
theorem effect_answer {c} (hi : i.action = .command c) (h : Yields r (Leads s i)) :
    Effect s i (s.answer r).1 (s.answer r).2 := by
  cases r with
  | error => exact .aside hi (.refl s) rfl
  | ok r => exact h r rfl _ (by simp [answer])

theorem scheduleLeEvent_isEvent {code event} : ∀ t ∈ s.scheduleLeEvent code event, t.isEvent := by
  unfold scheduleLeEvent
  split
  · exact List.forall_mem_singleton.mpr rfl
  · rintro _ ⟨⟩

/-! ## Commands and packets about a connection -/

variable {handle : UInt16} {p : Packet}

/-- The commands about one connection. -/
theorem effect_onConnection {request} (hi : i.action = .command (.onConnection handle request)) :
    Effect s i (s.answer (s.onConnection handle fun c => s.request handle c request)).1
      (s.answer (s.onConnection handle fun c => s.request handle c request)).2 := by
  refine effect_answer hi ?_
  unfold onConnection
  split
  · exact .error
  · rename_i hc
    exact .map fun r hr out hout => .requested hi hc hr rfl rfl rfl hout

/-- LE Set PHY. -/
theorem effect_leSetPhy {noTransmit noReceive txPhys rxPhys}
    (hi : i.action = .command (.leSetPhy handle noTransmit noReceive txPhys rxPhys)) :
    Effect s i (s.answer (s.leSetPhy handle noTransmit noReceive txPhys rxPhys)).1
      (s.answer (s.leSetPhy handle noTransmit noReceive txPhys rxPhys)).2 := by
  refine effect_answer hi ?_
  unfold leSetPhy sendLlPhyReq
  split
  · exact .error
  · rename_i c hc
    refine .bind fun o ho => ?_
    obtain ⟨_, _, ho⟩ := bind_eq_ok.mp ho
    cases ho
    exact .ok fun out hout => .phyRequested hi hc rfl hout

theorem closed_tasks (s : LeController) (handle : UInt16) (reason : UInt8) :
    ∃ ts, (s.sendDisconnectionCompleteEvent handle reason).tasks = s.tasks ++ ts ∧
      ∀ t ∈ ts, t.isEvent := by
  refine ⟨_, rfl, ?_⟩
  split
  · exact List.forall_mem_singleton.mpr rfl
  · rintro _ ⟨⟩

/-- A connection leaves the table, and its end is reported. -/
theorem effect_closed {reason} (hi : i.action.closes)
    (hout : ∀ p ∈ packets out, ∃ reason, p.body = .disconnect reason) :
    Effect s i ({ s with leAclConnections :=
      s.leAclConnections.erase handle }.sendDisconnectionCompleteEvent handle reason) out := by
  obtain ⟨ts, hts, hevs⟩ := closed_tasks
    { s with leAclConnections := s.leAclConnections.erase handle } handle reason
  exact .closed hi rfl rfl hts hevs hout

/-- Disconnect closes one connection. -/
theorem disconnect_ok {hostReason controllerReason} (hi : i.action.closes) :
    Yields (s.disconnect handle hostReason controllerReason) (Leads s i) := by
  unfold disconnect
  split
  · exact .error
  · refine .ok fun out hout => effect_closed hi ?_
    rw [hout]
    exact List.forall_mem_singleton.mpr ⟨hostReason, rfl⟩

/-- Reset. -/
theorem effect_reset (hi : i.action = .command (.gap .reset)) :
    Effect s i (s.answer (.ok (s.reset i.env))).1 (s.answer (.ok (s.reset i.env))).2 := by
  refine .reset hi rfl rfl rfl ?_
  intro p hp
  have hp' : p ∈ packets ((s.reset i.env).2 ++ [.event (.gap (.status .success))]) := hp
  rw [packets_append] at hp'
  simp only [reset, disconnectAll, packets, List.filterMap_map, List.mem_append, List.mem_filterMap]
    at hp'
  rcases hp' with ⟨c, _, hc⟩ | ⟨o, ho, hpkt⟩
  · cases hc
    exact ⟨_, rfl⟩
  · cases List.mem_singleton.mp ho
    cases hpkt

/-- **The effect of a command**. -/
theorem effect_of_command {c} (hi : i.action = .command c) :
    Yields (s.command i.env c) fun r => Effect s i r.1 r.2 := by
  cases c with
  | gap c =>
    have htakes : Takes i.action (.command c) := hi ▸ .command c
    cases c with
    | reset => exact .ok (effect_reset hi)
    | _ => exact effect_of_outside htakes nofun
  | setEventMaskPage2 => exact .ok (.aside hi ⟨rfl, rfl, rfl⟩ rfl)
  | leSetDefaultPhy =>
    exact .ok (effect_answer hi (.bind fun _ _ => .ok fun _ hout => .aside hi ⟨rfl, rfl, rfl⟩ hout))
  | leSetDefaultSubrate =>
    refine .ok (effect_answer hi ?_)
    iterate 6 refine .bind fun _ _ => ?_
    exact .ok fun _ hout => .aside hi ⟨rfl, rfl, rfl⟩ hout
  | disconnect => exact .ok (effect_answer hi (disconnect_ok (by rw [hi]; rfl)))
  | leSetPhy => exact .ok (effect_leSetPhy hi)
  | onConnection => exact .ok (effect_onConnection hi)

/-- The packets about one connection. -/
theorem effect_incomingOnConnection (hi : i.action = .packet p)
    (hb : p.body.isProcedure ∨ ∃ reason, p.body = .disconnect reason) :
    Yields (s.incomingOnConnection i.env p) fun r => Effect s i r.1 r.2 := by
  unfold incomingOnConnection
  split
  · rename_i hn
    exact .ok (.dropped hi rfl rfl hn)
  · rename_i handle hh
    refine .bind fun c hc => ?_
    rw [assertSome_eq_ok] at hc
    split
    · rename_i reason hdisc
      have hcloses : i.action.closes := by
        obtain ⟨_, _, body⟩ := p
        cases (show body = _ from hdisc)
        rw [hi]
        rfl
      exact .bind fun _ _ => .ok (effect_closed hcloses (List.forall_mem_nil _))
    · rename_i hnot
      obtain ⟨c', hc', hends⟩ := HashMap.mem_of_keyBy hh
      rw [show s.leAclConnections[handle]? = some c from hc] at hc'
      cases hc'
      have hproc := hb.resolve_right fun hdisc => hdisc.elim hnot
      exact .bind fun _ hr => .ok (.received hi hproc hc hends hr rfl rfl rfl rfl)

/-- **The effect of a packet**. -/
theorem effect_of_packet (hi : i.action = .packet p) :
    Yields (s.incomingPacket i.env p) fun r => Effect s i r.1 r.2 := by
  obtain ⟨source, destination, body⟩ := p
  cases body with
  | gap body =>
    exact effect_of_outside (hi ▸ .packet _ _ ⟨source, destination, body⟩) nofun
  | disconnect reason => exact effect_incomingOnConnection hi (.inr ⟨reason, rfl⟩)
  | _ => exact effect_incomingOnConnection hi (.inl rfl)

/-- The first task is run. -/
theorem effect_of_runTask (hi : i.action = .runTask) : Effect s i s.runTask.1 s.runTask.2 := by
  unfold runTask
  split
  · rename_i hts
    refine .ran hi rfl rfl (by rw [hts]; rfl) ?_ rfl
    rw [hts]
    nofun
  · rename_i hts
    refine .ran hi rfl rfl (by rw [hts]; rfl) ?_ rfl
    rw [hts]
    nofun
  · rename_i hts
    dsimp only
    split
    · rename_i hn
      refine .ran hi rfl rfl (by rw [hts]; rfl) ?_ rfl
      intro handle rand ediv ltk hhead
      rw [hts] at hhead
      cases hhead
      exact hn
    · rename_i hc
      exact .encrypting hi hts hc rfl rfl (List.append_nil _) rfl

/-- **The effect of a step**. -/
theorem effect_of_step {r} (h : s.step i = .ok r) : Effect s i r.1 r.2 := by
  suffices hstep : Yields (s.step i) fun r => Effect s i r.1 r.2 from hstep r h
  unfold step
  split
  · rename_i hi
    exact effect_of_command hi
  · rename_i hi
    exact effect_of_packet hi
  · rename_i hi
    exact .ok (effect_of_runTask hi)
  · rename_i hi
    exact effect_of_outside (hi ▸ .tick) nofun
  · rename_i handle hi
    unfold expire
    split
    · exact .ok (.ended rfl rfl ⟨handle, hi⟩)
    · rename_i hdisc
      exact .ok (disconnect_ok (by rw [hi]; rfl) _ hdisc _ rfl)

end LeController

end RootCanal.LeAcl
