import RootCanal.BrEdr.Controller

/-!
# What the BR/EDR controller does

The commands of the host, the packets of the peers and the passing of time, and the machine of which
they are the inputs.

A command answers with a status.  The other handlers return what they send at once; what a handler
schedules is in the tasks of the state it returns.

Source: `bredr_controller.cc`
-/

namespace RootCanal.BrEdr

open Lib RootCanal.Hci

/-- Source: `kPageInterval`, in microseconds -/
def kPageInterval : Nat := 1000 * 1000

/-- The duration of some slots, in microseconds. -/
def slots (count : UInt16) : Nat := count.toNat * 625

/-- The other role. -/
def otherRole : Role → Role
  | .central => .peripheral
  | .peripheral => .central

/-- The fields of the event that a synchronous connection is complete which depend on the link.
Source: `AcceptSynchronousConnection`,
`IncomingScoConnectionResponse` -/
def synchronousConnectionComplete (status : UInt8) (handle : UInt16) (bdAddr : Address)
    (link : ScoLinkParameters) : Event :=
  if link.extended then
    .synchronousConnectionComplete status handle bdAddr .esco link.transmissionInterval
      link.retransmissionWindow link.rxPacketLength link.txPacketLength link.airMode
  else .synchronousConnectionComplete status handle bdAddr .sco 0 0 0 0 link.airMode

/-- Source: `hci_packets.pdl` `ScoAirMode::TRANSPARENT` -/
def transparentAirMode : UInt8 := 0x03

namespace BrEdrController

/-! ## Commands -/

/-- The `HCI_Create_Connection` command. -/
def createConnection (s : BrEdrController) (env : Env) (bdAddr : Address) (allowRoleSwitch : Bool) :
    BrEdrController × ErrorCode :=
  if s.page.isSome then (s, .commandDisallowed)
  else if (s.getAclConnectionHandle env bdAddr).isSome then (s, .connectionAlreadyExists)
  else if s.pageScan.any fun scan => scan.bdAddr = bdAddr then (s, .connectionAlreadyExists)
  else
    let page : PageState :=
      { bdAddr := bdAddr
        allowRoleSwitch := allowRoleSwitch
        nextPageEvent := env.now + kPageInterval
        pageTimeout := env.now + slots s.pageTimeout }
    ({ s with page := some page }, .success)

/-- Close the synchronous connection with a peer, if there is one, before its ACL connection. -/
def disconnectSco (s : BrEdrController) (env : Env) (connection : AclConnection)
    (hostReason controllerReason : UInt8) : BrEdrController :=
  match s.getScoConnectionHandle env connection.address with
  | none => s
  | some handle =>
    let s := s.sendLinkLayerPacket connection.ownAddress connection.address
        (.scoDisconnect hostReason)
    (s.removeScoConnection handle).sendDisconnectionCompleteEvent handle controllerReason

/-- The `HCI_Disconnect` command. -/
def disconnect (s : BrEdrController) (env : Env) (handle : UInt16)
    (hostReason controllerReason : UInt8) : Except Panic (BrEdrController × ErrorCode) :=
  match s.scoConnections[handle]? with
  | some connection =>
    let s := s.sendLinkLayerPacket s.address connection.address (.scoDisconnect hostReason)
    .ok ((s.removeScoConnection handle).sendDisconnectionCompleteEvent handle controllerReason,
      .success)
  | none =>
    match s.aclConnections[handle]? with
    | none => .ok (s, .unknownConnection)
    | some connection => do
      let s := s.disconnectSco env connection hostReason controllerReason
      let s := s.sendLinkLayerPacket connection.ownAddress connection.address
          (.disconnect hostReason)
      let s ← s.removeAclConnection env handle connection.address
      .ok (s.sendDisconnectionCompleteEvent handle controllerReason, .success)

/-- The `HCI_Create_Connection_Cancel` command. -/
def createConnectionCancel (s : BrEdrController) (bdAddr : Address) : BrEdrController × ErrorCode :=
  if s.page.any fun page => page.bdAddr = bdAddr then
    let s := s.scheduleEvent .connectionComplete
      (.connectionComplete ErrorCode.unknownConnection.toUInt8 0 bdAddr .acl)
    ({ s with page := none }, .success)
  else (s, .unknownConnection)

/-- The role of the acceptor. -/
def acceptorRole (scan : PageScanState) (tryRoleSwitch : Bool) : Role :=
  if tryRoleSwitch && scan.allowRoleSwitch then .central else .peripheral

/-- The events of an accepted page: the change of role comes before the connection. -/
def scheduleAccepted (s : BrEdrController) (bdAddr : Address) (role : Role) (handle : UInt16) :
    BrEdrController :=
  let s := if role = .central then
      s.scheduleEvent .roleChange (.roleChange ErrorCode.success.toUInt8 bdAddr role)
    else s
  s.scheduleEvent .connectionComplete
    (.connectionComplete ErrorCode.success.toUInt8 handle bdAddr .acl)

/-- Accept a page. -/
def acceptPage (s : BrEdrController) (env : Env) (scan : PageScanState) (tryRoleSwitch : Bool) :
    Except Panic (BrEdrController × ErrorCode) :=
  let bdAddr := scan.bdAddr
  if (s.getAclConnectionHandle env bdAddr).isSome then .ok (s, .success)
  else do
    let role := acceptorRole scan tryRoleSwitch
    let (handle, s) ← s.createAclConnection bdAddr role
    let s := s.scheduleAccepted bdAddr role handle
    let s := s.sendLinkLayerPacket s.address bdAddr (.pageResponse tryRoleSwitch)
    let page := s.page.filter fun page => page.bdAddr ≠ bdAddr
    .ok ({ s with page := page, pageScan := none }, .success)

/-- Open a synchronous connection with the parameters the host asks, or erase it if they cannot be
met.
Source: `AcceptConnectionRequest`,
`AcceptSynchronousConnection` -/
def concludeSco (s : BrEdrController) (handle : UInt16) (connection : ScoConnection)
    (parameters : ScoConnectionParameters) (failure : ErrorCode) :
    Except Panic (BrEdrController × ErrorCode × UInt16 × ScoLinkParameters) :=
  match connection.negotiateLinkParameters parameters with
  | none => do
    let s ← s.cancelScoConnection handle connection
    .ok (s, failure, 0, ScoLinkParameters.zero)
  | some link => do
    let s ← s.openScoConnection handle connection link
    .ok (s, .success, handle, link)

/-- Answer the request for a synchronous connection.
Source: `AcceptConnectionRequest`,
`AcceptSynchronousConnection` -/
def acceptSco (s : BrEdrController) (handle : UInt16) (connection : ScoConnection)
    (parameters : ScoConnectionParameters) (failure : ErrorCode) :
    Except Panic (BrEdrController × ErrorCode × UInt16 × ScoLinkParameters) := do
  let (s, status, handle, link) ← s.concludeSco handle connection parameters failure
  let s := s.sendLinkLayerPacket s.address connection.address
      (.scoConnectionResponse status.toUInt8 link)
  .ok (s, status, handle, link)

/-- The `HCI_Accept_Connection_Request` command. -/
def acceptConnectionRequest (s : BrEdrController) (env : Env) (bdAddr : Address)
    (tryRoleSwitch : Bool) : Except Panic (BrEdrController × ErrorCode) :=
  match s.pageScan.filter fun scan => scan.bdAddr = bdAddr with
  | some scan => s.acceptPage env scan tryRoleSwitch
  | none =>
    match s.pendingScoConnection env bdAddr with
    | none => .ok (s, .unknownConnection)
    | some (handle, connection) => do
      let (s, status, handle, _) ←
        s.acceptSco handle connection connection.parameters .scoIntervalRejected
      .ok
        (s.scheduleEvent .connectionComplete
        (.connectionComplete status.toUInt8 handle bdAddr .sco), .success)

/-- The `HCI_Reject_Connection_Request` command. -/
def rejectConnectionRequest (s : BrEdrController) (bdAddr : Address) (reason : UInt8) :
    BrEdrController × ErrorCode :=
  if s.pageScan.any fun scan => scan.bdAddr = bdAddr then
    (s.schedule (.rejectPeripheralConnection bdAddr reason), .success)
  else (s, .unknownConnection)

/-- Ask a peer for a synchronous connection.
Source: `AddScoConnection`,
`SetupSynchronousConnection` -/
def requestSco (s : BrEdrController) (env : Env) (connectionHandle : UInt16)
    (parameters : ScoConnectionParameters) (datapath : ScoDatapath) (legacy : Bool) :
    Except Panic (BrEdrController × ErrorCode) :=
  match s.aclConnections[connectionHandle]? with
  | none => .ok (s, .unknownConnection)
  | some connection =>
    if (s.pendingScoConnection env connection.address).isSome then .ok (s, .commandDisallowed)
    else do
      let s ← s.createScoConnection connection.address parameters .pending datapath legacy
      .ok (s.sendLinkLayerPacket s.address connection.address
        (.scoConnectionRequest parameters s.classOfDevice), .success)

/-- The parameters of the deprecated command, with the HV packets at the bits of today. -/
def addScoParameters (packetType : UInt16) : ScoConnectionParameters where
  transmitBandwidth := 8000
  receiveBandwidth := 8000
  maxLatency := 0xffff
  voiceSetting := 0x60
  retransmissionEffort := RetransmissionEffort.noRetransmission
  packetType := ((packetType >>> 5) &&& 0x7) ||| SynchronousPacketTypeBits.no2Ev3Allowed |||
    SynchronousPacketTypeBits.no3Ev3Allowed ||| SynchronousPacketTypeBits.no2Ev5Allowed |||
    SynchronousPacketTypeBits.no3Ev5Allowed

/-- The `HCI_Add_SCO_Connection` command: only HV packets, no retransmission. -/
def addScoConnection (s : BrEdrController) (env : Env) (connectionHandle packetType : UInt16) :
    Except Panic (BrEdrController × ErrorCode) :=
  s.requestSco env connectionHandle (addScoParameters packetType) .normal true

/-- The `HCI_Setup_Synchronous_Connection` command. -/
def setupSynchronousConnection (s : BrEdrController) (env : Env) (connectionHandle : UInt16)
    (parameters : ScoConnectionParameters) (datapath : ScoDatapath) :
    Except Panic (BrEdrController × ErrorCode) :=
  s.requestSco env connectionHandle parameters datapath false

/-- The `HCI_Accept_Synchronous_Connection_Request` command. -/
def acceptSynchronousConnection (s : BrEdrController) (env : Env) (bdAddr : Address)
    (parameters : ScoConnectionParameters) : Except Panic (BrEdrController × ErrorCode) :=
  match s.pendingScoConnection env bdAddr with
  | none => .ok (s, .commandDisallowed)
  | some (handle, connection) => do
    let (s, status, handle, link) ← s.acceptSco handle connection parameters .statusUnknown
    .ok (s.schedule (.event (synchronousConnectionComplete status.toUInt8 handle bdAddr link)),
      .success)

/-- The `HCI_Reject_Synchronous_Connection_Request` command. -/
def rejectSynchronousConnection (s : BrEdrController) (env : Env) (bdAddr : Address)
    (reason : UInt8) : Except Panic (BrEdrController × ErrorCode) :=
  let reason := if reason = ErrorCode.success.toUInt8 then
    ErrorCode.remoteUserTerminatedConnection.toUInt8 else reason
  match s.pendingScoConnection env bdAddr with
  | none => .ok (s, .commandDisallowed)
  | some (handle, connection) => do
    let s ← s.cancelScoConnection handle connection
    let s := s.sendLinkLayerPacket s.address bdAddr (.scoConnectionResponse reason .zero)
    .ok (s.schedule (.event
      (.synchronousConnectionComplete reason 0 bdAddr .esco 0 0 0 0 transparentAirMode)), .success)

/-- The role of a connection is changed. -/
def setRole (s : BrEdrController) (handle : UInt16) (role : Role) : BrEdrController :=
  { s with aclConnections := s.aclConnections.modify handle fun connection =>
      { connection with role := role } }

/-- The connection is in active mode: no command changes the mode. -/
def switchRole (s : BrEdrController) (env : Env) (bdAddr : Address) (role : Role) :
    BrEdrController × ErrorCode :=
  match (s.getAclConnectionHandle env bdAddr).bind fun handle => s.aclConnections[handle]? with
  | none => (s, .unknownConnection)
  | some connection =>
    if (s.getScoConnectionHandle env bdAddr).isSome then (s, .commandDisallowed)
    else if role ≠ connection.role then
      (s.sendLinkLayerPacket s.address bdAddr .roleSwitchRequest, .success)
    else
      (s.scheduleEvent .roleChange (.roleChange ErrorCode.roleSwitchFailed.toUInt8 bdAddr role),
        .success)

/-- The `HCI_Write_Link_Policy_Settings` command. -/
def writeLinkPolicySettings (s : BrEdrController) (connectionHandle linkPolicySettings : UInt16) :
    BrEdrController × ErrorCode :=
  if (s.aclConnections[connectionHandle]?).isNone then (s, .unknownConnection)
  else if linkPolicySettings > 7 then (s, .invalidHciCommandParameters)
  else
    ({ s with aclConnections := s.aclConnections.modify connectionHandle fun connection =>
        { connection with linkPolicySettings := linkPolicySettings } }, .success)

/-- The `HCI_Write_Default_Link_Policy_Settings` command. -/
def writeDefaultLinkPolicySettings (s : BrEdrController) (defaultLinkPolicySettings : UInt16) :
    BrEdrController × ErrorCode :=
  if defaultLinkPolicySettings > 7 then (s, .invalidHciCommandParameters)
  else ({ s with defaultLinkPolicySettings := defaultLinkPolicySettings }, .success)

/-- Tell every peer that its connections are closed; the connections themselves are left as they
are. -/
def disconnectAll (s : BrEdrController) (env : Env) (reason : UInt8) : BrEdrController :=
  let sco := (HashMap.values env.scoOrder s.scoConnections).map fun connection =>
    Task.send ⟨s.address, connection.address, .scoDisconnect reason⟩
  let acl := (HashMap.values env.aclOrder s.aclConnections).map fun connection =>
    Task.send ⟨connection.ownAddress, connection.address, .disconnect reason⟩
  { s with tasks := s.tasks ++ sco ++ acl }

/-- The tasks that were scheduled before stay. -/
def reset (s : BrEdrController) (env : Env) : BrEdrController :=
  { new s.address with
    tasks := (s.disconnectAll env ErrorCode.remoteUserTerminatedConnection.toUInt8).tasks }

/-! ## Packets -/

/-- Source: `IncomingPagePacket` -/
def incomingPage (s : BrEdrController) (env : Env) (bdAddr : Address) (classOfDevice : UInt32)
    (allowRoleSwitch : Bool) : BrEdrController × List Output :=
  if !s.pageScanEnable then (s, [])
  else if !s.isEventUnmasked .connectionRequest then
    (s.sendLinkLayerPacket s.address bdAddr (.pageReject ErrorCode.connectionTimeout.toUInt8), [])
  else if (s.getAclConnectionHandle env bdAddr).isSome then (s, [])
  else if s.pageScan.isSome then (s, [])
  else
    ({ s with pageScan := some ⟨bdAddr, allowRoleSwitch⟩ },
      [.event (.connectionRequest bdAddr classOfDevice .acl)])

/-- Source: `IncomingPageRejectPacket` -/
def incomingPageReject (s : BrEdrController) (bdAddr : Address) (reason : UInt8) :
    BrEdrController × List Output :=
  if s.page.any fun page => page.bdAddr = bdAddr then
    ({ s with page := none },
      s.sendEvent .connectionComplete (.connectionComplete reason 0 bdAddr .acl))
  else (s, [])

/-- The role of the initiator.
Source: `IncomingPageResponsePacket` -/
def initiatorRole (page : PageState) (tryRoleSwitch : Bool) : Role :=
  if page.allowRoleSwitch && tryRoleSwitch then .peripheral else .central

/-- Source: `IncomingPageResponsePacket` -/
def incomingPageResponse (s : BrEdrController) (bdAddr : Address) (tryRoleSwitch : Bool) :
    Except Panic (BrEdrController × List Output) :=
  match s.page.filter fun page => page.bdAddr = bdAddr with
  | none => .ok (s, [])
  | some page => do
    let role := initiatorRole page tryRoleSwitch
    let (handle, s) ← s.createAclConnection bdAddr role
    let roleChange := if role = .peripheral then
        s.sendEvent .roleChange (.roleChange ErrorCode.success.toUInt8 bdAddr role)
      else []
    .ok ({ s with page := none }, roleChange ++ s.sendEvent .connectionComplete
      (.connectionComplete ErrorCode.success.toUInt8 handle bdAddr .acl))

/-- Source: `IncomingDisconnectPacket` -/
def incomingDisconnect (s : BrEdrController) (env : Env) (peer : Address) (reason : UInt8) :
    Except Panic BrEdrController :=
  match s.getAclConnectionHandle env peer with
  | none => .ok s
  | some handle => do
    let s ← s.removeAclConnection env handle peer
    .ok (s.sendDisconnectionCompleteEvent handle reason)

/-- The peer wants the other role. -/
def incomingRoleSwitchRequest (s : BrEdrController) (env : Env) (bdAddr : Address) :
    BrEdrController :=
  match s.getAclConnectionHandle env bdAddr with
  | none => s
  | some handle =>
    match s.aclConnections[handle]? with
    | none => s
    | some connection =>
      if !connection.isRoleSwitchEnabled then
        s.sendLinkLayerPacket s.address bdAddr
          (.roleSwitchResponse ErrorCode.roleChangeNotAllowed.toUInt8)
      else
        let s :=
            s.sendLinkLayerPacket s.address bdAddr (.roleSwitchResponse ErrorCode.success.toUInt8)
        let s := s.setRole handle (otherRole connection.role)
        s.scheduleEvent .roleChange
          (.roleChange ErrorCode.success.toUInt8 bdAddr (otherRole connection.role))

/-- The peer answers a role switch. -/
def incomingRoleSwitchResponse (s : BrEdrController) (env : Env) (bdAddr : Address)
    (status : UInt8) : BrEdrController :=
  match s.getAclConnectionHandle env bdAddr with
  | none => s
  | some handle =>
    match s.aclConnections[handle]? with
    | none => s
    | some connection =>
      let newRole := if status ≠ ErrorCode.success.toUInt8 then connection.role
        else otherRole connection.role
      (s.setRole handle newRole).scheduleEvent .roleChange (.roleChange status bdAddr newRole)

/-- There need be no ACL connection with the peer. -/
def incomingScoConnectionRequest (s : BrEdrController) (env : Env) (address : Address)
    (parameters : ScoConnectionParameters) (classOfDevice : UInt32) :
    Except Panic (BrEdrController × List Output) :=
  if (s.pendingScoConnection env address).isSome then
    .ok (s.sendLinkLayerPacket s.address address (.scoConnectionResponse
      ErrorCode.synchronousConnectionLimitExceeded.toUInt8 .zero), [])
  else do
    let extended := parameters.isExtended
    let state := if extended then ScoState.sentEscoConnectionRequest else .sentScoConnectionRequest
    let s ← s.createScoConnection address parameters state .normal false
    .ok (s, [.event (.connectionRequest address classOfDevice (if extended then .esco else .sco))])

/-- The connection need not be pending. -/
def incomingScoConnectionResponse (s : BrEdrController) (env : Env) (address : Address)
    (status : UInt8) (link : ScoLinkParameters) : Except Panic (BrEdrController × List Output) :=
  match s.getScoConnection env address with
  | none => .ok (s, [])
  | some (handle, connection) =>
    if status = ErrorCode.success.toUInt8 then do
      let s ← s.openScoConnection handle connection link
      .ok (s, [.event (if connection.legacy then .connectionComplete status handle address .sco
        else synchronousConnectionComplete status handle address link)])
    else do
      let s ← s.cancelScoConnection handle connection
      -- the source reads the parameters after the connection is erased: those of another
      -- connection with the peer, or zeros
      let packetType := match s.getScoConnection env address with
        | none => 0
        | some (_, other) => other.parameters.packetType
      let extended := ScoConnectionParameters.isExtended ⟨0, 0, 0, 0, 0, packetType⟩
      .ok (s, [.event (if connection.legacy then .connectionComplete status 0 address .sco
        else .synchronousConnectionComplete status 0 address (if extended then .esco else .sco)
          0 0 0 0 transparentAirMode)])

/-- The peer closes a synchronous connection. -/
def incomingScoDisconnect (s : BrEdrController) (env : Env) (address : Address) (reason : UInt8) :
    BrEdrController :=
  match s.getScoConnectionHandle env address with
  | none => s
  | some handle => (s.removeScoConnection handle).sendDisconnectionCompleteEvent handle reason

/-- The packet types of the source. -/
def receive (s : BrEdrController) (env : Env) (source destination : Address) :
    Body → Except Panic (BrEdrController × List Output)
  | .page classOfDevice allowRoleSwitch =>
    .ok (s.incomingPage env source classOfDevice allowRoleSwitch)
  | .pageResponse tryRoleSwitch => s.incomingPageResponse source tryRoleSwitch
  | .pageReject reason => .ok (s.incomingPageReject source reason)
  | .disconnect reason => do .ok (← s.incomingDisconnect env source reason, [])
  | .roleSwitchRequest => .ok (s.incomingRoleSwitchRequest env source, [])
  | .roleSwitchResponse status => .ok (s.incomingRoleSwitchResponse env source status, [])
  | .scoConnectionRequest parameters classOfDevice =>
    s.incomingScoConnectionRequest env source parameters classOfDevice
  | .scoConnectionResponse status link => s.incomingScoConnectionResponse env source status link
  | .scoDisconnect reason => .ok (s.incomingScoDisconnect env source reason, [])
  | .pingRequest => .ok (s.sendLinkLayerPacket destination source .pingResponse, [])
  | .pingResponse => .ok (s, [])

/-- A packet to another address is dropped. -/
def incomingPacket (s : BrEdrController) (env : Env) (packet : Packet) :
    Except Panic (BrEdrController × List Output) :=
  if packet.destinationAddress ≠ Address.kEmpty ∧ packet.destinationAddress ≠ s.address then
    .ok (s, [])
  else s.receive env packet.sourceAddress packet.destinationAddress packet.body

/-! ## Time -/

/-- Run the first task that is due.
Source: `RunPendingTasks`,
`RejectPeripheralConnection` -/
def runTask (s : BrEdrController) : BrEdrController × List Output :=
  match s.tasks with
  | [] => (s, [])
  | task :: tasks =>
    let s := { s with tasks := tasks }
    match task with
    | .send packet => (s, [.remote packet])
    | .event event => (s, [.event event])
    | .rejectPeripheralConnection bdAddr reason =>
      (s.sendLinkLayerPacket s.address bdAddr (.pageReject reason),
        s.sendEvent .connectionComplete (.connectionComplete reason 0xeff bdAddr .acl))

/-- The page goes on, or times out. -/
def paging (s : BrEdrController) (env : Env) : BrEdrController × List Output :=
  match s.page with
  | none => (s, [])
  | some page =>
    if env.now ≥ page.pageTimeout then
      ({ s with page := none },
        [.event (.connectionComplete ErrorCode.pageTimeout.toUInt8 0 page.bdAddr .acl)])
    else if env.now ≥ page.nextPageEvent ∧
        ¬ s.pageScan.any fun scan => scan.bdAddr = page.bdAddr then
      let s :=
          s.sendLinkLayerPacket s.address page.bdAddr (.page s.classOfDevice page.allowRoleSwitch)
      ({ s with page := some { page with nextPageEvent := env.now + kPageInterval } }, [])
    else (s, [])

/-- How close a connection is to its supervision timeout.
Source: `HasExpired`, `IsNearExpiring` -/
inductive Expiry
  | expired
  | nearExpiring
  | live
deriving DecidableEq, Repr

/-- The supervision timers of a connection are checked. -/
def checkExpiringConnection (s : BrEdrController) (env : Env) (handle : UInt16) (expiry : Expiry) :
    Except Panic BrEdrController :=
  match s.aclConnections[handle]? with
  | none => .ok s
  | some connection =>
    match expiry with
    | .expired => do
      let (s, _) ← s.disconnect env handle ErrorCode.connectionTimeout.toUInt8
        ErrorCode.connectionTimeout.toUInt8
      .ok s
    | .nearExpiring =>
      .ok (s.sendLinkLayerPacket connection.ownAddress connection.address .pingRequest)
    | .live => .ok s

end BrEdrController

/-! ## The machine -/

/-- Source: `dual_mode_controller.cc`, the commands that reach `BrEdrController` and concern its
connections -/
inductive Command
  | createConnection (bdAddr : Address) (allowRoleSwitch : Bool)
  | disconnect (connectionHandle : UInt16) (reason : UInt8)
  | createConnectionCancel (bdAddr : Address)
  | acceptConnectionRequest (bdAddr : Address) (tryRoleSwitch : Bool)
  | rejectConnectionRequest (bdAddr : Address) (reason : UInt8)
  | addScoConnection (connectionHandle packetType : UInt16)
  | setupSynchronousConnection (connectionHandle : UInt16) (parameters : ScoConnectionParameters)
      (datapath : ScoDatapath)
  | acceptSynchronousConnection (bdAddr : Address) (parameters : ScoConnectionParameters)
  | rejectSynchronousConnection (bdAddr : Address) (reason : UInt8)
  | switchRole (bdAddr : Address) (role : Role)
  | writeLinkPolicySettings (connectionHandle linkPolicySettings : UInt16)
  | writeDefaultLinkPolicySettings (defaultLinkPolicySettings : UInt16)
  | writeScanEnable (pageScan : Bool)
  | setEventMask (eventMask : UInt64)
  | setClassOfDevice (classOfDevice : UInt32)
  | setPageTimeout (pageTimeout : UInt16)
  | reset
deriving DecidableEq, Repr

/-- What a step of the controller is about. -/
inductive Action
  /-- The host sends a command. -/
  | command (command : Command)
  /-- A packet arrives. -/
  | packet (packet : Packet)
  /-- The first task is run. -/
  | task
  /-- The page is continued or given up. -/
  | paging
  /-- A timer of a connection fires. -/
  | checkExpiring (handle : UInt16) (expiry : BrEdrController.Expiry)
deriving DecidableEq, Repr

/-- An input of the controller: an action, and what is read from the environment. -/
structure Input where
  env : Env
  action : Action

namespace BrEdrController

/-- Source: `dual_mode_controller.cc` -/
def command (s : BrEdrController) (env : Env) : Command → Except Panic (BrEdrController × ErrorCode)
  | .createConnection bdAddr allow => .ok (s.createConnection env bdAddr allow)
  | .disconnect handle reason =>
    s.disconnect env handle reason ErrorCode.connectionTerminatedByLocalHost.toUInt8
  | .createConnectionCancel bdAddr => .ok (s.createConnectionCancel bdAddr)
  | .acceptConnectionRequest bdAddr try_ => s.acceptConnectionRequest env bdAddr try_
  | .rejectConnectionRequest bdAddr reason => .ok (s.rejectConnectionRequest bdAddr reason)
  | .addScoConnection handle packetType => s.addScoConnection env handle packetType
  | .setupSynchronousConnection handle parameters datapath =>
    s.setupSynchronousConnection env handle parameters datapath
  | .acceptSynchronousConnection bdAddr parameters =>
    s.acceptSynchronousConnection env bdAddr parameters
  | .rejectSynchronousConnection bdAddr reason => s.rejectSynchronousConnection env bdAddr reason
  | .switchRole bdAddr role => .ok (s.switchRole env bdAddr role)
  | .writeLinkPolicySettings handle settings => .ok (s.writeLinkPolicySettings handle settings)
  | .writeDefaultLinkPolicySettings settings => .ok (s.writeDefaultLinkPolicySettings settings)
  | .writeScanEnable pageScan => .ok ({ s with pageScanEnable := pageScan }, .success)
  | .setEventMask eventMask => .ok ({ s with eventMask := eventMask }, .success)
  | .setClassOfDevice classOfDevice => .ok ({ s with classOfDevice := classOfDevice }, .success)
  | .setPageTimeout pageTimeout => .ok ({ s with pageTimeout := pageTimeout }, .success)
  | .reset => .ok (s.reset env, .success)

/-- One input. -/
def step (s : BrEdrController) (i : Input) : Except Panic (BrEdrController × List Output) :=
  match i.action with
  | .command command => do
    let (s, status) ← s.command i.env command
    .ok (s, [.status status])
  | .packet packet => s.incomingPacket i.env packet
  | .task => .ok s.runTask
  | .paging => .ok (s.paging i.env)
  | .checkExpiring handle expiry => do
    .ok (← s.checkExpiringConnection i.env handle expiry, [])

end BrEdrController

/-- The BR/EDR controller as a machine. -/
def machine : Machine BrEdrController Input Output := ⟨BrEdrController.step⟩

end RootCanal.BrEdr
