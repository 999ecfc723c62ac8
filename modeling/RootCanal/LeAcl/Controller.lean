import RootCanal.Gap.Handlers
import RootCanal.Controller.ConnectionHandle

/-!
# The LE controller and its connections

`Gap` is the model of the LE controller outside of its connections.  Here are the connections
(`LeAclConnection`), the preferences of the host about them, and the tasks.  The state has that of
`Gap` as a part, and so have the commands, the packets and the events.

`Env` is what a handler reads besides its arguments and the state: for the connections, the order in
which their table is visited.

Left out are channel sounding and the isochronous streams, of which `Le.Isochronous` is a model.
The link layer keeps one link for each connection; its assertions, that a link is added or removed,
hold as handles are unused before and used after.

Source: `le_controller.h`, `le_acl_connection.h`, `hci_packets.pdl`
-/

namespace RootCanal.LeAcl

open Lib RootCanal.Hci RootCanal.Gap

/-! ## Connections -/

/-- The PHYs of a connection. -/
inductive PhyType
  | le1m
  | le2m
  | leCoded
deriving DecidableEq, Repr

/-- The parameters of a connection. -/
structure LeAclConnectionParameters where
  connInterval : UInt16
  connSubrateFactor : UInt16
  connContinuationNumber : UInt16
  connPeripheralLatency : UInt16
  connSupervisionTimeout : UInt16
deriving DecidableEq, Repr

/-- The subrate parameters of a connection. -/
structure LeAclSubrateParameters where
  subrateMin : UInt16 := 1
  subrateMax : UInt16 := 1
  maxLatency : UInt16 := 0
  continuationNumber : UInt16 := 0
  supervisionTimeout : UInt16 := 0x0c80
deriving DecidableEq, Repr

/-- A long term key.
Source: `kLtkSize` -/
abbrev Ltk := BitVec 128

/-- A connection. -/
structure LeAclConnection where
  handle : UInt16
  address : AddressWithType
  ownAddress : AddressWithType
  resolvedAddress : AddressWithType
  role : Role
  parameters : LeAclConnectionParameters
  subrateParameters : LeAclSubrateParameters
  ltk : Option Ltk := none
  encrypted : Bool := false
  txPhy : PhyType := .le1m
  rxPhy : PhyType := .le1m
  initiatedPhyUpdate : Bool := false
deriving DecidableEq, Repr

/-- The two addresses by which the packets of a connection find it. -/
def LeAclConnection.ends (c : LeAclConnection) : Address × Address :=
  (c.ownAddress.address, c.address.address)

/-! ## Packets -/

/-- The packets of the LE controller.
Source: `link_layer_packets.pdl`, the packets of these names -/
inductive Body
  /-- A packet by which devices find each other or connect. -/
  | gap (body : Gap.Body)
  | disconnect (reason : UInt8)
  | leConnectionParameterRequest (intervalMin intervalMax latency timeout : UInt16)
  | leConnectionParameterUpdate (status : UInt8) (interval latency timeout : UInt16)
  | leEncryptConnection (rand : UInt64) (ediv : UInt16) (ltk : Ltk)
  | leEncryptConnectionResponse (status : UInt8) (rand : UInt64) (ediv : UInt16) (ltk : Ltk)
  | llPhyReq (txPhys rxPhys : UInt8)
  | llPhyRsp (txPhys rxPhys : UInt8)
  | llPhyUpdateInd (phyCToP phyPToC : UInt8) (instant : UInt16)
  | llSubrateReq (subrateFactorMin subrateFactorMax maxLatency continuationNumber timeout : UInt16)
  | llSubrateInd (status : UInt8)
      (subrateFactor subrateBaseEvent latency continuationNumber timeout : UInt16)
deriving DecidableEq, Repr

/-- A link layer packet of LE connections. -/
abbrev Packet := LinkLayerPacket Body

/-! ## Events -/

/-- The events of the LE controller about its connections.
Source: `hci_packets.pdl`, the events of these names -/
inductive Event
  /-- An event about devices that are found, or the status of a command. -/
  | gap (event : Gap.Event)
  | disconnectionComplete (handle : UInt16) (reason : UInt8)
  | encryptionChange (status : UInt8) (handle : UInt16) (enabled : Bool)
  | encryptionChangeV2 (status : UInt8) (handle : UInt16) (enabled : Bool) (keySize : UInt8)
  | encryptionKeyRefreshComplete (status : UInt8) (handle : UInt16)
  | leConnectionComplete (status : ErrorCode) (handle : UInt16) (role : Role)
      (peer : AddressWithType) (interval latency timeout : UInt16)
  | leEnhancedConnectionCompleteV1 (status : ErrorCode) (handle : UInt16) (role : Role)
      (peer : AddressWithType) (localResolvable peerResolvable : Address)
      (interval latency timeout : UInt16)
  | leConnectionUpdateComplete (status : UInt8) (handle interval latency timeout : UInt16)
  | leLongTermKeyRequest (handle : UInt16) (rand : UInt64) (ediv : UInt16)
  | leRemoteConnectionParameterRequest (handle intervalMin intervalMax latency timeout : UInt16)
  | lePhyUpdateComplete (status : ErrorCode) (handle : UInt16) (txPhy rxPhy : PhyType)
  | leChannelSelectionAlgorithm (handle : UInt16)
  | leSubrateChange (status : UInt8)
      (handle subrateFactor peripheralLatency continuationNumber supervisionTimeout : UInt16)
deriving DecidableEq, Repr

/-- What the controller sends. -/
inductive Output
  | event (event : Event)
  | packet (packet : Packet)
deriving DecidableEq, Repr

/-- The packet among the outputs of a controller. -/
def Output.packet? : Output → Option Packet
  | event _ => none
  | packet p => some p

/-- What the controller has scheduled to do as soon as it can. -/
inductive Task
  | sendEvent (event : Event)
  | handleLeEnableEncryption (handle : UInt16) (rand : UInt64) (ediv : UInt16) (ltk : Ltk)
deriving DecidableEq, Repr

/-! ## State -/

/-- The state of the controller that connections depend on. -/
structure LeController extends Gap.State where
  eventMaskPage2 : UInt64 := 0
  defaultSubrateParameters : LeAclSubrateParameters := {}
  /-- Source: `acl_connection_handler.h` `le_acl_connections_` -/
  leAclConnections : HashMap UInt16 LeAclConnection := ∅
  /-- Source: `acl_connection_handler.h` `last_le_acl_handle_` -/
  lastLeAclHandle : UInt16 := ConnectionHandle.kLeAclRangeStart
  defaultTxPhys : UInt8 := 0x1
  defaultRxPhys : UInt8 := 0x1
  requestedTxPhys : UInt8 := 0x1
  requestedRxPhys : UInt8 := 0x1
  /-- Source: `task_queue_` -/
  tasks : List Task := []

/-- What a handler reads besides its arguments and the state. -/
structure Env extends Gap.Env where
  /-- The order in which `le_acl_connections_` is visited. -/
  leOrder : IterOrder UInt16
  /-- The bytes of the packet that arrives. -/
  bytes : List UInt8
  /-- The strength of its signal. -/
  rssi : UInt8

/-- An environment at a time. -/
def Env.bare (now : Nat) : Env where
  toEnv := .at now
  leOrder := IterOrder.id _
  bytes := []
  rssi := 0

namespace LeController

/-- Source: `LeController::LeController` -/
def new (address : Address) (properties : ControllerProperties) : LeController where
  address := address
  properties := properties

/-! ## Events and tasks -/

/-- The host wants this event. -/
def isEventUnmasked (s : LeController) (code : EventCode) : Bool :=
  if code.toNat ≤ 64 then s.eventMask.toNat.testBit (code.toNat - 1)
  else s.eventMaskPage2.toNat.testBit (code.toNat - 64 - 1)

/-- Send an event that the host has not masked. -/
def sendEvent (s : LeController) (code : EventCode) (event : Event) : List Output :=
  if s.isEventUnmasked code then [.event event] else []

/-- Send an LE event that the host has not masked. -/
def sendLeEvent (s : LeController) (code : SubeventCode) (event : Event) : List Output :=
  if s.isLeEventUnmasked code then [.event event] else []

/-- Schedule an LE event that the host has not masked. -/
def scheduleLeEvent (s : LeController) (code : SubeventCode) (event : Event) : List Task :=
  if s.isLeEventUnmasked code then [.sendEvent event] else []

/-- Source: `ScheduleTask` -/
def schedule (s : LeController) (tasks : List Task) : LeController :=
  { s with tasks := s.tasks ++ tasks }

/-- The end of a connection is reported, if it is unmasked. -/
def sendDisconnectionCompleteEvent (s : LeController) (handle : UInt16) (reason : UInt8) :
    LeController :=
  s.schedule (if s.isEventUnmasked .disconnectionComplete then
    [.sendEvent (.disconnectionComplete handle reason)] else [])

/-! ## The table of connections -/

/-- The handle of the connection between the addresses. -/
def getLeAclConnectionHandle (s : LeController) (env : Env) (localAddress remoteAddress : Address) :
    Option UInt16 :=
  s.leAclConnections.keyBy env.leOrder LeAclConnection.ends (localAddress, remoteAddress)

/-- A connection is made under an unused handle. -/
def createLeConnection (s : LeController) (address resolvedAddress ownAddress : AddressWithType)
    (role : Role) (parameters : LeAclConnectionParameters) :
    Except Panic (LeController × UInt16) := do
  let (handle, last) ← ConnectionHandle.getUnusedHandle s.leAclConnections
    ConnectionHandle.kLeAclRangeStart ConnectionHandle.kLeAclRangeEnd s.lastLeAclHandle
  let connection : LeAclConnection :=
    { handle := handle
      address := address
      ownAddress := ownAddress
      resolvedAddress := resolvedAddress
      role := role
      parameters := parameters
      subrateParameters := s.defaultSubrateParameters }
  .ok (
    { s with
      leAclConnections := s.leAclConnections.insert handle connection
      lastLeAclHandle := last }, handle)

end LeController

end RootCanal.LeAcl
