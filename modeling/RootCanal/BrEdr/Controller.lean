import RootCanal.BrEdr.Sco
import RootCanal.Controller.ConnectionHandle
import RootCanal.Lib.Index
import RootCanal.Packets.Hci

/-!
# The BR/EDR controller

The connections of `BrEdrController`: paging and page scan, the ACL and the synchronous connections,
the role of each end, and the links of the link manager.

* A connection is made by one side paging and the other accepting: `createConnection` and `paging`
  on the one, `incomingPage` and `acceptConnectionRequest` on the other, `incomingPageResponse` on
  the first again.  Each has at most one page and one page scan at a time.
* What a handler sends, and most of its events, are scheduled as tasks without delay.  Such tasks
  run in the order they were scheduled in; `tasks` holds those that have not run, and `runTask` runs
  the first.  A `Tick` of the source is `runTask` for each task that is due, then `paging`.
* The tables are visited in the unspecified order of a hash map.  The orders and the time are in
  `Env`, an input of every step.

The supervision timer of a connection is the input `checkExpiring`, which may come at any time.
Left out are inquiry, ACL and SCO data, the remote features and names, and what the link manager
does on a link: they leave these tables alone.

Source: `bredr_controller.cc`, `acl_connection_handler.cc`, `rust/src/lmp/manager.rs`
-/

namespace RootCanal.BrEdr

open Lib RootCanal.Hci

/-! ## Packets and events -/

/-- The packets between BR/EDR controllers. `allowRoleSwitch` and `tryRoleSwitch` are octets that
are only compared with zero.
Source: `link_layer_packets.pdl` -/
inductive Body
  | page (classOfDevice : UInt32) (allowRoleSwitch : Bool)
  | pageResponse (tryRoleSwitch : Bool)
  | pageReject (reason : UInt8)
  | disconnect (reason : UInt8)
  | roleSwitchRequest
  | roleSwitchResponse (status : UInt8)
  | scoConnectionRequest (parameters : ScoConnectionParameters) (classOfDevice : UInt32)
  | scoConnectionResponse (status : UInt8) (parameters : ScoLinkParameters)
  | scoDisconnect (reason : UInt8)
  | pingRequest
  | pingResponse
deriving DecidableEq, Repr

/-- A link layer packet of BR/EDR connections. -/
abbrev Packet := LinkLayerPacket Body

/-- Source: `hci_packets.pdl` `LinkType`, `ConnectionRequestLinkType`, `ScoLinkType` -/
inductive LinkType
  | acl
  | sco
  | esco
deriving DecidableEq, Repr

/-- The events of connections. A reason or status that a peer sent may be any octet. -/
inductive Event
  | connectionComplete (status : UInt8) (handle : UInt16) (bdAddr : Address) (linkType : LinkType)
  | connectionRequest (bdAddr : Address) (classOfDevice : UInt32) (linkType : LinkType)
  | disconnectionComplete (handle : UInt16) (reason : UInt8)
  | roleChange (status : UInt8) (bdAddr : Address) (role : Role)
  | synchronousConnectionComplete (status : UInt8) (handle : UInt16) (bdAddr : Address)
      (linkType : LinkType) (transmissionInterval retransmissionWindow : UInt8)
      (rxPacketLength txPacketLength : UInt16) (airMode : UInt8)
deriving DecidableEq, Repr

/-- The codes of the events that a handler asks the mask about. -/
inductive EventCode
  | connectionComplete
  | connectionRequest
  | disconnectionComplete
  | roleChange
deriving DecidableEq, Repr

/-- The code of an event. -/
def EventCode.toNat : EventCode → Nat
  | connectionComplete => 0x03
  | connectionRequest => 0x04
  | disconnectionComplete => 0x05
  | roleChange => 0x12

/-- What the controller sends. -/
inductive Output
  /-- The status a command is answered with. -/
  | status (status : ErrorCode)
  | event (event : Event)
  | remote (packet : Packet)
deriving DecidableEq, Repr

/-! ## State -/

/-- An ACL connection. -/
structure AclConnection where
  handle : UInt16
  address : Address
  ownAddress : Address
  role : Role
  linkPolicySettings : UInt16
deriving DecidableEq, Repr

/-- The link policy allows a role switch. -/
def AclConnection.isRoleSwitchEnabled (connection : AclConnection) : Bool :=
  connection.linkPolicySettings &&& 0x1 ≠ 0

/-- The page that is going on. -/
structure PageState where
  bdAddr : Address
  allowRoleSwitch : Bool
  nextPageEvent : Nat
  pageTimeout : Nat
deriving DecidableEq, Repr

/-- The page of a peer that waits for the host's answer. -/
structure PageScanState where
  bdAddr : Address
  allowRoleSwitch : Bool
deriving DecidableEq, Repr

/-- A task that was scheduled without delay. -/
inductive Task
  | send (packet : Packet)
  | event (event : Event)
  /-- Source: `RejectConnectionRequest` -/
  | rejectPeripheralConnection (bdAddr : Address) (reason : UInt8)
deriving DecidableEq, Repr

/-- The number of links of the link manager. -/
def maxPeerNumber : Nat := 7

/-- The peers of the links of the link manager; a link that is not in use has the empty address. -/
structure LinkManager where
  peers : List Address
  length_peers : peers.length = maxPeerNumber
deriving DecidableEq

namespace LinkManager

/-- No link is taken. -/
def new : LinkManager where
  peers := List.replicate maxPeerNumber Address.kEmpty
  length_peers := rfl

/-- Replace the peer of the first link that has the one peer by the other.
Source: `add_link`, `remove_link` -/
def replace (lm : LinkManager) (old new : Address) : Option LinkManager :=
  if old ∈ lm.peers then
    some ⟨lm.peers.set (lm.peers.idxOf old) new, by rw [List.length_set, lm.length_peers]⟩
  else none

/-- The first free link is taken for the peer. -/
def addLink (lm : LinkManager) (peer : Address) : Option LinkManager :=
  lm.replace Address.kEmpty peer

/-- The link of the peer is freed. -/
def removeLink (lm : LinkManager) (peer : Address) : Option LinkManager :=
  lm.replace peer Address.kEmpty

end LinkManager

/-- The state of the controller that connections depend on. -/
structure BrEdrController where
  address : Address
  /-- Source: `acl_connection_handler.h` `acl_connections_` -/
  aclConnections : HashMap UInt16 AclConnection
  lastAclHandle : UInt16
  /-- Source: `acl_connection_handler.h` `sco_connections_` -/
  scoConnections : HashMap UInt16 ScoConnection
  lastScoHandle : UInt16
  page : Option PageState
  pageScan : Option PageScanState
  lm : LinkManager
  pageScanEnable : Bool
  pageTimeout : UInt16
  defaultLinkPolicySettings : UInt16
  eventMask : UInt64
  classOfDevice : UInt32
  tasks : List Task

/-- What a handler reads besides its arguments and the state. -/
structure Env where
  /-- The order in which `acl_connections_` is visited. -/
  aclOrder : IterOrder UInt16
  /-- The order in which `sco_connections_` is visited. -/
  scoOrder : IterOrder UInt16
  /-- The time, in microseconds. -/
  now : Nat

namespace BrEdrController

/-- Source: `BrEdrController::BrEdrController` -/
def new (address : Address) : BrEdrController where
  address := address
  aclConnections := ∅
  lastAclHandle := ConnectionHandle.kAclRangeStart
  scoConnections := ∅
  lastScoHandle := ConnectionHandle.kScoRangeStart
  page := none
  pageScan := none
  lm := .new
  pageScanEnable := false
  pageTimeout := 0x2000
  defaultLinkPolicySettings := 0
  eventMask := 0x00001fffffffffff
  classOfDevice := 0
  tasks := []

/-- The host wants this event. -/
def isEventUnmasked (s : BrEdrController) (code : EventCode) : Bool :=
  s.eventMask &&& (1 <<< UInt64.ofNat (code.toNat - 1)) ≠ 0

/-! ## Tasks -/

/-- Source: `ScheduleTask` -/
def schedule (s : BrEdrController) (task : Task) : BrEdrController :=
  { s with tasks := s.tasks ++ [task] }

/-- A packet is scheduled. -/
def sendLinkLayerPacket (s : BrEdrController) (source destination : Address) (body : Body) :
    BrEdrController :=
  s.schedule (.send ⟨source, destination, body⟩)

/-- Schedule an event that the host has not masked. -/
def scheduleEvent (s : BrEdrController) (code : EventCode) (event : Event) : BrEdrController :=
  if s.isEventUnmasked code then s.schedule (.event event) else s

/-- Send an event that the host has not masked. -/
def sendEvent (s : BrEdrController) (code : EventCode) (event : Event) : List Output :=
  if s.isEventUnmasked code then [.event event] else []

/-- The end of a connection is reported, if it is unmasked. -/
def sendDisconnectionCompleteEvent (s : BrEdrController) (handle : UInt16) (reason : UInt8) :
    BrEdrController :=
  s.scheduleEvent .disconnectionComplete (.disconnectionComplete handle reason)

/-! ## The tables of connections -/

/-- The handle of an ACL connection with the address. -/
def getAclConnectionHandle (s : BrEdrController) (env : Env) (bdAddr : Address) : Option UInt16 :=
  s.aclConnections.keyBy env.aclOrder AclConnection.address bdAddr

/-- The handle of a synchronous connection with the address. -/
def getScoConnectionHandle (s : BrEdrController) (env : Env) (bdAddr : Address) : Option UInt16 :=
  s.scoConnections.keyBy env.scoOrder ScoConnection.address bdAddr

/-- The synchronous connection with a peer, the first that is visited. -/
def getScoConnection (s : BrEdrController) (env : Env) (bdAddr : Address) :
    Option (UInt16 × ScoConnection) := do
  let handle ← s.getScoConnectionHandle env bdAddr
  let connection ← s.scoConnections[handle]?
  some (handle, connection)

/-- The pending synchronous connection with a peer: the first that is visited, if it is pending.
Source: `HasPendingScoConnection` -/
def pendingScoConnection (s : BrEdrController) (env : Env) (bdAddr : Address) :
    Option (UInt16 × ScoConnection) :=
  (s.getScoConnection env bdAddr).filter fun (_, connection) => connection.isPending

/-- Create an ACL connection and register its link.
Source: `CreateConnection`, with the role, the link
policy and the link as both callers set them -/
def createAclConnection (s : BrEdrController) (bdAddr : Address) (role : Role) :
    Except Panic (UInt16 × BrEdrController) := do
  let (handle, last) ← ConnectionHandle.getUnusedHandle s.aclConnections
    ConnectionHandle.kAclRangeStart ConnectionHandle.kAclRangeEnd s.lastAclHandle
  let connection : AclConnection :=
    { handle := handle
      address := bdAddr
      ownAddress := s.address
      role := role
      linkPolicySettings := s.defaultLinkPolicySettings }
  let lm ← assertSome (s.lm.addLink bdAddr)
  .ok (handle,
    { s with
      aclConnections := s.aclConnections.insert handle connection
      lastAclHandle := last
      lm := lm })

/-- Erase an ACL connection, which no synchronous connection may use any more, and its link.
Source: `Disconnect`, with the removal of the link as
both callers do it -/
def removeAclConnection (s : BrEdrController) (env : Env) (handle : UInt16) (bdAddr : Address) :
    Except Panic BrEdrController := do
  assert (s.getScoConnectionHandle env bdAddr).isNone
  let lm ← assertSome (s.lm.removeLink bdAddr)
  .ok { s with aclConnections := s.aclConnections.erase handle, lm := lm }

/-- A synchronous connection is made under an unused handle. -/
def createScoConnection (s : BrEdrController) (bdAddr : Address)
    (parameters : ScoConnectionParameters)
    (state : ScoState) (datapath : ScoDatapath) (legacy : Bool) : Except Panic BrEdrController := do
  let (handle, last) ← ConnectionHandle.getUnusedHandle s.scoConnections
    ConnectionHandle.kScoRangeStart ConnectionHandle.kScoRangeEnd s.lastScoHandle
  let connection : ScoConnection :=
    { address := bdAddr
      parameters := parameters
      linkParameters := .zero
      state := state
      datapath := datapath
      legacy := legacy
      streaming := false }
  .ok { s with
    scoConnections := s.scoConnections.insert handle connection
    lastScoHandle := last }

/-- Open a synchronous connection, and start its stream if its data is spoofed.
Source: `AcceptPendingScoConnection`,
`sco_connection.cc` `StartStream` -/
def openScoConnection (s : BrEdrController) (handle : UInt16) (connection : ScoConnection)
    (linkParameters : ScoLinkParameters) : Except Panic BrEdrController := do
  assert (!connection.streaming)
  let opened :=
    { connection with
      linkParameters := linkParameters
      state := .opened
      streaming := connection.datapath = .spoofed }
  .ok { s with scoConnections := s.scoConnections.insert handle opened }

/-- Erase a synchronous connection without stopping its stream.
Source: `CancelPendingScoConnection`,
`sco_connection.cc` `ScoConnection::~ScoConnection` -/
def cancelScoConnection (s : BrEdrController) (handle : UInt16) (connection : ScoConnection) :
    Except Panic BrEdrController := do
  assert (!connection.streaming)
  .ok { s with scoConnections := s.scoConnections.erase handle }

/-- Erase a synchronous connection.
Source: `Disconnect` -/
def removeScoConnection (s : BrEdrController) (handle : UInt16) : BrEdrController :=
  { s with scoConnections := s.scoConnections.erase handle }

end BrEdrController

end RootCanal.BrEdr
