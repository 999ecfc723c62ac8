import RootCanal.Lib.Reassembly
import RootCanal.Packets.LinkLayer
import RootCanal.Controller.ConnectionHandle
import RootCanal.Iso.Procedures

/-!
# Isochronous data of the LE controller

The part of `LeController` between the host, the phy and the ISO manager: the LE-ACL connections,
the dispatch of what a peer sends on them, and the isochronous data in both directions.

* `incomingPacket`: a packet is taken only if an LE-ACL connection with its two addresses exists.
* `incomingLeConnectedIsochronousPdu`: a received SDU is sent to the host on the CIS the ISO manager
  finds for the identifiers of the PDU.
* `handleIso`: the fragments of the host are collected in `isoSdu`, the one buffer of the
  controller.

The connections and the CISes are visited in the unspecified order of a hash map; both orders, the
buffer size the controller reports and the masked events are in `Env`, an input of every step.  The
supervision timer of a connection is the input `disconnect`; the log is left out.

Source: `le_controller.cc`, `rust/src/llcp/manager.rs`, `rust/src/ffi.rs`
-/

namespace RootCanal.Le

open Lib RootCanal.Hci RootCanal.Llcp RootCanal.Iso

/-! ## ISO data packets of the host controller interface -/

/-- Which part of an SDU a packet holds. -/
inductive IsoPacketBoundaryFlag
  | firstFragment
  | continuationFragment
  | completeSdu
  | lastFragment
deriving DecidableEq, Repr

/-- The fragment starts an SDU.
Source: `HandleIso` -/
def IsoPacketBoundaryFlag.starts (flag : IsoPacketBoundaryFlag) : Bool :=
  flag = .firstFragment ∨ flag = .completeSdu

/-- The fragment ends an SDU.
Source: `HandleIso` -/
def IsoPacketBoundaryFlag.ends (flag : IsoPacketBoundaryFlag) : Bool :=
  flag = .lastFragment ∨ flag = .completeSdu

/-- An ISO data packet. `timeStamp` is the field of `IsoWithTimestamp`; a packet without it is an
`IsoWithoutTimestamp`.
Source: `hci_packets.pdl` `Iso`, `IsoWithTimestamp`, `IsoWithoutTimestamp` -/
structure IsoPacket where
  connectionHandle : UInt16
  pbFlag : IsoPacketBoundaryFlag
  timeStamp : Option UInt32
  packetSequenceNumber : UInt16
  isoSduLength : UInt16
  payload : List UInt8
deriving DecidableEq, Repr

/-- The size of the ISO data load: the header fields, which are longer with a time stamp, and the
payload.
Source: `hci_packets.pdl` `IsoWithTimestamp`, `IsoWithoutTimestamp` -/
def IsoPacket.loadSize (iso : IsoPacket) : Nat :=
  (if iso.timeStamp.isSome then 8 else 4) + iso.payload.length

/-! ## State -/

/-- The addresses and the role of a connection. -/
structure LeAclConnection where
  handle : UInt16
  address : Address
  ownAddress : Address
  role : Role
deriving DecidableEq, Repr

/-- The state of the controller that isochronous data depends on. -/
structure LeController where
  /-- Source: `acl_connection_handler.h` `le_acl_connections_` -/
  leAclConnections : HashMap UInt16 LeAclConnection
  /-- Source: `acl_connection_handler.h` `last_le_acl_handle_` -/
  lastLeAclHandle : UInt16
  /-- The ISO manager of the link layer. The links of the link layer are its ACL connections: the
  two maps are always changed together. -/
  ll : IsoManager
  /-- The SDU being assembled from the fragments of the host. -/
  isoSdu : List UInt8

/-- What a handler reads besides its arguments and the state. -/
structure Env where
  /-- The environment of the ISO manager. -/
  iso : Iso.Env
  /-- The order in which `le_acl_connections_` is visited. -/
  order : IterOrder UInt16
  /-- The property `iso_data_packet_length`. -/
  isoDataPacketLength : UInt16
  /-- Whether the host has unmasked the Disconnection Complete event. -/
  disconnectionCompleteUnmasked : Bool

/-- What the controller sends. -/
inductive Output
  /-- An event of the ISO manager. -/
  | hci (event : Event)
  | disconnectionComplete (handle : UInt16) (reason : UInt8)
  | numberOfCompletedPackets (handle : UInt16)
  /-- ISO data to the host. -/
  | iso (packet : IsoPacket)
  /-- A packet to a peer. -/
  | remote (packet : LinkLayerPacket LeBody)
deriving DecidableEq, Repr

/-- The result of a handler. -/
abbrev Outcome := Except Panic (LeController × List Output)

namespace LeController

/-- A controller after its start.
Source: `LeController::LeController` -/
def new : LeController where
  leAclConnections := ∅
  lastLeAclHandle := ConnectionHandle.kLeAclRangeStart
  ll := IsoManager.new
  isoSdu := []

/-- The handle of a connection between the two addresses. -/
def getLeAclConnectionHandle (env : Env) (s : LeController) (localAddress remoteAddress : Address) :
    Option UInt16 :=
  (s.leAclConnections.keysWhere env.order fun connection =>
    connection.address = remoteAddress ∧ connection.ownAddress = localAddress).head?

/-- What the ISO manager sends, as the controller passes it on: an LLCP packet goes to the peer of
its link, and is dropped when the link is unknown.
Source: `LeController::LeController`, `send_llcp_packet` -/
def forward (s : LeController) : Iso.Output → List Output
  | .hci event => [.hci event]
  | .llcp aclConnectionHandle packet =>
    match s.leAclConnections[aclConnectionHandle]? with
    | none => []
    | some connection =>
      [.remote ⟨connection.ownAddress, connection.address, .llcp packet⟩]

/-- Pass an outcome of the ISO manager on. -/
def ofIso (s : LeController) (outcome : Iso.Outcome) : Outcome := do
  let (ll, sent) ← outcome
  .ok ({ s with ll := ll }, sent.flatMap s.forward)

/-! ## Connections -/

/-- Source: `HandleLeConnection`,
`acl_connection_handler.cc` `CreateLeConnection`,
`manager.rs` `add_link` -/
def handleLeConnection (s : LeController) (address ownAddress : Address) (role : Role) : Outcome :=
  do
  let (handle, last) ← ConnectionHandle.getUnusedHandle s.leAclConnections
    ConnectionHandle.kLeAclRangeStart ConnectionHandle.kLeAclRangeEnd s.lastLeAclHandle
  if s.ll.aclConnections.contains handle then .error .assertion
  else .ok ({ s with
    leAclConnections := s.leAclConnections.insert handle ⟨handle, address, ownAddress, role⟩
    lastLeAclHandle := last
    ll := s.ll.addAclConnection handle role }, [])

/-- Remove a connection that exists, and its link.
Source: `Disconnect`, `IncomingLeDisconnectPacket`,
`manager.rs` `remove_link` -/
def removeConnection (env : Env) (s : LeController) (handle : UInt16) (reason : UInt8) : Outcome :=
  if ¬ s.ll.aclConnections.contains handle then .error .assertion
  else do
    let s := { s with leAclConnections := s.leAclConnections.erase handle }
    let (s, sent) ← s.ofIso (s.ll.removeAclConnection env.iso handle
      ((ErrorCode.tryFrom reason).getD .remoteUserTerminatedConnection))
    .ok (s, sent ++
      if env.disconnectionCompleteUnmasked then [.disconnectionComplete handle reason] else [])

/-- Disconnect: an ACL connection, or a stream. -/
def disconnect (env : Env) (s : LeController) (handle : UInt16)
    (hostReason controllerReason : ErrorCode) : Outcome :=
  match s.leAclConnections[handle]? with
  | none => .ok (s, [])
  | some connection => do
    let (s, sent) ← s.removeConnection env handle controllerReason.toUInt8
    .ok (s, .remote ⟨connection.ownAddress, connection.address,
      .disconnect hostReason.toUInt8⟩ :: sent)

/-- Reset: every connection is closed. -/
def reset (s : LeController) (order : IterOrder UInt16) : LeController × List Output :=
  ({ new with isoSdu := s.isoSdu },
    (s.leAclConnections.values order).map fun connection =>
      .remote ⟨connection.ownAddress, connection.address,
        .disconnect ErrorCode.remoteUserTerminatedConnection.toUInt8⟩)

/-! ## Received isochronous data -/

/-- The handle of a CIS with the identifiers.
Source: `get_cis_connection_handle`,
`ffi.rs` `link_layer_get_cis_connection_handle` -/
def getCisConnectionHandle (env : Env) (s : LeController) (cigId cisId : UInt8) : Option UInt16 :=
  s.ll.getCisConnectionHandle env.iso fun cis => cis.cigId = cigId ∧ cis.cisId = cisId

/-- The largest payload of an ISO data packet, without the sequence number and the SDU length. -/
def kMaxPayloadSize : Nat := 4095 - 4

/-- The fragments of an SDU, with their boundary flags; `flag` is that of the next one. One round
for each octet is enough, since every fragment but that of an empty SDU takes some. -/
def fragmentLoop :
    Nat → IsoPacketBoundaryFlag → List UInt8 → List (IsoPacketBoundaryFlag × List UInt8)
  | 0, _, _ => []
  | rounds + 1, flag, remaining =>
    let fragment := remaining.take kMaxPayloadSize
    let rest := remaining.drop kMaxPayloadSize
    (flag, fragment) ::
      if rest.length > 0 then
        fragmentLoop rounds
          (if rest.length ≤ kMaxPayloadSize then .lastFragment else .continuationFragment) rest
      else []

/-- Source: `IncomingLeConnectedIsochronousPdu` -/
def fragments (sdu : List UInt8) : List (IsoPacketBoundaryFlag × List UInt8) :=
  fragmentLoop (sdu.length + 1)
    (if sdu.length ≤ kMaxPayloadSize then .completeSdu else .firstFragment) sdu

/-- The data of a stream arrives, and goes to the host in fragments. -/
def incomingLeConnectedIsochronousPdu (env : Env) (s : LeController) (cigId cisId : UInt8)
    (sequenceNumber : UInt16) (data : List UInt8) : LeController × List Output :=
  match s.getCisConnectionHandle env cigId cisId with
  | none => (s, [])
  | some handle =>
    (s, (fragments data).map fun (flag, fragment) => .iso {
      connectionHandle := handle
      pbFlag := flag
      timeStamp := none
      packetSequenceNumber := sequenceNumber
      isoSduLength := UInt16.ofNat data.length
      payload := fragment })

/-- An LLCP packet for the ISO manager, whose rejections can only be of an LL_CIS_REQ. -/
def ingestLlcp (env : Env) (s : LeController) (aclConnectionHandle : UInt16) (packet : LlcpPacket) :
    Outcome :=
  match packet with
  | .rejectExtInd reject =>
    if reject.rejectOpcode ≠ Opcode.llCisReq then .error .explicit
    else s.ofIso (s.ll.handleLlcp env.iso aclConnectionHandle (.rejectExtInd reject))
  | packet => s.ofIso (s.ll.handleLlcp env.iso aclConnectionHandle packet)

/-- A packet from the phy. It is dropped unless a connection with its two addresses exists. -/
def incomingPacket (env : Env) (s : LeController) (packet : LinkLayerPacket LeBody) : Outcome :=
  match s.getLeAclConnectionHandle env packet.destinationAddress packet.sourceAddress with
  | none => .ok (s, [])
  | some handle =>
    match packet.body with
    | .leConnectedIsochronousPdu cigId cisId sequenceNumber data =>
      .ok (s.incomingLeConnectedIsochronousPdu env cigId cisId sequenceNumber data)
    | .disconnect reason => s.removeConnection env handle reason
    | .llcp llcp => s.ingestLlcp env handle llcp

/-! ## Isochronous data of the host -/

/-- The CIS of a handle, with the LE-ACL connection of its link. The link of a CIS that has none is
looked up as `0xffff`, which is never the handle of a connection.
Source: `ffi.rs` `link_layer_get_cis_information`, `le_controller.cc` `HandleIso` -/
def cisInformation (s : LeController) (handle : UInt16) : Option (Cis × LeAclConnection) := do
  let cis ← s.ll.cisConnections[handle]?
  let connection ← s.leAclConnections[cis.aclConnectionHandle.getD 0xffff]?
  return (cis, connection)

/-- Source: `iso.rs` `Cis::max_sdu_tx`, `ffi.rs` `link_layer_get_cis_information` -/
def maxSduTx (cis : Cis) : UInt16 :=
  match cis.parameters with
  | none => 0
  | some parameters =>
    match cis.role with
    | .central => parameters.maxSduCToP
    | .peripheral => parameters.maxSduPToC

/-- The packet is one a host may send: its load fits the buffer of the controller, and it has a time
stamp only where an ISO header is expected. Any other makes the controller abort. -/
def acceptsIso (env : Env) (iso : IsoPacket) : Bool :=
  decide (iso.loadSize ≤ env.isoDataPacketLength.toNat) &&
    !(iso.timeStamp.isSome && (iso.pbFlag = .continuationFragment || iso.pbFlag = .lastFragment))

/-- A packet of the host: the SDU is sent when it is whole. -/
def handleIso (env : Env) (s : LeController) (iso : IsoPacket) : Outcome :=
  if ¬ acceptsIso env iso then .error .assertion
  else
    let completed : List Output := [.numberOfCompletedPackets iso.connectionHandle]
    match s.cisInformation iso.connectionHandle with
    | none => .ok (s, completed)
    | some (cis, connection) =>
      let isoSdu := (if iso.pbFlag.starts then [] else s.isoSdu) ++ iso.payload
      if iso.pbFlag.ends then
        if isoSdu.length > (maxSduTx cis).toNat then .ok ({ s with isoSdu := isoSdu }, completed)
        else
          -- the buffer is moved into the packet, which leaves it empty
          .ok ({ s with isoSdu := [] }, completed ++
            [.remote ⟨connection.ownAddress, connection.address, .leConnectedIsochronousPdu
              cis.cigId cis.cisId iso.packetSequenceNumber isoSdu⟩])
      else .ok ({ s with isoSdu := isoSdu }, completed)

end LeController

/-! ## The controller as a machine -/

/-- What can happen to the controller. -/
inductive Input
  | leConnection (address ownAddress : Address) (role : Role)
  | incoming (packet : LinkLayerPacket LeBody)
  /-- A command for the ISO manager.
  Source: `ForwardToLl` -/
  | command (command : Command)
  | disconnect (handle : UInt16) (hostReason controllerReason : ErrorCode)
  | iso (packet : IsoPacket)
  | reset

/-- The controller as a machine. Every step has its own environment. -/
def leController : Machine LeController (Env × Input) Output where
  step s
    | (_, .leConnection address ownAddress role) => s.handleLeConnection address ownAddress role
    | (env, .incoming packet) => s.incomingPacket env packet
    | (env, .command command) => s.ofIso (s.ll.handleHci env.iso command)
    | (env, .disconnect handle hostReason controllerReason) =>
      s.disconnect env handle hostReason controllerReason
    | (env, .iso packet) => s.handleIso env packet
    | (env, .reset) => .ok (s.reset env.order)

end RootCanal.Le
