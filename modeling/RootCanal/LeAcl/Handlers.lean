import RootCanal.LeAcl.Procedures

/-!
# The machine of the LE controller

The commands of the host, the packets that arrive, the tasks and the timers, as the steps of one
machine. What is outside of the connections is done by the machine of `Gap` (`outside`): the events
that it schedules go to the one queue of tasks, and a connection among its outputs is made
(`handleLeConnection`).

A connection takes three packets.  The advertiser sends a connectable PDU; the initiator answers it
with `leConnect` and keeps the two addresses (`pendingConnectRequest`, `initiatingAddress`); the
advertiser makes the connection as Peripheral and answers with `leConnectComplete`, at which the
initiator makes it as Central.  The cancel command of the host disables the initiator and leaves the
two addresses.

The commands about one connection are a type of their own (`Request`), as are the functions they
call: `request` and `incomingProcedure` take a connection and return what becomes of it.  The
keepalive of a connection is reduced to its end: `expire` is the input that the supervision timer of
a connection has passed.

Source: `le_controller.cc`, `dual_mode_controller.cc`
-/

namespace RootCanal.LeAcl

open Lib RootCanal.Hci RootCanal.Gap

/-- A command about one connection. -/
inductive Request
  | leConnectionUpdate (intervalMin intervalMax latency supervisionTimeout : UInt16)
  | leRemoteConnectionParameterRequestReply
      (intervalMin intervalMax supervisionTimeout latency minimumCeLength maximumCeLength : UInt16)
  | leRemoteConnectionParameterRequestNegativeReply (reason : ErrorCode)
  | leSubrateRequest
      (subrateMin subrateMax maxLatency continuationNumber supervisionTimeout : UInt16)
  | leEnableEncryption (rand : UInt64) (ediv : UInt16) (ltk : Ltk)
  | leLongTermKeyRequestReply (ltk : Ltk)
  | leLongTermKeyRequestNegativeReply
deriving DecidableEq, Repr

/-- A command of the host. -/
inductive Command
  /-- A command that is about no connection, or the one that resets the controller. -/
  | gap (command : Gap.Command)
  | setEventMaskPage2 (mask : UInt64)
  | leSetDefaultPhy (allPhysNoTransmitPreference allPhysNoReceivePreference : Bool)
      (txPhys rxPhys : UInt8)
  | leSetDefaultSubrate
      (subrateMin subrateMax maxLatency continuationNumber supervisionTimeout : UInt16)
  | disconnect (handle : UInt16) (reason : UInt8)
  | leSetPhy (handle : UInt16) (allPhysNoTransmitPreference allPhysNoReceivePreference : Bool)
      (txPhys rxPhys : UInt8)
  | onConnection (handle : UInt16) (request : Request)
deriving DecidableEq, Repr

/-- What happens to the controller. -/
inductive Action
  | command (command : Command)
  | packet (packet : Packet)
  /-- The first task runs. -/
  | runTask
  /-- The time of the advertisers and of the scanner.
  Source: `LeController::Tick` -/
  | tick
  /-- The supervision timer of a connection has passed. -/
  | expire (handle : UInt16)
deriving DecidableEq, Repr

/-- An input of the controller. -/
structure Input where
  env : Env
  action : Action

namespace LeController

/-! ## The connection -/

/-- A connection is made and reported. -/
def handleLeConnection (s : LeController) (address resolvedAddress ownAddress : AddressWithType)
    (role : Role) (interval latency timeout : UInt16)
    (sendLeChannelSelectionAlgorithmEvent : Bool) :
    Except Panic (LeController × List Output) := do
  let (s', handle) ← s.createLeConnection address resolvedAddress ownAddress role
    { connInterval := interval
      connSubrateFactor := 1
      connContinuationNumber := 0
      connPeripheralLatency := latency
      connSupervisionTimeout := timeout }
  let complete :=
    if s.isLeEventUnmasked .leEnhancedConnectionCompleteV1 then
      let localResolved :=
        if ownAddress.address = s.address ∨ ownAddress.address = s.randomAddress then Address.kEmpty
        else ownAddress.address
      if resolvedAddress ≠ .empty then
        [.event (.leEnhancedConnectionCompleteV1 .success handle role resolvedAddress localResolved
          address.address interval latency timeout)]
      else
        [.event (.leEnhancedConnectionCompleteV1 .success handle role address localResolved
          Address.kEmpty interval latency timeout)]
    else s.sendLeEvent .leConnectionComplete
      (.leConnectionComplete .success handle role address interval latency timeout)
  let selection :=
    if sendLeChannelSelectionAlgorithmEvent then
      s.sendLeEvent .leChannelSelectionAlgorithm (.leChannelSelectionAlgorithm handle)
    else []
  let initiatingAddress :=
    if ownAddress.address = s.initiator.initiatingAddress then Address.kEmpty
    else s.initiator.initiatingAddress
  .ok ({ s' with initiator := { s'.initiator with initiatingAddress } }, complete ++ selection)

/-! ## Outside of the connections -/

/-- The controller outside of its connections. -/
def outside (s : LeController) : Gap.LeController := { toState := s.toState, tasks := [] }

/-- The handle of the next connection, if there is one left. -/
def nextHandle (s : LeController) : UInt16 :=
  match ConnectionHandle.getUnusedHandle s.leAclConnections ConnectionHandle.kLeAclRangeStart
      ConnectionHandle.kLeAclRangeEnd s.lastLeAclHandle with
  | .ok (handle, _) => handle
  | .error _ => 0

/-- An output of the controller outside of its connections. A connection is made.
Source: the calls of `HandleLeConnection` -/
def output (s : LeController) : Gap.Output → Except Panic (LeController × List Output)
  | .event event => .ok (s, [.event (.gap event)])
  | .packet p => .ok (s, [.packet ⟨p.sourceAddress, p.destinationAddress, .gap p.body⟩])
  | .connection address resolvedAddress ownAddress role interval latency timeout =>
    s.handleLeConnection address resolvedAddress ownAddress role interval latency timeout
      (role = .central && s.extendedAdvertisingInUse)

/-- What advertising and scanning give is sent, in turn. -/
def outputs : LeController → List Gap.Output → Except Panic (LeController × List Output)
  | s, [] => .ok (s, [])
  | s, o :: os => do
    let (s, out) ← s.output o
    let (s, outs) ← outputs s os
    .ok (s, out ++ outs)

/-- What the controller has done outside of its connections: its state, with what is scheduled. -/
def after (s : LeController) (g : Gap.LeController) : LeController :=
  { s with
    toState := g.toState
    tasks := s.tasks ++ g.tasks.map fun event => .sendEvent (.gap event) }

/-- A step outside of the connections. -/
def stepOutside (s : LeController) (env : Env) (action : Gap.Action) :
    Except Panic (LeController × List Output) := do
  let (g, out) ← s.outside.step ⟨{ env.toEnv with connectionHandle := s.nextHandle }, action⟩
  (s.after g).outputs out

/-! ## Commands -/

/-- The state and the outputs after a command, with its status. -/
def answer (s : LeController) :
    Except ErrorCode (LeController × List Output) → LeController × List Output
  | .ok (s', out) => (s', out ++ [.event (.gap (.status .success))])
  | .error status => (s, [.event (.gap (.status status))])

/-- What a command makes of the connection it is about. -/
def request (s : LeController) (handle : UInt16) (connection : LeAclConnection) :
    Request → Except ErrorCode Handled
  | .leConnectionUpdate intervalMin intervalMax latency supervisionTimeout =>
    .ok (s.leConnectionUpdate connection intervalMin intervalMax latency supervisionTimeout)
  | .leRemoteConnectionParameterRequestReply intervalMin intervalMax supervisionTimeout latency
      minimumCeLength maximumCeLength =>
      s.leRemoteConnectionParameterRequestReply connection intervalMin intervalMax
        supervisionTimeout latency minimumCeLength maximumCeLength
  | .leRemoteConnectionParameterRequestNegativeReply reason =>
    .ok (leRemoteConnectionParameterRequestNegativeReply connection reason)
  | .leSubrateRequest subrateMin subrateMax maxLatency continuationNumber supervisionTimeout =>
    s.leSubrateRequest connection subrateMin subrateMax maxLatency continuationNumber
      supervisionTimeout
  | .leEnableEncryption rand ediv ltk => .ok (leEnableEncryption connection handle rand ediv ltk)
  | .leLongTermKeyRequestReply ltk => .ok (s.leLongTermKeyRequestReply connection handle ltk)
  | .leLongTermKeyRequestNegativeReply => .ok (leLongTermKeyRequestNegativeReply connection)

/-- The connection is closed, and the peer is told. -/
def disconnect (s : LeController) (handle : UInt16) (hostReason controllerReason : UInt8) :
    Except ErrorCode (LeController × List Output) :=
  match s.leAclConnections[handle]? with
  | none => .error .unknownConnection
  | some connection =>
    .ok
      ({ s with leAclConnections := s.leAclConnections.erase handle }.sendDisconnectionCompleteEvent
      handle controllerReason, [connection.toPeer (.disconnect hostReason)])

/-- Every peer is told. -/
def disconnectAll (s : LeController) (env : Env) (reason : UInt8) : List Output :=
  (s.leAclConnections.values env.leOrder).map (·.toPeer (.disconnect reason))

/-- Reset: every connection is closed. -/
def reset (s : LeController) (env : Env) : LeController × List Output :=
  ({ s with
     toState := s.outside.reset.toState
     eventMaskPage2 := 0
     leAclConnections := ∅
     lastLeAclHandle := ConnectionHandle.kLeAclRangeStart
     defaultTxPhys := s.properties.leSupportedPhys
     defaultRxPhys := s.properties.leSupportedPhys
     defaultSubrateParameters := {} },
    s.disconnectAll env ErrorCode.remoteUserTerminatedConnection.toUInt8)

/-- Source: `HandleCommand` -/
def command (s : LeController) (env : Env) : Command → Except Panic (LeController × List Output)
  | .gap .reset => .ok (s.answer (.ok (s.reset env)))
  | .gap c => s.stepOutside env (.command c)
  | .setEventMaskPage2 mask => .ok (s.answer (.ok ({ s with eventMaskPage2 := mask }, [])))
  | .leSetDefaultPhy noTransmitPreference noReceivePreference txPhys rxPhys =>
    .ok (s.answer (s.leSetDefaultPhy noTransmitPreference noReceivePreference txPhys rxPhys))
  | .leSetDefaultSubrate subrateMin subrateMax maxLatency continuationNumber supervisionTimeout =>
    .ok (s.answer (s.leSetDefaultSubrate subrateMin subrateMax maxLatency continuationNumber
      supervisionTimeout))
  | .disconnect handle reason =>
    .ok (s.answer (s.disconnect handle reason ErrorCode.connectionTerminatedByLocalHost.toUInt8))
  | .leSetPhy handle noTransmitPreference noReceivePreference txPhys rxPhys =>
    .ok (s.answer (s.leSetPhy handle noTransmitPreference noReceivePreference txPhys rxPhys))
  | .onConnection handle r => .ok (s.answer (s.onConnection handle fun c => s.request handle c r))

/-! ## Packets -/

/-- A packet on a connection that does not end it. -/
def incomingProcedure (s : LeController) (connection : LeAclConnection) (incoming : Packet) :
    Except Panic Handled :=
  match incoming.body with
  | .leConnectionParameterRequest intervalMin intervalMax latency timeout =>
    .ok (s.incomingLeConnectionParameterRequest connection incoming intervalMin intervalMax latency
      timeout)
  | .leConnectionParameterUpdate status interval latency timeout =>
    .ok (s.incomingLeConnectionParameterUpdate connection status interval latency timeout)
  | .leEncryptConnection rand ediv ltk =>
    .ok (s.incomingLeEncryptConnection connection rand ediv ltk)
  | .leEncryptConnectionResponse status _ _ ltk =>
    .ok (s.incomingLeEncryptConnectionResponse connection status ltk)
  | .llPhyReq txPhys rxPhys => .ok (s.incomingLlPhyReq connection incoming txPhys rxPhys)
  | .llPhyRsp txPhys rxPhys => s.incomingLlPhyRsp connection incoming txPhys rxPhys
  | .llPhyUpdateInd phyCToP phyPToC _ => s.incomingLlPhyUpdateInd connection phyCToP phyPToC
  | .llSubrateReq subrateFactorMin subrateFactorMax maxLatency continuationNumber timeout =>
    s.incomingLlSubrateReq connection subrateFactorMin subrateFactorMax maxLatency
      continuationNumber timeout
  | .llSubrateInd status subrateFactor _ latency continuationNumber timeout =>
    s.incomingLlSubrateInd connection status subrateFactor latency continuationNumber timeout
  -- the packets that need no connection do not come here
  | .gap _ | .disconnect _ => .ok { connection }

/-- The peer closes the connection. -/
def incomingLeDisconnectPacket (s : LeController) (connection : LeAclConnection) (reason : UInt8) :
    Except Panic (LeController × List Output) := do
  assert (s.leAclConnections.contains connection.handle)
  .ok ({ s with leAclConnections :=
    s.leAclConnections.erase connection.handle }.sendDisconnectionCompleteEvent
      connection.handle reason,
    [])

/-- A packet that is for one of the connections. -/
def incomingOnConnection (s : LeController) (env : Env) (incoming : Packet) :
    Except Panic (LeController × List Output) :=
  match s.getLeAclConnectionHandle env incoming.destinationAddress incoming.sourceAddress with
  | none => .ok (s, [])
  | some handle => do
    let connection ← assertSome s.leAclConnections[handle]?
    match incoming.body with
    | .disconnect reason => s.incomingLeDisconnectPacket connection reason
    | _ => do
      let r ← s.incomingProcedure connection incoming
      .ok (s.handled handle r)

/-- What arrives, by the packet's body. -/
def incomingPacket (s : LeController) (env : Env) (incoming : Packet) :
    Except Panic (LeController × List Output) :=
  match incoming.body with
  | .gap body =>
    s.stepOutside env
      (.packet env.bytes env.rssi ⟨incoming.sourceAddress, incoming.destinationAddress, body⟩)
  | _ => s.incomingOnConnection env incoming

/-! ## Tasks and steps -/

/-- Source: `RunPendingTasks` -/
def runTask (s : LeController) : LeController × List Output :=
  match s.tasks with
  | [] => (s, [])
  | .sendEvent event :: tasks => ({ s with tasks }, [.event event])
  | .handleLeEnableEncryption handle rand ediv ltk :: tasks =>
    let s := { s with tasks }
    match s.leAclConnections[handle]? with
    | none => (s, [])
    | some connection => s.handled handle (handleLeEnableEncryption connection rand ediv ltk)

/-- Source: `CheckExpiringConnection` -/
def expire (s : LeController) (handle : UInt16) : LeController × List Output :=
  match s.disconnect handle ErrorCode.connectionTimeout.toUInt8
      ErrorCode.connectionTimeout.toUInt8 with
  | .error _ => (s, [])
  | .ok r => r

/-- One step of the controller. -/
def step (s : LeController) (i : Input) : Except Panic (LeController × List Output) :=
  match i.action with
  | .command c => s.command i.env c
  | .packet p => s.incomingPacket i.env p
  | .runTask => .ok s.runTask
  | .tick => s.stepOutside i.env .tick
  | .expire handle => .ok (s.expire handle)

end LeController

/-- The LE controller. -/
def machine : Machine LeController Input Output where
  step := LeController.step

end RootCanal.LeAcl
