import RootCanal.LeAcl.Controller

/-!
# The procedures of an LE connection

The commands of the host about a connection, and the packets of the peer on it: the PHY update, the
connection parameters, the subrate, and the encryption.  Each of these functions changes the
connection it is given and no other; `Handled` is what it makes of it, with what it sends and
schedules.  Only `leSetPhy` changes the controller too: the PHYs the host asked for last are kept
there, for all the connections.

Products of connection parameters are computed in `int` by the source and are small enough for it,
as the factors are checked before; here they are natural numbers.

Source: `le_controller.cc`
-/

namespace RootCanal.LeAcl

open Lib RootCanal.Hci RootCanal.Gap

/-- What a function makes of the connection it is given, what it sends and what it schedules. -/
structure Handled where
  connection : LeAclConnection
  out : List Output := []
  tasks : List Task := []

namespace LeAclConnection

/-- A packet from this end of the connection to the other. -/
def toPeer (c : LeAclConnection) (body : Body) : Output :=
  .packet ⟨c.ownAddress.address, c.address.address, body⟩

end LeAclConnection

/-- A packet back to the sender of a packet. -/
def reply (incoming : Packet) (body : Body) : Output :=
  .packet ⟨incoming.destinationAddress, incoming.sourceAddress, body⟩

namespace LeController

/-- The function returned: its connection takes the place of the one at the handle. -/
def handled (s : LeController) (handle : UInt16) (r : Handled) : LeController × List Output :=
  ({ s with
     leAclConnections := s.leAclConnections.insert handle r.connection
     tasks := s.tasks ++ r.tasks }, r.out)

/-- A command about a connection, refused if there is none at the handle. -/
def onConnection (s : LeController) (handle : UInt16)
    (f : LeAclConnection → Except ErrorCode Handled) :
    Except ErrorCode (LeController × List Output) :=
  match s.leAclConnections[handle]? with
  | none => .error .unknownConnection
  | some connection => (f connection).map (s.handled handle)

/-! ## The PHY update -/

/-- The PHYs the host asks for in one direction. -/
def preferredPhys (s : LeController) (noPreference : Bool) (phys : UInt8) : UInt8 :=
  if noPreference then s.properties.leSupportedPhys else phys

/-- The checks of the PHYs the host asks for.
Source: `LeSetDefaultPhy`, `LeSetPhy` -/
def checkPhys (s : LeController) (txPhys rxPhys : UInt8) : Except ErrorCode Unit := do
  require (txPhys ≠ 0) .invalidHciCommandParameters
  require (rxPhys ≠ 0) .invalidHciCommandParameters
  require (txPhys &&& ~~~s.properties.leSupportedPhys = 0) .unsupportedFeatureOrParameterValue
  require (rxPhys &&& ~~~s.properties.leSupportedPhys = 0) .unsupportedFeatureOrParameterValue

/-- LE Set Default PHY. -/
def leSetDefaultPhy (s : LeController)
    (allPhysNoTransmitPreference allPhysNoReceivePreference : Bool)
    (txPhys rxPhys : UInt8) : Except ErrorCode (LeController × List Output) := do
  let txPhys := s.preferredPhys allPhysNoTransmitPreference txPhys
  let rxPhys := s.preferredPhys allPhysNoReceivePreference rxPhys
  s.checkPhys txPhys rxPhys
  .ok ({ s with defaultTxPhys := txPhys, defaultRxPhys := rxPhys }, [])

/-- The checks of `LeSetPhy`, up to the packet it sends. -/
def sendLlPhyReq (s : LeController) (handle : UInt16) (txPhys rxPhys : UInt8) :
    Except ErrorCode Output :=
  match s.leAclConnections[handle]? with
  | none => .error .unknownConnection
  | some connection => do
    s.checkPhys txPhys rxPhys
    .ok (connection.toPeer (.llPhyReq txPhys rxPhys))

/-- What `LeSetPhy` does after it has sent the packet. -/
def setRequestedPhys (s : LeController) (handle : UInt16) (txPhys rxPhys : UInt8) : LeController :=
  { s with
    leAclConnections := s.leAclConnections.modify handle fun c =>
      { c with initiatedPhyUpdate := true }
    requestedTxPhys := txPhys
    requestedRxPhys := rxPhys }

/-- LE Set PHY. -/
def leSetPhy (s : LeController) (handle : UInt16)
    (allPhysNoTransmitPreference allPhysNoReceivePreference : Bool) (txPhys rxPhys : UInt8) :
    Except ErrorCode (LeController × List Output) := do
  let txPhys := s.preferredPhys allPhysNoTransmitPreference txPhys
  let rxPhys := s.preferredPhys allPhysNoReceivePreference rxPhys
  let request ← s.sendLlPhyReq handle txPhys rxPhys
  .ok (s.setRequestedPhys handle txPhys rxPhys, [request])

end LeController

/-- LE Coded before LE 2M before LE 1M, or the current PHY. -/
def selectPhy (phys : UInt8) (current : PhyType) : PhyType :=
  if phys &&& 0x4 ≠ 0 then .leCoded
  else if phys &&& 0x2 ≠ 0 then .le2m
  else if phys &&& 0x1 ≠ 0 then .le1m
  else current

/-- The PHY that is told, none if it stays. -/
def indicatePhy (selected current : PhyType) : UInt8 :=
  if selected = current then 0x0
  else if selected = .leCoded then 0x4
  else if selected = .le2m then 0x2
  else 0x1

namespace LeController

/-- The peer asks for a PHY. -/
def incomingLlPhyReq (s : LeController) (connection : LeAclConnection) (incoming : Packet)
    (txPhys rxPhys : UInt8) : Handled :=
  if connection.role = .peripheral then
    { connection, out := [reply incoming (.llPhyRsp s.defaultTxPhys s.defaultRxPhys)] }
  else
    let phyCToP := selectPhy (rxPhys &&& s.defaultTxPhys) connection.txPhy
    let phyPToC := selectPhy (txPhys &&& s.defaultRxPhys) connection.rxPhy
    let update := reply incoming (.llPhyUpdateInd (indicatePhy phyCToP connection.txPhy)
      (indicatePhy phyPToC connection.rxPhy) 0)
    -- the host is told only of a change: it did not ask
    let events :=
      if phyCToP ≠ connection.txPhy ∨ phyPToC ≠ connection.rxPhy then
        s.sendLeEvent .lePhyUpdateComplete
          (.lePhyUpdateComplete .success connection.handle phyCToP phyPToC)
      else []
    { connection := { connection with txPhy := phyCToP, rxPhy := phyPToC }
      out := update :: events }

/-- The peer answers the PHY request. -/
def incomingLlPhyRsp (s : LeController) (connection : LeAclConnection) (incoming : Packet)
    (txPhys rxPhys : UInt8) : Except Panic Handled := do
  assert (connection.role = .central)
  let phyCToP := selectPhy (rxPhys &&& s.requestedTxPhys) connection.txPhy
  let phyPToC := selectPhy (txPhys &&& s.requestedRxPhys) connection.rxPhy
  let update := reply incoming (.llPhyUpdateInd (indicatePhy phyCToP connection.txPhy)
    (indicatePhy phyPToC connection.rxPhy) 0)
  .ok
    { connection :=
        { connection with initiatedPhyUpdate := false, txPhy := phyCToP, rxPhy := phyPToC }
      out := update :: s.sendLeEvent .lePhyUpdateComplete
        (.lePhyUpdateComplete .success connection.handle phyCToP phyPToC) }

/-- The PHY is changed. -/
def incomingLlPhyUpdateInd (s : LeController) (connection : LeAclConnection)
    (phyCToP phyPToC : UInt8) : Except Panic Handled := do
  assert (connection.role = .peripheral)
  let txPhy := selectPhy phyPToC connection.txPhy
  let rxPhy := selectPhy phyCToP connection.rxPhy
  let events :=
    if txPhy ≠ connection.txPhy ∨ rxPhy ≠ connection.rxPhy ∨ connection.initiatedPhyUpdate then
      s.sendLeEvent .lePhyUpdateComplete
        (.lePhyUpdateComplete .success connection.handle txPhy rxPhy)
    else []
  .ok
    { connection := { connection with initiatedPhyUpdate := false, txPhy := txPhy, rxPhy := rxPhy }
      out := events }

/-! ## The connection parameters -/

/-- LE Connection Update. -/
def leConnectionUpdate (s : LeController) (connection : LeAclConnection)
    (intervalMin intervalMax latency supervisionTimeout : UInt16) : Handled :=
  if connection.role = .central then
    -- the parameters of the connection stay as they are at this end
    { connection
      out :=
        connection.toPeer
        (.leConnectionParameterUpdate ErrorCode.success.toUInt8 intervalMax latency
          supervisionTimeout) ::
        s.sendLeEvent .leConnectionUpdateComplete (.leConnectionUpdateComplete
          ErrorCode.success.toUInt8 connection.handle intervalMax latency supervisionTimeout) }
  else
    { connection
      out := [connection.toPeer (.leConnectionParameterRequest intervalMin intervalMax latency
        supervisionTimeout)] }

/-- The host accepts the peer's parameters. -/
def leRemoteConnectionParameterRequestReply (s : LeController) (connection : LeAclConnection)
    (intervalMin intervalMax supervisionTimeout latency minimumCeLength maximumCeLength : UInt16) :
    Except ErrorCode Handled := do
  require (6 ≤ intervalMin ∧ intervalMax ≤ 0xc80 ∧ intervalMin ≤ intervalMax ∧ latency ≤ 0x1f3 ∧
    0xa ≤ supervisionTimeout ∧ supervisionTimeout ≤ 0xc80 ∧
    (1 + latency.toNat) * intervalMax.toNat * 10 / 4 / 10 < supervisionTimeout.toNat)
    .invalidHciCommandParameters
  require (minimumCeLength ≤ maximumCeLength) .invalidHciCommandParameters
  .ok
    { connection :=
        { connection with parameters :=
            { connInterval := intervalMin
              connSubrateFactor := 1
              connContinuationNumber := 0
              connPeripheralLatency := latency
              connSupervisionTimeout := supervisionTimeout } }
      out :=
        connection.toPeer
        (.leConnectionParameterUpdate ErrorCode.success.toUInt8 intervalMin latency
          supervisionTimeout) ::
        s.sendLeEvent .leConnectionUpdateComplete (.leConnectionUpdateComplete
          ErrorCode.success.toUInt8 connection.handle intervalMin latency supervisionTimeout) }

/-- The host rejects the peer's parameters. -/
def leRemoteConnectionParameterRequestNegativeReply (connection : LeAclConnection)
    (reason : ErrorCode) : Handled :=
  { connection, out := [connection.toPeer (.leConnectionParameterUpdate reason.toUInt8 0 0 0)] }

/-- The peer asks for parameters. -/
def incomingLeConnectionParameterRequest (s : LeController) (connection : LeAclConnection)
    (incoming : Packet) (intervalMin intervalMax latency timeout : UInt16) : Handled :=
  if s.isLeEventUnmasked .leRemoteConnectionParameterRequest then
    { connection
      out :=
        [.event
        (.leRemoteConnectionParameterRequest connection.handle intervalMin intervalMax latency
        timeout)] }
  else
    { connection
      out := [reply incoming (.leConnectionParameterUpdate
        ErrorCode.unsupportedRemoteOrLmpFeature.toUInt8 0 0 0)] }

/-- The peer has set, or refused, parameters. -/
def incomingLeConnectionParameterUpdate (s : LeController) (connection : LeAclConnection)
    (status : UInt8) (interval latency timeout : UInt16) : Handled :=
  { connection :=
      if status = ErrorCode.success.toUInt8 then
        { connection with parameters :=
            { connInterval := interval
              connSubrateFactor := 1
              connContinuationNumber := 0
              connPeripheralLatency := latency
              connSupervisionTimeout := timeout } }
      else connection
    out := s.sendLeEvent .leConnectionUpdateComplete
      (.leConnectionUpdateComplete status connection.handle interval latency timeout) }

/-! ## The subrate -/

/-- LE Set Default Subrate. -/
def leSetDefaultSubrate (s : LeController)
    (subrateMin subrateMax maxLatency continuationNumber supervisionTimeout : UInt16) :
    Except ErrorCode (LeController × List Output) := do
  require (1 ≤ subrateMin ∧ subrateMin ≤ 0x1f4) .unsupportedFeatureOrParameterValue
  require (1 ≤ subrateMax ∧ subrateMax ≤ 0x1f4) .unsupportedFeatureOrParameterValue
  require (subrateMin ≤ subrateMax) .unsupportedFeatureOrParameterValue
  require (maxLatency ≤ 0x1f3) .unsupportedFeatureOrParameterValue
  require (continuationNumber ≤ 0x1f3) .unsupportedFeatureOrParameterValue
  require (0xa ≤ supervisionTimeout ∧ supervisionTimeout ≤ 0xc80)
    .unsupportedFeatureOrParameterValue
  .ok ({ s with defaultSubrateParameters :=
    { subrateMin, subrateMax, maxLatency, continuationNumber, supervisionTimeout } }, [])

/-- The connection with other subrate parameters. -/
def withSubrate (connection : LeAclConnection)
    (subrateFactor latency continuationNumber timeout : UInt16) : LeAclConnection :=
  { connection with parameters :=
      { connection.parameters with
        connSubrateFactor := subrateFactor
        connContinuationNumber := continuationNumber
        connPeripheralLatency := latency
        connSupervisionTimeout := timeout } }

/-- LE Subrate Request. -/
def leSubrateRequest (s : LeController) (connection : LeAclConnection)
    (subrateMin subrateMax maxLatency continuationNumber supervisionTimeout : UInt16) :
    Except ErrorCode Handled := do
  require (1 ≤ subrateMin ∧ subrateMin ≤ 0x1f4) .unsupportedFeatureOrParameterValue
  require (1 ≤ subrateMax ∧ subrateMax ≤ 0x1f4) .unsupportedFeatureOrParameterValue
  require (subrateMin ≤ subrateMax) .invalidHciCommandParameters
  require (maxLatency ≤ 0x1f3) .unsupportedFeatureOrParameterValue
  require (continuationNumber ≤ 0x1f3) .unsupportedFeatureOrParameterValue
  require (0xa ≤ supervisionTimeout ∧ supervisionTimeout ≤ 0xc80)
    .unsupportedFeatureOrParameterValue
  require (subrateMax.toNat * (maxLatency.toNat + 1) ≤ 500) .invalidHciCommandParameters
  require (connection.parameters.connInterval.toNat * subrateMax.toNat * (maxLatency.toNat + 1) <
    supervisionTimeout.toNat / 2) .invalidHciCommandParameters
  require (continuationNumber < subrateMax) .invalidHciCommandParameters
  if connection.role = .central then
    .ok
      { connection :=
          { withSubrate connection subrateMax maxLatency continuationNumber supervisionTimeout with
            subrateParameters :=
              { subrateMin, subrateMax, maxLatency, continuationNumber, supervisionTimeout } }
        out := [connection.toPeer (.llSubrateInd ErrorCode.success.toUInt8 subrateMax 0 maxLatency
          continuationNumber supervisionTimeout)]
        tasks := s.scheduleLeEvent .leSubrateChange (.leSubrateChange ErrorCode.success.toUInt8
          connection.handle subrateMax maxLatency continuationNumber supervisionTimeout) }
  else
    .ok
      { connection
        out := [connection.toPeer (.llSubrateReq subrateMin subrateMax maxLatency continuationNumber
          supervisionTimeout)] }

/-- The Central agrees to the subrate the Peripheral asks for. -/
def acceptsSubrate (connection : LeAclConnection)
    (subrateFactorMin subrateFactorMax maxLatency timeout : UInt16) : Bool :=
  connection.subrateParameters.subrateMin ≤ subrateFactorMax ∧
  subrateFactorMin ≤ connection.subrateParameters.subrateMax ∧
  maxLatency ≤ connection.subrateParameters.maxLatency ∧
  timeout ≤ connection.subrateParameters.supervisionTimeout ∧
  -- a request is refused when its timeout is the longer one
  timeout.toNat ≤ connection.parameters.connInterval.toNat * subrateFactorMin.toNat *
    (maxLatency.toNat + 1) * 2

/-- The peer asks for a subrate. -/
def incomingLlSubrateReq (s : LeController) (connection : LeAclConnection)
    (subrateFactorMin subrateFactorMax maxLatency continuationNumber timeout : UInt16) :
    Except Panic Handled := do
  assert (connection.role = .central)
  if acceptsSubrate connection subrateFactorMin subrateFactorMax maxLatency timeout then
    let acceptable := connection.subrateParameters
    let subrateFactor := min subrateFactorMax acceptable.subrateMax
    let continuationNumber :=
      min (max continuationNumber acceptable.continuationNumber) (subrateFactor - 1)
    let peripheralLatency := min maxLatency acceptable.maxLatency
    let supervisionTimeout := min timeout acceptable.supervisionTimeout
    .ok
      { connection :=
          withSubrate connection subrateFactor peripheralLatency continuationNumber
            supervisionTimeout
        out := [connection.toPeer (.llSubrateInd ErrorCode.success.toUInt8 subrateFactor 0
          peripheralLatency continuationNumber supervisionTimeout)]
        tasks := s.scheduleLeEvent .leSubrateChange (.leSubrateChange ErrorCode.success.toUInt8
          connection.handle subrateFactor peripheralLatency continuationNumber supervisionTimeout) }
  else
    .ok
      { connection
        out :=
          [connection.toPeer (.llSubrateInd ErrorCode.invalidLmpOrLlParameters.toUInt8 0 0 0 0 0)] }

/-- The peer has set, or refused, a subrate. -/
def incomingLlSubrateInd (s : LeController) (connection : LeAclConnection) (status : UInt8)
    (subrateFactor latency continuationNumber timeout : UInt16) : Except Panic Handled := do
  assert (connection.role = .peripheral)
  .ok
    { connection :=
        if status = ErrorCode.success.toUInt8 then
          withSubrate connection subrateFactor latency continuationNumber timeout
        else connection
      tasks := s.scheduleLeEvent .leSubrateChange (.leSubrateChange status connection.handle
        subrateFactor latency continuationNumber timeout) }

/-! ## Encryption -/

/-- LE Enable Encryption: the task is scheduled. -/
def leEnableEncryption (connection : LeAclConnection) (handle : UInt16) (rand : UInt64)
    (ediv : UInt16) (ltk : Ltk) : Handled :=
  { connection, tasks := [.handleLeEnableEncryption handle rand ediv ltk] }

/-- The key is sent to the peer. -/
def handleLeEnableEncryption (connection : LeAclConnection) (rand : UInt64) (ediv : UInt16)
    (ltk : Ltk) : Handled :=
  { connection := { connection with ltk := some ltk }
    out := [connection.toPeer (.leEncryptConnection rand ediv ltk)] }

/-- The peer wants encryption: the host is asked for the key. -/
def incomingLeEncryptConnection (s : LeController) (connection : LeAclConnection) (rand : UInt64)
    (ediv : UInt16) (ltk : Ltk) : Handled :=
  { connection := { connection with ltk := some ltk }
    out := s.sendEvent .leMetaEvent (.leLongTermKeyRequest connection.handle rand ediv) }

/-- The host has the key. -/
def leLongTermKeyRequestReply (s : LeController) (connection : LeAclConnection) (handle : UInt16)
    (ltk : Ltk) : Handled :=
  let events :=
    if connection.encrypted then
      s.sendEvent .encryptionKeyRefreshComplete
        (.encryptionKeyRefreshComplete ErrorCode.success.toUInt8 handle)
    else if s.isEventUnmasked .encryptionChangeV2 then
      [.event (.encryptionChangeV2 ErrorCode.success.toUInt8 handle true 0x10)]
    else s.sendEvent .encryptionChange (.encryptionChange ErrorCode.success.toUInt8 handle true)
  { connection := { connection with encrypted := true }
    out := events ++
      [connection.toPeer (.leEncryptConnectionResponse ErrorCode.success.toUInt8 0 0 ltk)] }

/-- The host has no key. -/
def leLongTermKeyRequestNegativeReply (connection : LeAclConnection) : Handled :=
  { connection
    out :=
      [connection.toPeer (.leEncryptConnectionResponse ErrorCode.pinOrKeyMissing.toUInt8 0 0 0)] }

/-- The status of the encryption that the peer answers. -/
def responseStatus (connection : LeAclConnection) (status : UInt8) (ltk : Ltk) : UInt8 :=
  if status ≠ 0 then status
  else if connection.ltk ≠ none ∧ connection.ltk ≠ some ltk then
    ErrorCode.authenticationFailure.toUInt8
  else ErrorCode.success.toUInt8

/-- The peer answers the encryption request. -/
def incomingLeEncryptConnectionResponse (s : LeController) (connection : LeAclConnection)
    (status : UInt8) (ltk : Ltk) : Handled :=
  let status := responseStatus connection status ltk
  let success := status = ErrorCode.success.toUInt8
  { connection := { connection with encrypted := connection.encrypted || success }
    out :=
      if connection.encrypted then
        s.sendEvent .encryptionKeyRefreshComplete
          (.encryptionKeyRefreshComplete status connection.handle)
      else s.sendEvent .encryptionChange (.encryptionChange status connection.handle success) }

end LeController

end RootCanal.LeAcl
