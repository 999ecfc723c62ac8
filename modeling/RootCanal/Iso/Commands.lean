import RootCanal.Iso.Manager

/-!
# HCI commands of the ISO manager

One definition for each `hci_…` handler of `IsoManager`.  The two commands that configure a CIG
check and store their CISes in the same way; what they share is stated once over the identifier
and configuration of each CIS (`checkCisConfig`, `checkCig`, `configureCig`), and each keeps
what is its own: LE Set CIG Parameters derives the ISO interval from the transport latencies,
the Test form takes it from the host.

Source: `rust/src/llcp/iso.rs`
-/

namespace RootCanal.Iso

open Lib RootCanal.Hci RootCanal.Llcp

namespace IsoManager

/-! ## Configuring a CIG -/

/-- Source: `hci_le_set_cig_parameters` -/
def cisParametersConfig (cis : CisParametersConfig) : UInt8 × CisConfig :=
  (cis.cisId, {
    maxSduCToP := cis.maxSduCToP
    maxSduPToC := cis.maxSduPToC
    phyCToP := cis.phyCToP
    phyPToC := cis.phyPToC
    nse := none
    bnCToP := none
    bnPToC := none
    maxPduCToP := none
    maxPduPToC := none })

/-- Source: `hci_le_set_cig_parameters_test` -/
def leCisParametersTestConfig (cis : LeCisParametersTestConfig) : UInt8 × CisConfig :=
  (cis.cisId, {
    maxSduCToP := cis.maxSduCToP
    maxSduPToC := cis.maxSduPToC
    phyCToP := cis.phyCToP
    phyPToC := cis.phyPToC
    nse := some cis.nse
    bnCToP := some cis.bnCToP
    bnPToC := some cis.bnPToC
    maxPduCToP := some cis.maxPduCToP
    maxPduPToC := some cis.maxPduPToC })

/-- The checks made on each CIS of the command, in order; the first that fails gives the
status. -/
def checkCisConfig (env : Env) (s : IsoManager) (cigId cisId : UInt8) (cis : CisConfig) :
    Except ErrorCode Unit :=
  let connection := (s.cisConnections.values env.order).find? fun c =>
    c.cisId = cisId ∧ c.cigId = cigId ∧ c.role = .central
  let isoDataPathCToP := connection.bind Cis.isoDataPathCToP
  let isoDataPathPToC := connection.bind Cis.isoDataPathPToC
  if cis.phyCToP = 0 ∨ cis.phyPToC = 0 then .error .unsupportedFeatureOrParameterValue
  else if cis.phyCToP &&& ~~~env.supportedPhys ≠ 0 ∨
      cis.phyPToC &&& ~~~env.supportedPhys ≠ 0 then .error .unsupportedFeatureOrParameterValue
  else if cis.maxSduCToP = 0 ∧ isoDataPathCToP.isSome then .error .commandDisallowed
  else if cis.maxSduPToC = 0 ∧ isoDataPathPToC.isSome then .error .commandDisallowed
  else if cis.maxSduCToP > 0xfff ∨ cis.maxSduPToC > 0xfff then
    .error .invalidHciCommandParameters
  else .ok ()

/-- Some CIS of the CIG, of the command or kept from before, carries data in the direction in
which `maxSdu` is the maximum SDU. -/
def configures (s : IsoManager) (cigId : UInt8) (cises : List (UInt8 × CisConfig))
    (maxSdu : CisConfig → UInt16) : Bool :=
  cises.any (fun cis => maxSdu cis.2 ≠ 0) ||
    s.cisConfig.any fun key cis =>
      key.1 == cigId && maxSdu cis != 0 && cises.all fun new => new.1 != key.2

/-- Source: `hci_le_set_cig_parameters` -/
def configuresCToP (s : IsoManager) (cigId : UInt8) (cises : List (UInt8 × CisConfig)) : Bool :=
  s.configures cigId cises CisConfig.maxSduCToP

/-- Source: `hci_le_set_cig_parameters` -/
def configuresPToC (s : IsoManager) (cigId : UInt8) (cises : List (UInt8 × CisConfig)) : Bool :=
  s.configures cigId cises CisConfig.maxSduPToC

/-- The checks the two commands share, up to the range of the SDU intervals. -/
def checkCig (env : Env) (s : IsoManager) (cigId : UInt8)
    (sduIntervalCToP sduIntervalPToC : UInt32) (cises : List (UInt8 × CisConfig)) :
    Except ErrorCode Unit :=
  if ¬ ((s.cigConfig[cigId]?).map CigConfig.configurable).getD true then
    .error .commandDisallowed
  else do
    cises.forM fun cis => s.checkCisConfig env cigId cis.1 cis.2
    if (s.configuresCToP cigId cises ∧ ¬ (0xff ≤ sduIntervalCToP ∧ sduIntervalCToP ≤ 0xfffff)) ∨
        (s.configuresPToC cigId cises ∧ ¬ (0xff ≤ sduIntervalPToC ∧ sduIntervalPToC ≤ 0xfffff))
    then .error .invalidHciCommandParameters
    else .ok ()

/-- Store the configuration of each CIS, with a Central connection for it. Returns the handles
of the connections. -/
def configureCises (env : Env) (cigId : UInt8) :
    List (UInt8 × CisConfig) → IsoManager → Except Panic (IsoManager × List UInt16)
  | [], s => .ok (s, [])
  | (cisId, cis) :: cises, s => do
    let (s, handle) ← newCisConnection env
      { s with cisConfig := s.cisConfig.insert (cigId, cisId) cis } cigId cisId .central
    let (s, handles) ← configureCises env cigId cises s
    .ok (s, handle :: handles)

/-- Store a CIG and its CISes; `update` sets the fields of the CIG, which stays as
configurable as it was. -/
def configureCig (env : Env) (s : IsoManager) (cigId : UInt8) (update : CigConfig → CigConfig)
    (cises : List (UInt8 × CisConfig)) : Except Panic (IsoManager × List UInt16) :=
  let cig := (s.cigConfig[cigId]?).getD CigConfig.default
  configureCises env cigId cises { s with cigConfig := s.cigConfig.insert cigId (update cig) }

/-- LE Set CIG Parameters. -/
def hciLeSetCigParameters (env : Env) (s : IsoManager) (packet : LeSetCigParameters) : Outcome :=
  let commandComplete (status : ErrorCode) (handles : List UInt16) : Event :=
    .leSetCigParametersComplete ⟨status, packet.cigId, handles, 1⟩
  let framed : Bool := packet.framing = .enabled
  let cises := packet.cisConfig.map cisParametersConfig
  match s.checkCig env packet.cigId packet.sduIntervalCToP packet.sduIntervalPToC cises with
  | .error status => reply s (commandComplete status [])
  | .ok () =>
    if (s.configuresCToP packet.cigId cises ∧
          ¬ (0x5 ≤ packet.maxTransportLatencyCToP ∧ packet.maxTransportLatencyCToP ≤ 0xfa0)) ∨
        (s.configuresPToC packet.cigId cises ∧
          ¬ (0x5 ≤ packet.maxTransportLatencyPToC ∧ packet.maxTransportLatencyPToC ≤ 0xfa0))
    then reply s (commandComplete .invalidHciCommandParameters [])
    else do
      -- the latencies are 16 bit wide, so the products fit 32 bits
      match ← isoInterval env.overflowChecks env.lcm packet.sduIntervalCToP
        packet.sduIntervalPToC framed (packet.maxTransportLatencyCToP.toUInt32 * 1000)
          (packet.maxTransportLatencyPToC.toUInt32 * 1000) with
      | none => reply s (commandComplete .unsupportedFeatureOrParameterValue [])
      | some interval => do
        let (s, handles) ← s.configureCig env packet.cigId (fun cig => { cig with
          isoInterval := interval
          sduIntervalCToP := packet.sduIntervalCToP
          sduIntervalPToC := packet.sduIntervalPToC
          ftCToP := 1
          ftPToC := 1
          framed := framed }) cises
        reply s (commandComplete .success handles)

/-- LE Set CIG Parameters Test. -/
def hciLeSetCigParametersTest (env : Env) (s : IsoManager) (packet : LeSetCigParametersTest) :
    Outcome :=
  let commandComplete (status : ErrorCode) (handles : List UInt16) : Event :=
    .leSetCigParametersTestComplete ⟨status, packet.cigId, handles, 1⟩
  let framed : Bool := packet.framing = .enabled
  let cises := packet.cisConfig.map leCisParametersTestConfig
  match s.checkCig env packet.cigId packet.sduIntervalCToP packet.sduIntervalPToC cises with
  | .error status => reply s (commandComplete status [])
  | .ok () => do
    let (s, handles) ← s.configureCig env packet.cigId (fun cig => { cig with
      isoInterval := packet.isoInterval
      sduIntervalCToP := packet.sduIntervalCToP
      sduIntervalPToC := packet.sduIntervalPToC
      ftCToP := packet.ftCToP
      ftPToC := packet.ftPToC
      framed := framed }) cises
    reply s (commandComplete .success handles)

/-- The CIG is in the active state: one of its CISes has left the configuration state. -/
def cigActive (s : IsoManager) (cigId : UInt8) : Bool :=
  s.cisConnections.any fun _ cis =>
    cis.role == .central && cis.cigId == cigId && cis.state != .configuration

/-- The state once the configuration of a CIG and its Central connections are removed. -/
def dropCig (s : IsoManager) (cigId : UInt8) : IsoManager :=
  { s with
    cigConfig := s.cigConfig.erase cigId
    cisConfig := s.cisConfig.retain fun key _ => key.1 ≠ cigId
    cisConnections := s.cisConnections.retain fun _ cis =>
      cis.role ≠ .central ∨ cis.cigId ≠ cigId }

/-- LE Remove CIG. -/
def hciLeRemoveCig (s : IsoManager) (packet : LeRemoveCig) : Outcome :=
  let commandComplete (status : ErrorCode) : Event :=
    .leRemoveCigComplete ⟨status, packet.cigId, 1⟩
  if ¬ s.cigConfig.contains packet.cigId then reply s (commandComplete .unknownConnection)
  else if s.cigActive packet.cigId then reply s (commandComplete .commandDisallowed)
  else reply (s.dropCig packet.cigId) (commandComplete .success)

/-! ## Creating a CIS -/

/-- The requests of an LE Create CIS command, checked element by element; `requests` are those
of the elements before. -/
def checkCisRequests (s : IsoManager) :
    List LeCreateCisConfig → List CisRequest → Except ErrorCode (List CisRequest)
  | [], requests => .ok requests
  | config :: configs, requests =>
    match s.aclConnections[config.aclConnectionHandle]? with
    | none => .error .unknownConnection
    | some .peripheral => .error .invalidHciCommandParameters
    | some .central =>
      match s.cisConnections[config.cisConnectionHandle]? with
      | none => .error .unknownConnection
      | some cis =>
        if cis.state ≠ .configuration then .error .connectionAlreadyExists
        else if requests.any fun request =>
            request.cisConnectionHandle = config.cisConnectionHandle then
          .error .invalidHciCommandParameters
        else
          checkCisRequests s configs (requests ++ [{
            cisConnectionHandle := config.cisConnectionHandle
            aclConnectionHandle := config.aclConnectionHandle
            cigId := cis.cigId
            cisId := cis.cisId }])

/-- Tag the CIGs of the requests as no longer configurable. -/
def tagNotConfigurable :
    List CisRequest → HashMap UInt8 CigConfig → Except Panic (HashMap UInt8 CigConfig)
  | [], cigConfig => .ok cigConfig
  | request :: requests, cigConfig => do
    let _ ← unwrap cigConfig[request.cigId]?
    tagNotConfigurable requests (cigConfig.modify request.cigId fun cig =>
      { cig with configurable := false })

/-- LE Create CIS. -/
def hciLeCreateCis (env : Env) (s : IsoManager) (packet : LeCreateCis) : Outcome :=
  let commandStatus (status : ErrorCode) : Event := .leCreateCisStatus ⟨status, 1⟩
  match s.checkCisRequests packet.cisConfig [] with
  | .error status => reply s (commandStatus status)
  | .ok requests =>
    if s.cisConnectionRequests ≠ [] then reply s (commandStatus .commandDisallowed)
    else if ¬ env.connectedIsochronousStreamHostSupport then
      reply s (commandStatus .commandDisallowed)
    else do
      let cigConfig ← tagNotConfigurable requests s.cigConfig
      let (s, started) ← dequeCisConnectionRequest env { s with
        cigConfig := cigConfig
        cisConnectionRequests := requests.reverse }
      let status ← sendHciEvent (commandStatus .success)
      .ok (s, started ++ [status])

/-- LE Accept CIS Request. -/
def hciLeAcceptCisRequest (s : IsoManager) (packet : LeAcceptCisRequest) : Outcome :=
  let commandStatus (status : ErrorCode) : Event := .leAcceptCisRequestStatus ⟨status, 1⟩
  match s.cisConnections[packet.connectionHandle]? with
  | none => reply s (commandStatus .unknownConnection)
  | some cis =>
    if cis.role = .central then reply s (commandStatus .commandDisallowed)
    else if cis.state ≠ .pendingAccept then reply s (commandStatus .commandDisallowed)
    else do
      let aclConnectionHandle ← unwrap cis.aclConnectionHandle
      let rsp ← sendLlcpPacket aclConnectionHandle (.cisRsp ⟨0, 0xffffff, 0⟩)
      let status ← sendHciEvent (commandStatus .success)
      .ok (s.modifyCis packet.connectionHandle fun cis => { cis with state := .pendingInd },
        [rsp, status])

/-- LE Reject CIS Request. -/
def hciLeRejectCisRequest (s : IsoManager) (packet : LeRejectCisRequest) : Outcome :=
  let commandComplete (status : ErrorCode) : Event :=
    .leRejectCisRequestComplete ⟨status, packet.connectionHandle, 1⟩
  match s.cisConnections[packet.connectionHandle]? with
  | none => reply s (commandComplete .unknownConnection)
  | some cis =>
    if cis.role = .central then reply s (commandComplete .commandDisallowed)
    else if cis.state ≠ .pendingAccept then reply s (commandComplete .commandDisallowed)
    else do
      let aclConnectionHandle ← unwrap cis.aclConnectionHandle
      let errorCode : ErrorCode :=
        if packet.reason = .success then .remoteUserTerminatedConnection else packet.reason
      let reject ← sendLlcpPacket aclConnectionHandle
          (.rejectExtInd ⟨Opcode.llCisReq, errorCode.toUInt8⟩)
      let complete ← sendHciEvent (commandComplete .success)
      .ok (s.removeCis packet.connectionHandle, [reject, complete])

/-! ## Data paths -/

/-- The data path directions of C->P and of P->C, seen from the host of this side. -/
def dataPathDirections (role : Role) : DataPathDirection × DataPathDirection :=
  if role = .central then (.output, .input) else (.input, .output)

/-- LE Setup ISO Data Path. -/
def hciLeSetupIsoDataPath (s : IsoManager) (packet : LeSetupIsoDataPath) : Outcome :=
  let commandComplete (status : ErrorCode) : Event :=
    .leSetupIsoDataPathComplete ⟨status, packet.connectionHandle, 1⟩
  let direction := packet.dataPathDirection
  if packet.codecConfiguration ≠ [] ∧ packet.codecId = 0x3 then
    reply s (commandComplete .invalidHciCommandParameters)
  else
    match s.cisConnections[packet.connectionHandle]?,
      s.bisConnections[packet.connectionHandle]? with
    | some cis, _ =>
      let (cToPDirection, pToCDirection) := dataPathDirections cis.role
      if cis.isoDataPathCToP.isSome ∧ direction = cToPDirection then
        reply s (commandComplete .commandDisallowed)
      else if cis.isoDataPathPToC.isSome ∧ direction = pToCDirection then
        reply s (commandComplete .commandDisallowed)
      else if cis.role = .peripheral ∧ cis.state = .pendingAccept then
        reply s (commandComplete .commandDisallowed)
      else
        reply (s.modifyCis packet.connectionHandle fun cis =>
          if direction = cToPDirection then { cis with isoDataPathCToP := some .hci }
          else { cis with isoDataPathPToC := some .hci }) (commandComplete .success)
    | none, some bis =>
      if (bis.role = .central ∧ direction = .output) ∨
        (bis.role = .peripheral ∧ direction = .input) then
        reply s (commandComplete .commandDisallowed)
      else if bis.isoDataPath.isSome then reply s (commandComplete .commandDisallowed)
      else
        reply (s.modifyBis packet.connectionHandle fun bis =>
          { bis with isoDataPath := some .hci }) (commandComplete .success)
    | none, none => reply s (commandComplete .unknownConnection)

/-- Whether the data paths of C->P and of P->C are removed, on this side. -/
def removedDataPaths (role : Role) (removeInput removeOutput : Bool) : Bool × Bool :=
  if role = .central then (removeOutput, removeInput) else (removeInput, removeOutput)

/-- LE Remove ISO Data Path. -/
def hciLeRemoveIsoDataPath (s : IsoManager) (packet : LeRemoveIsoDataPath) : Outcome :=
  let commandComplete (status : ErrorCode) : Event :=
    .leRemoveIsoDataPathComplete ⟨status, packet.connectionHandle, 1⟩
  let removeInput : Bool := packet.removeInputDataPath ≠ 0
  let removeOutput : Bool := packet.removeOutputDataPath ≠ 0
  match s.cisConnections[packet.connectionHandle]?, s.bisConnections[packet.connectionHandle]? with
  | some cis, _ =>
    let (removeCToP, removePToC) := removedDataPaths cis.role removeInput removeOutput
    if cis.isoDataPathCToP.isNone ∧ removeCToP then reply s (commandComplete .commandDisallowed)
    else if cis.isoDataPathPToC.isNone ∧ removePToC then
      reply s (commandComplete .commandDisallowed)
    else
      reply (s.modifyCis packet.connectionHandle fun cis => { cis with
        isoDataPathCToP := if removeCToP then none else cis.isoDataPathCToP
        isoDataPathPToC := if removePToC then none else cis.isoDataPathPToC })
        (commandComplete .success)
  | none, some bis =>
    if bis.isoDataPath.isNone ∨ removeOutput then reply s (commandComplete .commandDisallowed)
    else
      reply (s.modifyBis packet.connectionHandle fun bis =>
        { bis with isoDataPath := if removeInput then none else bis.isoDataPath })
        (commandComplete .success)
  | none, none => reply s (commandComplete .unknownConnection)

/-! ## Ending a CIS -/

/-- A Central keeps the connection of a disconnected CIS, a Peripheral drops it. -/
def endCis (s : IsoManager) (handle : UInt16) (cis : Cis) : IsoManager :=
  if cis.role = .central then s.modifyCis handle fun cis => { cis with state := .configuration }
  else s.removeCis handle

/-- Disconnect, of a CIS. -/
def hciDisconnect (s : IsoManager) (packet : Disconnect) : Outcome :=
  let commandStatus (status : ErrorCode) : Event := .disconnectStatus ⟨status, 1⟩
  match s.cisConnections[packet.connectionHandle]? with
  | none => reply s (commandStatus .unknownConnection)
  | some cis =>
    if ¬ (cis.state = .connected ∨ cis.state = .pendingRsp) then
      reply s (commandStatus .commandDisallowed)
    else do
      let aclConnectionHandle ← unwrap cis.aclConnectionHandle
      let terminate ← sendLlcpPacket aclConnectionHandle
          (.cisTerminateInd ⟨cis.cigId, cis.cisId, packet.reason⟩)
      let status ← sendHciEvent (commandStatus .success)
      let complete ← sendHciEvent (.disconnectionComplete
        ⟨.success, packet.connectionHandle, .connectionTerminatedByLocalHost⟩)
      .ok (s.endCis packet.connectionHandle cis, [terminate, status, complete])

/-! ## Broadcast groups -/

/-- The checks of LE Create BIG, in order. -/
def checkBig (env : Env) (s : IsoManager) (packet : LeCreateBig) : Except ErrorCode Unit :=
  if packet.bigHandle > 0xef then .error .invalidHciCommandParameters
  else if s.bigConfig.contains packet.bigHandle then .error .commandDisallowed
  else if packet.advertisingHandle > 0xef then .error .invalidHciCommandParameters
  else if (env.advertiserInfo packet.advertisingHandle).isNone then
    .error .unknownAdvertisingIdentifier
  else if env.advertiserInfo packet.advertisingHandle = some false then
    .error .unknownAdvertisingIdentifier
  else if s.bigConfig.any fun _ big => big.advertisingHandle == packet.advertisingHandle then
    .error .unknownAdvertisingIdentifier
  else if ¬ (0x01 ≤ packet.numBis ∧ packet.numBis ≤ 0x1f) then .error .invalidHciCommandParameters
  else if ¬ (0xff ≤ packet.sduInterval ∧ packet.sduInterval ≤ 0xfffff) then
    .error .invalidHciCommandParameters
  else if ¬ (0x1 ≤ packet.maxSdu ∧ packet.maxSdu ≤ 0xfff) then .error .invalidHciCommandParameters
  else if ¬ (0x5 ≤ packet.maxTransportLatency ∧ packet.maxTransportLatency ≤ 0xfa0) then
    .error .invalidHciCommandParameters
  else if packet.rtn > 0xf then .error .invalidHciCommandParameters
  else if packet.phy.toUInt8 = 0 then .error .invalidHciCommandParameters
  else if packet.packing.toUInt8 > 0x1 then .error .invalidHciCommandParameters
  else if packet.framing.toUInt8 > 0x1 then .error .invalidHciCommandParameters
  else if packet.encryption.toUInt8 > 0x1 then .error .invalidHciCommandParameters
  else .ok ()

/-- Create the BISes of a BIG. Returns their handles. -/
def createBises (packet : LeCreateBig) :
    List UInt8 → IsoManager → Except Panic (IsoManager × List UInt16)
  | [], s => .ok (s, [])
  | bisId :: bisIds, s => do
    let handle ← s.newBisConnectionHandle
    let (s, handles) ← createBises packet bisIds { s with
      bisConnections := s.bisConnections.insert handle {
        bisConnectionHandle := handle
        bigHandle := packet.bigHandle
        bisId := bisId
        advertisingHandle := packet.advertisingHandle
        role := .central
        maxSdu := packet.maxSdu
        isoDataPath := none } }
    .ok (s, handle :: handles)

/-- The ISO interval of a BIG is the SDU interval divided by 1250 in double precision, rounded
up. An SDU interval has at most 20 bits here, so that the quotient is within 2^-40 of the exact
one: it is an integer exactly when the division leaves no remainder, and rounds up as the exact
quotient does. -/
def hciLeCreateBig (env : Env) (s : IsoManager) (packet : LeCreateBig) : Outcome :=
  let commandStatus (status : ErrorCode) : Event := .leCreateBigStatus ⟨status, 1⟩
  match s.checkBig env packet with
  | .error status => reply s (commandStatus status)
  | .ok () => do
    let status ← sendHciEvent (commandStatus .success)
    let (s, handles) ← createBises packet
      ((List.range' 1 packet.numBis.toNat).map UInt8.ofNat) { s with
        bigConfig := s.bigConfig.insert packet.bigHandle {
          bigHandle := packet.bigHandle
          advertisingHandle := packet.advertisingHandle
          numBis := packet.numBis
          sduInterval := packet.sduInterval
          maxSdu := packet.maxSdu
          maxTransportLatency := packet.maxTransportLatency
          rtn := packet.rtn
          phy := packet.phy.toUInt8
          packing := packet.packing.toUInt8
          framing := packet.framing.toUInt8
          encryption := packet.encryption.toUInt8 ≠ 0
          broadcastCode := packet.broadcastCode } }
    let isoInterval := UInt16.ofNat ((packet.sduInterval.toNat + 1249) / 1250)
    -- `rtn` is at most 15 and the SDU interval at most 20 bits wide: no overflow below
    let nse := 1 * (packet.rtn + 1)
    if nse > 31 then do
      let invalid ← sendHciEvent (commandStatus .invalidHciCommandParameters)
      .ok (s, [status, invalid])
    else do
      let complete ← sendHciEvent (.leCreateBigComplete {
        status := .success
        bigHandle := packet.bigHandle
        bigSyncDelay := 0
        transportLatencyBig := packet.sduInterval * 2
        phy := packet.phy
        nse := nse
        bn := 1
        pto := 0
        irc := packet.rtn + 1
        maxPdu := packet.maxSdu
        isoInterval := isoInterval
        connectionHandle := handles })
      .ok (s, [status, complete])

/-- LE Terminate BIG. -/
def hciLeTerminateBig (s : IsoManager) (packet : LeTerminateBig) : Outcome :=
  let commandStatus (status : ErrorCode) : Event := .leTerminateBigStatus ⟨status, 1⟩
  if packet.bigHandle > 0xef then reply s (commandStatus .invalidHciCommandParameters)
  else
    let removed := { s with bigConfig := s.bigConfig.erase packet.bigHandle }
    if ¬ s.bigConfig.contains packet.bigHandle then
      reply removed (commandStatus .unknownAdvertisingIdentifier)
    else do
      let status ← sendHciEvent (commandStatus .success)
      let complete ← sendHciEvent (.leTerminateBigComplete ⟨packet.bigHandle, packet.reason⟩)
      .ok ({ removed with bisConnections := s.bisConnections.retain fun _ bis =>
        bis.bigHandle ≠ packet.bigHandle }, [status, complete])

end IsoManager

end RootCanal.Iso
