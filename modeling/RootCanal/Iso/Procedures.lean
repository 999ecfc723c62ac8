import RootCanal.Iso.Commands

/-!
# LLCP packets of the ISO manager, and the manager as a machine

One definition for each `ll_…` handler of `IsoManager`, and the machine whose inputs are the HCI
commands, the LLCP packets and the changes of the ACL links.

`LL_CIS_RSP`, `LL_REJECT_EXT_IND` and `LL_CIS_IND` carry no CIS identifier: the handlers take
the first CIS of the link that waits for such a packet, in the order of the hash map.

Source: `rust/src/llcp/iso.rs`, `rust/src/llcp/manager.rs`
-/

namespace RootCanal.Iso

open Lib RootCanal.Hci RootCanal.Llcp

namespace IsoManager

/-- The CIS stored for an LL_CIS_REQ. -/
def requestedCis (aclConnectionHandle cisConnectionHandle : UInt16) (packet : CisReq) : Cis where
  cigId := packet.cigId
  cisId := packet.cisId
  role := .peripheral
  aclConnectionHandle := some aclConnectionHandle
  cisConnectionHandle := cisConnectionHandle
  state := .pendingAccept
  isoDataPathCToP := none
  isoDataPathPToC := none
  parameters := some {
    cigSyncDelay := 0
    cisSyncDelay := 0
    phyCToP := packet.phyCToP
    phyPToC := packet.phyPToC
    nse := packet.nse
    bnCToP := packet.bnCToP
    bnPToC := packet.bnPToC
    ftCToP := packet.ftCToP
    ftPToC := packet.ftPToC
    maxPduCToP := packet.maxPduCToP
    maxPduPToC := packet.maxPduPToC
    maxSduCToP := packet.maxSduCToP
    maxSduPToC := packet.maxSduPToC
    sduIntervalCToP := packet.sduIntervalCToP
    sduIntervalPToC := packet.sduIntervalPToC
    isoInterval := packet.isoInterval
    subInterval := packet.subInterval
    framed := packet.framed ≠ 0 }

/-- The central asks for a stream. -/
def llCisReq (s : IsoManager) (aclConnectionHandle : UInt16) (packet : CisReq) : Outcome := do
  let cisConnectionHandle ← s.newCisConnectionHandle
  reply (s.insertCis (requestedCis aclConnectionHandle cisConnectionHandle packet))
    (.leCisRequest ⟨aclConnectionHandle, cisConnectionHandle, packet.cigId, packet.cisId⟩)

/-- A CIS of the link that waits for the answer to its LL_CIS_REQ. -/
def awaitsRsp (aclConnectionHandle : UInt16) (cis : Cis) : Bool :=
  cis.aclConnectionHandle = some aclConnectionHandle ∧ cis.role = .central ∧
    cis.state = .pendingRsp

/-- The LE CIS Established event of the Central. -/
def establishedCentral (chk : Bool) (handle : UInt16) (p : CisParameters) :
    Except Panic LeCisEstablishedV1 := do
  let transportLatencyCToP ← p.transportLatencyCToP chk
  let transportLatencyPToC ← p.transportLatencyPToC chk
  let phyCToP ← phyType p.phyCToP
  let phyPToC ← phyType p.phyPToC
  .ok {
    status := .success
    connectionHandle := handle
    cigSyncDelay := p.cigSyncDelay
    cisSyncDelay := p.cisSyncDelay
    transportLatencyCToP := transportLatencyCToP
    transportLatencyPToC := transportLatencyPToC
    phyCToP := phyCToP
    phyPToC := phyPToC
    nse := p.nse
    bnCToP := p.bnCToP
    bnPToC := p.bnPToC
    ftCToP := p.ftCToP
    ftPToC := p.ftPToC
    maxPduCToP := p.maxPduCToP.toUInt8
    maxPduPToC := p.maxPduPToC.toUInt8
    isoInterval := p.isoInterval }

/-- The peripheral accepts. -/
def llCisRsp (env : Env) (s : IsoManager) (aclConnectionHandle : UInt16) (_packet : CisRsp) :
    Outcome :=
  match s.getCisConnectionHandle env (awaitsRsp aclConnectionHandle) with
  | none => .ok (s, [])
  | some handle => do
    let s := s.modifyCis handle fun cis => { cis with state := .connected }
    let cis ← unwrap s.cisConnections[handle]?
    let parameters ← unwrap cis.parameters
    let ind ← sendLlcpPacket aclConnectionHandle
        (.cisInd ⟨0, 0, parameters.cigSyncDelay, parameters.cisSyncDelay, 0⟩)
    let event ← establishedCentral env.overflowChecks handle parameters
    let established ← sendHciEvent (.leCisEstablishedV1 event)
    -- Start the next pending connection request.
    let (s, started) ← dequeCisConnectionRequest env s
    .ok (s, ind :: established :: started)

/-- The peer rejects. -/
def llRejectExtInd (env : Env) (s : IsoManager) (aclConnectionHandle : UInt16)
    (packet : RejectExtInd) : Outcome :=
  if packet.rejectOpcode ≠ Opcode.llCisReq then .ok (s, [])
  else
    match s.getCisConnectionHandle env (awaitsRsp aclConnectionHandle) with
    | none => .ok (s, [])
    | some handle => do
      let _ ← unwrap s.cisConnections[handle]?
      let s := s.modifyCis handle fun cis =>
        { cis with state := .configuration, parameters := none }
      let failed ← sendHciEvent
          (.leCisEstablishedV1 (cisFailed .remoteUserTerminatedConnection handle))
      -- Start the next pending connection request.
      let (s, started) ← dequeCisConnectionRequest env s
      .ok (s, failed :: started)

/-- A CIS of the link that was accepted and waits for LL_CIS_IND. -/
def awaitsInd (aclConnectionHandle : UInt16) (cis : Cis) : Bool :=
  cis.aclConnectionHandle = some aclConnectionHandle ∧ cis.role = .peripheral ∧
    cis.state = .pendingInd

/-- The LE CIS Established event of the Peripheral. BN, FT and Max_PDU of the two directions are
exchanged, as they are in the source. -/
def establishedPeripheral (chk : Bool) (handle : UInt16) (p : CisParameters) :
    Except Panic LeCisEstablishedV1 := do
  let transportLatencyCToP ← p.transportLatencyCToP chk
  let transportLatencyPToC ← p.transportLatencyPToC chk
  let phyCToP ← phyType p.phyCToP
  let phyPToC ← phyType p.phyPToC
  .ok {
    status := .success
    connectionHandle := handle
    cigSyncDelay := p.cigSyncDelay
    cisSyncDelay := p.cisSyncDelay
    transportLatencyCToP := transportLatencyCToP
    transportLatencyPToC := transportLatencyPToC
    phyCToP := phyCToP
    phyPToC := phyPToC
    nse := p.nse
    bnPToC := p.bnCToP
    bnCToP := p.bnPToC
    ftPToC := p.ftCToP
    ftCToP := p.ftPToC
    maxPduPToC := p.maxPduCToP.toUInt8
    maxPduCToP := p.maxPduPToC.toUInt8
    isoInterval := p.isoInterval }

/-- The central starts the stream. -/
def llCisInd (env : Env) (s : IsoManager) (aclConnectionHandle : UInt16) (packet : CisInd) :
    Outcome :=
  match s.getCisConnectionHandle env (awaitsInd aclConnectionHandle) with
  | none => .ok (s, [])
  | some handle => do
    let cis ← unwrap s.cisConnections[handle]?
    let accepted ← unwrap cis.parameters
    let parameters := { accepted with
      cigSyncDelay := packet.cigSyncDelay
      cisSyncDelay := packet.cisSyncDelay }
    let s := s.modifyCis handle fun cis =>
      { cis with state := .connected, parameters := some parameters }
    let event ← establishedPeripheral env.overflowChecks handle parameters
    reply s (.leCisEstablishedV1 event)

/-- A CIS of the link with the identifiers of an LL_CIS_TERMINATE_IND. -/
def terminates (aclConnectionHandle : UInt16) (packet : CisTerminateInd) (cis : Cis) : Bool :=
  cis.aclConnectionHandle = some aclConnectionHandle ∧ cis.cigId = packet.cigId ∧
    cis.cisId = packet.cisId

/-- The peer ends the stream. -/
def llCisTerminateInd (env : Env) (s : IsoManager) (aclConnectionHandle : UInt16)
    (packet : CisTerminateInd) : Outcome :=
  match s.getCisConnectionHandle env (terminates aclConnectionHandle packet) with
  | none => .ok (s, [])
  | some handle => do
    let reason ← unwrapResult (ErrorCode.tryFrom packet.errorCode)
    let complete ← sendHciEvent (.disconnectionComplete ⟨.success, handle, reason⟩)
    .ok (s.removeCis handle, [complete])

/-! ## The manager as a machine -/

/-- The handler of a command, as `LinkLayer::ingest_hci` calls it.
Source: `ingest_hci` -/
def handleHci (env : Env) (s : IsoManager) : Command → Outcome
  | .disconnect packet => s.hciDisconnect packet
  | .leSetCigParameters packet => s.hciLeSetCigParameters env packet
  | .leSetCigParametersTest packet => s.hciLeSetCigParametersTest env packet
  | .leCreateCis packet => s.hciLeCreateCis env packet
  | .leRemoveCig packet => s.hciLeRemoveCig packet
  | .leAcceptCisRequest packet => s.hciLeAcceptCisRequest packet
  | .leRejectCisRequest packet => s.hciLeRejectCisRequest packet
  | .leSetupIsoDataPath packet => s.hciLeSetupIsoDataPath packet
  | .leRemoveIsoDataPath packet => s.hciLeRemoveIsoDataPath packet
  | .leCreateBig packet => s.hciLeCreateBig env packet
  | .leTerminateBig packet => s.hciLeTerminateBig packet

/-- The handler of a packet. `LinkLayer::ingest_llcp` calls the same one, but panics by itself on
the rejection of any other procedure than LL_CIS_REQ, which the handler ignores.
Source: `ingest_llcp` -/
def handleLlcp (env : Env) (s : IsoManager) (aclConnectionHandle : UInt16) : LlcpPacket → Outcome
  | .rejectExtInd packet => s.llRejectExtInd env aclConnectionHandle packet
  | .cisReq packet => s.llCisReq aclConnectionHandle packet
  | .cisRsp packet => s.llCisRsp env aclConnectionHandle packet
  | .cisInd packet => s.llCisInd env aclConnectionHandle packet
  | .cisTerminateInd packet => s.llCisTerminateInd env aclConnectionHandle packet

end IsoManager

/-- What can happen to an ISO manager. -/
inductive Input
  | hci (command : Command)
  | llcp (aclConnectionHandle : UInt16) (packet : LlcpPacket)
  | addAclConnection (aclConnectionHandle : UInt16) (role : Role)
  | removeAclConnection (aclConnectionHandle : UInt16) (reason : ErrorCode)

/-- The ISO manager as a machine. Every step has its own environment. -/
def isoManager : Machine IsoManager (Env × Input) Output where
  step s
    | (env, .hci command) => s.handleHci env command
    | (env, .llcp aclConnectionHandle packet) => s.handleLlcp env aclConnectionHandle packet
    | (_, .addAclConnection aclConnectionHandle role) =>
      .ok (s.addAclConnection aclConnectionHandle role, [])
    | (env, .removeAclConnection aclConnectionHandle reason) =>
      s.removeAclConnection env aclConnectionHandle reason

end RootCanal.Iso
