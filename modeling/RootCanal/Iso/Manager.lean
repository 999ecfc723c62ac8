import RootCanal.Lib.HashMap
import RootCanal.Lib.Machine
import RootCanal.Iso.Parameters

/-!
# The ISO manager

The state of `IsoManager` and its handlers, in the order of the source.  A handler takes the
manager and a packet and gives the manager afterwards with what was sent, or a panic.

What a handler reads besides its arguments is in `Env`: the answers of the controller callbacks,
the order in which the hash map of CIS connections is visited, and whether the build traps
arithmetic overflow.  `Env` is an input of every step, so nothing below depends on a particular
iteration order or feature mask.

The console output of the source is left out.

Source: `rust/src/llcp/iso.rs`
-/

namespace RootCanal.Iso

open Lib RootCanal.Hci RootCanal.Llcp

/-- Pairs are ordered lexicographically, to key the CIS configurations. -/
instance cisKeyOrd : Ord (UInt8 × UInt8) := lexOrd

/-! ## State -/

/-- Where the data of a CIS goes. -/
inductive IsoDataPath
  | hci
deriving DecidableEq, Repr

/-- BIG configuration. -/
structure BigConfig where
  bigHandle : UInt8
  advertisingHandle : UInt8
  numBis : UInt8
  sduInterval : UInt32
  maxSdu : UInt16
  maxTransportLatency : UInt16
  rtn : UInt8
  phy : UInt8
  packing : UInt8
  framing : UInt8
  encryption : Bool
  broadcastCode : Vector UInt8 16
deriving DecidableEq

/-- BIS configuration. -/
structure Bis where
  bisConnectionHandle : UInt16
  bigHandle : UInt8
  bisId : UInt8
  advertisingHandle : UInt8
  role : Role
  maxSdu : UInt16
  isoDataPath : Option IsoDataPath
deriving DecidableEq, Repr

/-- A pending LE Create CIS request. -/
structure CisRequest where
  cigId : UInt8
  cisId : UInt8
  aclConnectionHandle : UInt16
  cisConnectionHandle : UInt16
deriving DecidableEq, Repr

/-- How far a CIS is. -/
inductive CisState
  | configuration
  | pendingRsp
  | pendingAccept
  | pendingInd
  | connected
deriving DecidableEq, Repr

/-- Established CIS configuration. -/
structure Cis where
  cigId : UInt8
  cisId : UInt8
  role : Role
  cisConnectionHandle : UInt16
  aclConnectionHandle : Option UInt16
  state : CisState
  parameters : Option CisParameters
  isoDataPathCToP : Option IsoDataPath
  isoDataPathPToC : Option IsoDataPath
deriving DecidableEq, Repr

/-- ISO manager state. -/
structure IsoManager where
  /-- CIG configuration. -/
  cigConfig : HashMap UInt8 CigConfig
  /-- BIG configuration. -/
  bigConfig : HashMap UInt8 BigConfig
  /-- CIS configuration. -/
  cisConfig : HashMap (UInt8 × UInt8) CisConfig
  /-- BIS configuration. -/
  bisConnections : HashMap UInt16 Bis
  /-- Mapping from ACL connection handle to connection role. -/
  aclConnections : HashMap UInt16 Role
  /-- Mapping from CIS connection handle to a CIS connection opened as central (initiated a
  LL_CIS_REQ) or peripheral (accepted with LL_CIS_RSP). Central connections are in the
  configuration state as long as HCI LE Create CIS has not been invoked. -/
  cisConnections : HashMap UInt16 Cis
  /-- Pending CIS connection requests, initiated from the command HCI LE Create CIS. The last
  element is the next to be started. -/
  cisConnectionRequests : List CisRequest
deriving DecidableEq

/-- What a handler reads besides its arguments and the state. -/
structure Env where
  /-- The answer of `get_le_features`. -/
  leFeatures : UInt64
  /-- The answers of `get_advertiser_info`: whether periodic advertising is enabled, for the
  advertising sets that exist. -/
  advertiserInfo : UInt8 → Option Bool
  /-- The order in which `cis_connections` is visited. -/
  order : IterOrder UInt16
  /-- Whether the build traps arithmetic overflow. -/
  overflowChecks : Bool
  /-- The least common multiple of the `num_integer` crate, without a result where it overflows. -/
  lcm : UInt32 → UInt32 → Option UInt32

/-- What the manager sends: events to its host, LLCP packets on its ACL links. -/
inductive Output
  | hci (event : Event)
  | llcp (aclConnectionHandle : UInt16) (packet : LlcpPacket)
deriving DecidableEq, Repr

/-- The result of a handler. -/
abbrev Outcome := Except Panic (IsoManager × List Output)

/-- An event for the host; its fields have to fit. -/
def sendHciEvent (event : Event) : Except Panic Output :=
  if event.fits then .ok (.hci event) else .error .encode

/-- A PDU for the peer; its fields have to fit. -/
def sendLlcpPacket (aclConnectionHandle : UInt16) (packet : LlcpPacket) : Except Panic Output :=
  if packet.fits then .ok (.llcp aclConnectionHandle packet) else .error .encode

/-- Send one event and return. -/
def reply (s : IsoManager) (event : Event) : Outcome := do
  let output ← sendHciEvent event
  .ok (s, [output])

namespace Env

/-- The PHYs the controller has. -/
def supportedPhys (env : Env) : UInt8 :=
  0x1 ||| (if env.leFeatures &&& LLFeaturesBits.le2mPhy ≠ 0 then 0x2 else 0) |||
    (if env.leFeatures &&& LLFeaturesBits.leCodedPhy ≠ 0 then 0x4 else 0)

/-- The host has set the feature bit. -/
def connectedIsochronousStreamHostSupport (env : Env) : Bool :=
  env.leFeatures &&& LLFeaturesBits.connectedIsochronousStreamHostSupport != 0

end Env

namespace IsoManager

/-- No connections, no groups. -/
def new : IsoManager where
  cigConfig := ∅
  bigConfig := ∅
  cisConfig := ∅
  bisConnections := ∅
  aclConnections := ∅
  cisConnections := ∅
  cisConnectionRequests := []

/-- Change the entry of a CIS connection handle, if there is one. -/
def modifyCis (s : IsoManager) (handle : UInt16) (f : Cis → Cis) : IsoManager :=
  { s with cisConnections := s.cisConnections.modify handle f }

/-- Drop the entry of a CIS connection handle. -/
def removeCis (s : IsoManager) (handle : UInt16) : IsoManager :=
  { s with cisConnections := s.cisConnections.erase handle }

/-- Store a CIS under its own handle. -/
def insertCis (s : IsoManager) (cis : Cis) : IsoManager :=
  { s with cisConnections := s.cisConnections.insert cis.cisConnectionHandle cis }

/-- Change the entry of a BIS connection handle, if there is one. -/
def modifyBis (s : IsoManager) (handle : UInt16) (f : Bis → Bis) : IsoManager :=
  { s with bisConnections := s.bisConnections.modify handle f }

/-! ## ACL links -/

/-- An ACL connection is made. -/
def addAclConnection (s : IsoManager) (aclConnectionHandle : UInt16) (role : Role) : IsoManager :=
  { s with aclConnections := s.aclConnections.insert aclConnectionHandle role }

/-- The LE CIS Established event that reports a failed attempt.
Source: `remove_acl_connection`, `ll_reject_ext_ind` -/
def cisFailed (status : ErrorCode) (cisConnectionHandle : UInt16) : LeCisEstablishedV1 where
  status := status
  connectionHandle := cisConnectionHandle
  cigSyncDelay := 0
  cisSyncDelay := 0
  transportLatencyCToP := 0
  transportLatencyPToC := 0
  phyCToP := .noPackets
  phyPToC := .noPackets
  nse := 0
  bnCToP := 0
  bnPToC := 0
  ftCToP := 0
  ftPToC := 0
  maxPduCToP := 0
  maxPduPToC := 0
  isoInterval := 0

/-- What the loss of an ACL link makes the manager report for one of its CISes: a connected CIS
is disconnected, an initiated or accepted one fails. -/
def linkLoss? (reason : ErrorCode) (cis : Cis) : Option Event :=
  match cis.state with
  | .connected => some (.disconnectionComplete ⟨.success, cis.cisConnectionHandle, reason⟩)
  | .pendingRsp | .pendingInd =>
    some (.leCisEstablishedV1 (cisFailed reason cis.cisConnectionHandle))
  | _ => none

/-- Reset the state of a central CIS connection of the removed link. -/
def unlink (aclConnectionHandle : UInt16) (cis : Cis) : Cis :=
  if cis.aclConnectionHandle = some aclConnectionHandle then
    { cis with aclConnectionHandle := none, state := .configuration }
  else cis

/-- The events that report the loss of an ACL link: those of its CISes, in the order the hash
map is visited, then those of its pending requests. -/
def lostEvents (env : Env) (s : IsoManager) (aclConnectionHandle : UInt16) (reason : ErrorCode) :
    List Event :=
  -- Notify of CIS disconnection for connected or initiated CISes.
  ((s.cisConnections.values env.order).filter fun cis =>
      cis.aclConnectionHandle = some aclConnectionHandle).filterMap (linkLoss? reason) ++
  -- Send LE Cis Established events with an error reason for pending CIS connection requests.
    (s.cisConnectionRequests.filter fun request =>
      request.aclConnectionHandle = aclConnectionHandle).map fun request =>
        Event.leCisEstablishedV1 (cisFailed reason request.cisConnectionHandle)

/-- The state once an ACL link is gone: its peripheral CISes are dropped, its central CISes
reset, its pending requests dropped. -/
def dropLink (s : IsoManager) (aclConnectionHandle : UInt16) : IsoManager :=
  let kept := s.cisConnections.retain fun _ cis =>
    cis.role = .central ∨ cis.aclConnectionHandle ≠ some aclConnectionHandle
  { s with
    aclConnections := s.aclConnections.erase aclConnectionHandle
    cisConnections := kept.map fun _ cis => unlink aclConnectionHandle cis
    cisConnectionRequests := s.cisConnectionRequests.filter fun request =>
      request.aclConnectionHandle ≠ aclConnectionHandle }

/-- An ACL connection is lost, with its streams. -/
def removeAclConnection (env : Env) (s : IsoManager) (aclConnectionHandle : UInt16)
    (reason : ErrorCode) : Outcome := do
  let sent ← (s.lostEvents env aclConnectionHandle reason).mapM sendHciEvent
  .ok (s.dropLink aclConnectionHandle, sent)

/-! ## Allocation -/

/-- The first unused handle in the range 0xe00..0xefe. -/
def newCisConnectionHandle (s : IsoManager) : Except Panic UInt16 :=
  unwrap (((List.range' 0xe00 0xfe).map UInt16.ofNat).find? fun handle =>
    !s.cisConnections.contains handle)

/-- The first unused handle in the range 0x0D00..=0x0DFE. -/
def newBisConnectionHandle (s : IsoManager) : Except Panic UInt16 :=
  unwrap (((List.range' 0xd00 0xff).map UInt16.ofNat).find? fun handle =>
    !s.bisConnections.contains handle)

/-- A CIS connection as it is created for a configuration. -/
def configuredCis (cigId cisId : UInt8) (role : Role) (cisConnectionHandle : UInt16) : Cis where
  cigId := cigId
  cisId := cisId
  role := role
  cisConnectionHandle := cisConnectionHandle
  aclConnectionHandle := none
  state := .configuration
  parameters := none
  isoDataPathCToP := none
  isoDataPathPToC := none

/-- Insert a new CIS connection, optionally allocating an handle for the selected CIG_Id,
CIS_Id, Role triplet. Returns the handle for the connection. -/
def newCisConnection (env : Env) (s : IsoManager) (cigId cisId : UInt8) (role : Role) :
    Except Panic (IsoManager × UInt16) :=
  match (s.cisConnections.values env.order).find? fun cis =>
      cis.cigId = cigId ∧ cis.cisId = cisId ∧ cis.role = role with
  | some cis => .ok (s, cis.cisConnectionHandle)
  | none => do
    let cisConnectionHandle ← s.newCisConnectionHandle
    .ok (s.insertCis (configuredCis cigId cisId role cisConnectionHandle), cisConnectionHandle)

/-- The handle of the first CIS that satisfies the predicate. -/
def getCisConnectionHandle (env : Env) (s : IsoManager) (predicate : Cis → Bool) : Option UInt16 :=
  (s.cisConnections.keysWhere env.order predicate).head?

/-! ## Starting a request -/

/-- The LL_CIS_REQ of a request. -/
def cisReq (request : CisRequest) (cigConfig : CigConfig) (cisConfig : CisConfig)
    (parameters : CisParameters) : CisReq where
  cigId := request.cigId
  cisId := request.cisId
  phyCToP := parameters.phyCToP
  phyPToC := parameters.phyPToC
  framed := if cigConfig.framed then 1 else 0
  maxSduCToP := cisConfig.maxSduCToP
  maxSduPToC := cisConfig.maxSduPToC
  sduIntervalCToP := cigConfig.sduIntervalCToP
  sduIntervalPToC := cigConfig.sduIntervalPToC
  maxPduCToP := parameters.maxPduCToP
  maxPduPToC := parameters.maxPduPToC
  nse := parameters.nse
  subInterval := parameters.subInterval
  bnCToP := parameters.bnCToP
  bnPToC := parameters.bnPToC
  ftCToP := cigConfig.ftCToP
  ftPToC := cigConfig.ftPToC
  isoInterval := cigConfig.isoInterval
  cisOffsetMin := 0
  cisOffsetMax := 0
  connEventCount := 0

/-- A CIS whose request has just been sent. -/
def requested (aclConnectionHandle : UInt16) (parameters : CisParameters) (cis : Cis) : Cis :=
  { cis with
    aclConnectionHandle := some aclConnectionHandle
    state := .pendingRsp
    parameters := some parameters }

/-- The state once the next request has been sent with these parameters. -/
def startRequest (s : IsoManager) (request : CisRequest) (parameters : CisParameters) :
    IsoManager :=
  { s with
    cisConnectionRequests := s.cisConnectionRequests.dropLast
    cisConnections := s.cisConnections.modify request.cisConnectionHandle
      (requested request.aclConnectionHandle parameters) }

/-- Start the next CIS connection request, if any. -/
def dequeCisConnectionRequest (env : Env) (s : IsoManager) : Outcome :=
  match s.cisConnectionRequests.getLast? with
  | none => .ok (s, [])
  | some request => do
    let cisConfig ← unwrap s.cisConfig[(request.cigId, request.cisId)]?
    let cigConfig ← unwrap s.cigConfig[request.cigId]?
    let parameters ← CisParameters.new env.overflowChecks cigConfig cisConfig
    let sent ← sendLlcpPacket request.aclConnectionHandle
        (.cisReq (cisReq request cigConfig cisConfig parameters))
    let _ ← unwrap s.cisConnections[request.cisConnectionHandle]?
    .ok (s.startRequest request parameters, [sent])

end IsoManager

end RootCanal.Iso
