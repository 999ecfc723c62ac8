import RootCanal.Gap.Advertising

/-!
# Scanning, initiating and periodic syncs

The commands of the scanner, of the initiator and of periodic syncs, and what becomes of the PDUs
they receive.

A PDU comes with its bytes.  When duplicates are filtered the scanner keeps the bytes of what it
received (`Scanner.record`), and reports a PDU only if they are new to it (`Scanner.isFresh`); three
handlers do this, each after filters of its own.

Source: `le_controller.cc`
-/

namespace RootCanal.Gap

open Lib RootCanal.Hci

/-- The commands of the scanner. -/
inductive ScanCommand
  | leSetScanParameters (parameters : ScanningPhyParameters) (ownAddressType : OwnAddressType)
      (scanningFilterPolicy : LeScanningFilterPolicy)
  | leSetScanEnable (enable filterDuplicates : Bool)
  | leSetExtendedScanParameters (ownAddressType : OwnAddressType)
      (scanningFilterPolicy : LeScanningFilterPolicy) (scanningPhys : UInt8)
      (scanningPhyParameters : List ScanningPhyParameters)
  | leSetExtendedScanEnable (enable : Bool) (filterDuplicates : FilterDuplicates)
      (duration period : UInt16)
deriving DecidableEq, Repr

/-- The bits that are set in an octet.
Source: `LeExtendedCreateConnection`, `__builtin_popcount` -/
def popcount (b : UInt8) : Nat := (List.range 8).countP b.toNat.testBit

/-- The commands that start initiating. -/
inductive InitiateCommand
  | leCreateConnection (initiatorFilterPolicy : InitiatorFilterPolicy)
      (peerAddress : AddressWithType)
      (ownAddressType : OwnAddressType) (parameters : InitiatingPhyParameters)
  | leExtendedCreateConnection (initiatorFilterPolicy : InitiatorFilterPolicy)
      (ownAddressType : OwnAddressType) (peerAddress : AddressWithType) (initiatingPhys : UInt8)
      (initiatingPhyParameters : List InitiatingPhyParameters)
deriving DecidableEq, Repr

/-- The commands of periodic syncs, but for the one that cancels. -/
inductive SyncCommand
  | lePeriodicAdvertisingCreateSync (options : PeriodicAdvertisingOptions) (train : Train)
      (syncTimeout : UInt16) (syncCteType : UInt8)
  | lePeriodicAdvertisingTerminateSync (syncHandle : UInt16)
deriving DecidableEq, Repr

namespace Scanner

/-- What was received is forgotten, and so is what was asked for. -/
def clear (scanner : Scanner) : Scanner :=
  { scanner with pendingScanRequests := [], history := [] }

/-- The bytes were not received before, or duplicates are not filtered.
Source: `LeController::Scanner::IsPacketInHistory` -/
def isFresh (scanner : Scanner) (bytes : List UInt8) : Bool :=
  scanner.filterDuplicates = .disabled || bytes ∉ scanner.history

/-- Source: `LeController::Scanner::AddPacketToHistory` -/
def record (scanner : Scanner) (bytes : List UInt8) : Scanner :=
  if scanner.filterDuplicates ≠ .disabled && scanner.isFresh bytes then
    { scanner with history := scanner.history ++ [bytes] }
  else scanner

/-- Source: `ScanIncomingLeLegacyAdvertisingPdu` -/
def activeScanning (scanner : Scanner) : Bool :=
  scanner.le1mPhy.enabled && scanner.le1mPhy.leScanType = .active ||
    scanner.leCodedPhy.enabled && scanner.leCodedPhy.leScanType = .active

end Scanner

namespace LeController

/-! ## The commands of the scanner -/

/-- LE Set Scan Parameters. -/
def leSetScanParameters (s : LeController) (parameters : ScanningPhyParameters)
    (ownAddressType : OwnAddressType) (scanFilterPolicy : LeScanningFilterPolicy) :
    Except ErrorCode Scanner := do
  require (!s.scanner.scanEnable) .commandDisallowed
  require (0x4 ≤ parameters.leScanInterval ∧ parameters.leScanInterval ≤ 0x4000 ∧
    0x4 ≤ parameters.leScanWindow ∧ parameters.leScanWindow ≤ 0x4000)
    .unsupportedFeatureOrParameterValue
  require (parameters.leScanWindow ≤ parameters.leScanInterval) .invalidHciCommandParameters
  .ok { s.scanner with
        le1mPhy := { parameters with enabled := true }
        leCodedPhy := { s.scanner.leCodedPhy with enabled := false }
        ownAddressType, scanFilterPolicy }

/-- A random address that is to be used is set.
Source: `LeSetScanEnable`, `LeSetExtendedScanEnable` -/
def checkScanAddress (s : LeController) : Except ErrorCode Unit :=
  require (!((s.scanner.ownAddressType = .randomDeviceAddress ∨
    s.scanner.ownAddressType = .resolvableOrRandomAddress) ∧ s.randomAddress = Address.kEmpty))
    .invalidHciCommandParameters

/-- LE Set Scan Enable. -/
def leSetScanEnable (s : LeController) (enable filterDuplicates : Bool) :
    Except ErrorCode Scanner :=
  if !enable then .ok { s.scanner.clear with scanEnable := false }
  else do
    s.checkScanAddress
    .ok { s.scanner.clear with
          scanEnable := true
          timeout := none
          periodicalTimeout := none
          filterDuplicates := if filterDuplicates then .enabled else .disabled }

/-- The parameters of a PHY, the first that are left if its bit is set, and what is left then. -/
def takeScanPhy (chosen : Bool) (phy : ScannerPhy) (ps : List ScanningPhyParameters) :
    ScannerPhy × List ScanningPhyParameters :=
  if chosen then ({ ps.headD {} with enabled := true }, ps.tail)
  else ({ phy with enabled := false }, ps)

/-- LE Set Extended Scan Parameters. -/
def leSetExtendedScanParameters (s : LeController) (ownAddressType : OwnAddressType)
    (scanFilterPolicy : LeScanningFilterPolicy) (scanningPhys : UInt8)
    (scanningPhyParameters : List ScanningPhyParameters) : Except ErrorCode Scanner := do
  require (!s.scanner.scanEnable) .commandDisallowed
  require (scanningPhys &&& ~~~s.properties.leSupportedPhys = 0) .unsupportedFeatureOrParameterValue
  require (popcount scanningPhys = scanningPhyParameters.length)
    .invalidHciCommandParameters
  require (scanningPhys ≠ 0) .invalidHciCommandParameters
  scanningPhyParameters.forM fun parameter => do
    require (0x4 ≤ parameter.leScanInterval ∧ 0x4 ≤ parameter.leScanWindow)
      .invalidHciCommandParameters
    require (parameter.leScanWindow ≤ parameter.leScanInterval) .invalidHciCommandParameters
  let (le1mPhy, ps) := takeScanPhy (scanningPhys &&& 0x1 ≠ 0) s.scanner.le1mPhy
      scanningPhyParameters
  let (leCodedPhy, _) := takeScanPhy (scanningPhys &&& 0x4 ≠ 0) s.scanner.leCodedPhy ps
  .ok { s.scanner with ownAddressType, scanFilterPolicy, le1mPhy, leCodedPhy }

/-- LE Set Extended Scan Enable. -/
def leSetExtendedScanEnable (s : LeController) (env : Env) (enable : Bool)
    (filterDuplicates : FilterDuplicates) (duration period : UInt16) : Except ErrorCode Scanner :=
  if !enable then .ok { s.scanner.clear with scanEnable := false }
  else do
    let period := if duration = 0 then 0 else period
    require (filterDuplicates ≠ .resetEachPeriod ∨ period ≠ 0 ∧ duration ≠ 0)
      .invalidHciCommandParameters
    let durationTime := 10 * duration.toNat * 1000
    let periodTime := 1280 * period.toNat * 1000
    require (period = 0 ∨ duration = 0 ∨ durationTime < periodTime) .invalidHciCommandParameters
    s.checkScanAddress
    .ok { s.scanner.clear with
          scanEnable := true
          filterDuplicates
          duration := durationTime
          period := periodTime
          timeout := if duration ≠ 0 then some (env.now + durationTime) else none
          periodicalTimeout := if period ≠ 0 then some (env.now + periodTime) else none }

/-- A command of the scanner. -/
def scan (s : LeController) (env : Env) : ScanCommand → Except ErrorCode Scanner
  | .leSetScanParameters parameters own policy => s.leSetScanParameters parameters own policy
  | .leSetScanEnable enable filterDuplicates => s.leSetScanEnable enable filterDuplicates
  | .leSetExtendedScanParameters own policy phys parameters =>
    s.leSetExtendedScanParameters own policy phys parameters
  | .leSetExtendedScanEnable enable filterDuplicates duration period =>
    s.leSetExtendedScanEnable env enable filterDuplicates duration period

/-! ## PDUs for the scanner -/

/-- The scanner does not ignore a PDU.
Source: `ScanIncomingLeLegacyAdvertisingPdu`,
`ScanIncomingLeExtendedAdvertisingPdu` -/
def scannerAccepts (s : LeController) (env : Env) (target resolved : AddressWithType)
    (directed : Bool) : Bool :=
  match s.scanner.scanFilterPolicy with
  | .acceptAll => !directed || s.validateTargetA env target resolved
  | .filterAcceptListOnly => s.leFilterAcceptListContainsDevice resolved &&
      (!directed || s.validateTargetA env target resolved)
  | .checkInitiatorsIdentity => !directed || s.isLocalPublicOrRandomAddress target || target.isRpa
  | .filterAcceptListAndInitiatorsIdentity => s.leFilterAcceptListContainsDevice resolved &&
      (!directed || s.isLocalPublicOrRandomAddress target || target.isRpa)

/-- In microseconds. -/
def kScanRequestTimeout : Nat := 200 * 1000

/-- A scan request is sent for a scannable PDU that was reported, unless one is pending.
Source: `ScanIncomingLeLegacyAdvertisingPdu`,
`ScanIncomingLeExtendedAdvertisingPdu` -/
def scanRequest (s : LeController) (env : Env) (scanner : Scanner)
    (advertisingAddress resolved : AddressWithType) (scannable shouldSendAdvertisingReport : Bool)
    (request : ScanRequest) : Except Panic (Scanner × List Output) :=
  if scannable && scanner.activeScanning &&
      (scanner.pendingScanRequests.lookup advertisingAddress).isNone &&
      shouldSendAdvertisingReport then do
    let scanningAddress ← s.chooseAddress scanner.ownAddressType
      (s.generateResolvablePrivateAddress env.aes resolved .loc (env.rand 0))
    .ok (
      { scanner with
        pendingScanRequests := (advertisingAddress, request) :: scanner.pendingScanRequests },
      [.packet ⟨scanningAddress.address, advertisingAddress.address,
        .leScan scanningAddress.addressType advertisingAddress.addressType⟩])
  else .ok (scanner, [])

/-- Source: `ScanIncomingLeLegacyAdvertisingPdu` -/
def reportEventType : LegacyAdvertisingType → AdvertisingEventType
  | .advInd => .advInd
  | .advDirectInd => .advDirectInd
  | .advScanInd => .advScanInd
  | .advNonconnInd => .advNonconnInd

/-- The extended reports of data, a fragment in each. -/
def extendedReports (s : LeController) (response : LeExtendedAdvertisingResponse)
    (data : List UInt8) : List Output :=
  (fragments 229 data.length data).flatMap fun f =>
    s.sendLeEvent .leExtendedAdvertisingReport (.leExtendedAdvertisingReport response f.1 f.2)

/-- The reports of a legacy PDU. `directedReport` is whether the target could not be resolved. -/
def legacyReports (s : LeController) (rssi : UInt8) (resolved target : AddressWithType)
    (type : LegacyAdvertisingType) (directedReport : Bool) (data : List UInt8) : List Output :=
  (if s.legacyAdvertisingInUse then
    if directedReport then s.sendLeEvent .leDirectedAdvertisingReport
      (.leDirectedAdvertisingReport resolved target.address rssi)
    else s.sendLeEvent .leAdvertisingReport
      (.leAdvertisingReport (reportEventType type) resolved data rssi)
  else []) ++
  (if s.extendedAdvertisingInUse then
    s.sendLeEvent .leExtendedAdvertisingReport (.leExtendedAdvertisingReport
      { connectable := type = .advInd ∨ type = .advDirectInd
        scannable := type = .advInd ∨ type = .advScanInd
        directed := type = .advDirectInd
        scanResponse := false
        legacy := true
        address := resolved
        primaryPhy := .le1m
        secondaryPhy := .noPackets
        advertisingSid := 0xff
        txPower := 0x7f
        rssi
        periodicAdvertisingInterval := 0
        directAddress := if type = .advDirectInd then some target else none } .complete data)
  else [])

/-- The scanner takes a legacy PDU. -/
def scanIncomingLeLegacyAdvertisingPdu (s : LeController) (env : Env) (bytes : List UInt8)
    (rssi : UInt8) (advertisingAddress target : AddressWithType) (type : LegacyAdvertisingType)
    (data : List UInt8) : Except Panic (Scanner × List Output) :=
  let resolved := s.resolved env.aes advertisingAddress
  if s.scanner.scanEnable && s.scannerAccepts env target resolved (type = .advDirectInd) then do
    let directedReport := type = .advDirectInd &&
      (s.scanner.scanFilterPolicy = .checkInitiatorsIdentity ||
        s.scanner.scanFilterPolicy = .filterAcceptListAndInitiatorsIdentity) &&
      target.isRpa && !s.resolveTargetA env.aes target resolved
    let shouldSendAdvertisingReport := s.scanner.isFresh bytes
    let reports :=
      if shouldSendAdvertisingReport then s.legacyReports rssi resolved target type
        directedReport data
      else []
    let (scanner, requests) ← s.scanRequest env (s.scanner.record bytes) advertisingAddress resolved
      (type = .advInd ∨ type = .advScanInd) shouldSendAdvertisingReport
      { connectable := type = .advInd ∨ type = .advDirectInd
        extended := false
        primaryPhy := .le1m
        secondaryPhy := .noPackets
        timeout := env.now + kScanRequestTimeout }
    .ok (scanner, reports ++ requests)
  else .ok (s.scanner, [])

/-- The scanner listens on the PHYs of an extended PDU. -/
def scannerHears (s : LeController) (primaryPhy secondaryPhy : PhyType) : Bool :=
  !(primaryPhy = .le1m && !s.scanner.le1mPhy.enabled ||
    primaryPhy = .leCodedS8 && !s.scanner.leCodedPhy.enabled) &&
  !(secondaryPhy = .le2m && !s.properties.supportsLLFeature LLFeaturesBits.le2mPhy ||
    secondaryPhy = .leCodedS8 && !s.properties.supportsLLFeature LLFeaturesBits.leCodedPhy ||
    secondaryPhy = .leCodedS2 && !s.properties.supportsLLFeature LLFeaturesBits.leCodedPhy)

/-- The scanner takes an extended PDU. -/
def scanIncomingLeExtendedAdvertisingPdu (s : LeController) (env : Env) (bytes : List UInt8)
    (rssi : UInt8) (advertisingAddress target : AddressWithType)
    (connectable scannable directed : Bool) (sid txPower : UInt8)
    (primaryPhy secondaryPhy : PhyType)
    (interval : Nat) (data : List UInt8) : Except Panic (Scanner × List Output) :=
  let resolved := s.resolved env.aes advertisingAddress
  if s.scanner.scanEnable && s.extendedAdvertisingInUse && s.scannerHears primaryPhy secondaryPhy &&
      s.scannerAccepts env target resolved directed then do
    let shouldSendAdvertisingReport := s.scanner.isFresh bytes
    let reports :=
      if shouldSendAdvertisingReport then
        s.extendedReports
          { connectable, scannable, directed
            scanResponse := false
            legacy := false
            address := resolved
            primaryPhy, secondaryPhy
            advertisingSid := sid
            txPower, rssi
            periodicAdvertisingInterval := interval
            directAddress := if directed then some target else none } data
      else []
    let (scanner, requests) ← s.scanRequest env (s.scanner.record bytes) advertisingAddress resolved
      scannable shouldSendAdvertisingReport
      { connectable, extended := true, primaryPhy, secondaryPhy
        timeout := env.now + kScanRequestTimeout }
    .ok (scanner, reports ++ requests)
  else .ok (s.scanner, [])

/-- The reports of a scan response. -/
def scanResponseReports (s : LeController) (rssi : UInt8) (resolved : AddressWithType)
    (request : ScanRequest) (data : List UInt8) : List Output :=
  (if s.legacyAdvertisingInUse then
    s.sendLeEvent .leAdvertisingReport (.leAdvertisingReport .scanResponse resolved data rssi)
  else []) ++
  (if s.extendedAdvertisingInUse then
    s.extendedReports
      { connectable := request.connectable
        scannable := true
        directed := false
        scanResponse := true
        legacy := !request.extended
        address := resolved
        primaryPhy := request.primaryPhy
        secondaryPhy := request.secondaryPhy
        advertisingSid := 0xff
        txPower := 0x7f
        rssi
        periodicAdvertisingInterval := 0
        directAddress := none } data
  else [])

/-- A scan response arrives. -/
def incomingLeScanResponsePacket (s : LeController) (env : Env) (bytes : List UInt8) (rssi : UInt8)
    (advertisingAddress : AddressWithType) (data : List UInt8) : Scanner × List Output :=
  if s.scanner.scanEnable then
    match s.scanner.pendingScanRequests.lookup advertisingAddress with
    | none => (s.scanner, [])
    | some request =>
      let scanner :=
        { s.scanner with pendingScanRequests :=
            s.scanner.pendingScanRequests.filter (·.1 ≠ advertisingAddress) }
      (scanner.record bytes,
        if scanner.isFresh bytes then
          s.scanResponseReports rssi (s.resolved env.aes advertisingAddress) request data
        else [])
  else (s.scanner, [])

/-- The single scan is over: the scanner is disabled. -/
def scanEnded (scanner : Scanner) (now : Nat) : Bool :=
  scanner.timeout.any (· ≤ now) && scanner.periodicalTimeout.isNone

/-- The time of the scanner: the end of a scan, of its duration and of its period, and the scan
requests that were not answered. -/
def leScanning (s : LeController) (now : Nat) : Scanner × List Output :=
  if s.scanner.scanEnable then
    let ended := scanEnded s.scanner now
    let scanner := if ended then { s.scanner.clear with scanEnable := false } else s.scanner
    let scanner :=
      if scanner.timeout.any (· ≤ now) && scanner.periodicalTimeout.isSome then
        { scanner with timeout := none }
      else scanner
    let scanner :=
      if scanner.timeout.isNone && scanner.periodicalTimeout.any (· ≤ now) then
        { scanner with
          history := if scanner.filterDuplicates = .resetEachPeriod then [] else scanner.history
          timeout := some (now + scanner.duration)
          periodicalTimeout := some (now + scanner.period) }
      else scanner
    ({ scanner with pendingScanRequests :=
        scanner.pendingScanRequests.filter fun r => now < r.2.timeout },
      if ended then s.sendLeEvent .leScanTimeout .leScanTimeout else [])
  else (s.scanner, [])

/-! ## The initiator -/

/-- LE Create Connection. -/
def leCreateConnection (s : LeController) (env : Env)
    (initiatorFilterPolicy : InitiatorFilterPolicy)
    (peerAddress : AddressWithType) (ownAddressType : OwnAddressType)
    (p : InitiatingPhyParameters) :
    Except ErrorCode Initiator := do
  require (!s.initiator.connectEnable) .commandDisallowed
  require (0x4 ≤ p.scanInterval ∧ p.scanInterval ≤ 0x4000 ∧ 0x4 ≤ p.scanWindow ∧
    p.scanWindow ≤ 0x4000) .unsupportedFeatureOrParameterValue
  require (p.scanWindow ≤ p.scanInterval) .invalidHciCommandParameters
  require (0x6 ≤ p.connectionIntervalMin ∧ p.connectionIntervalMin ≤ 0xc80 ∧
    0x6 ≤ p.connectionIntervalMax ∧ p.connectionIntervalMax ≤ 0xc80)
    .unsupportedFeatureOrParameterValue
  require (p.connectionIntervalMin ≤ p.connectionIntervalMax) .invalidHciCommandParameters
  require (p.maxLatency ≤ 0x1f3) .unsupportedFeatureOrParameterValue
  require (0xa ≤ p.supervisionTimeout ∧ p.supervisionTimeout ≤ 0xc80)
    .unsupportedFeatureOrParameterValue
  -- in milliseconds
  let minSupervisionTimeout :=
    (1 + p.maxLatency.toNat) * slots (2 * p.connectionIntervalMax.toNat) * 2 / 1000
  require (minSupervisionTimeout ≤ p.supervisionTimeout.toNat * 10) .invalidHciCommandParameters
  require (ownAddressType ≠ .randomDeviceAddress ∨ s.randomAddress ≠ Address.kEmpty)
    .invalidHciCommandParameters
  require (ownAddressType ≠ .resolvableOrRandomAddress ∨ initiatorFilterPolicy ≠ .usePeerAddress ∨
    (s.generateResolvablePrivateAddress env.aes peerAddress .loc (env.rand 0)).isSome ∨
    s.randomAddress ≠ Address.kEmpty) .invalidHciCommandParameters
  .ok { s.initiator with
        connectEnable := true
        initiatorFilterPolicy, peerAddress, ownAddressType
        le1mPhy := { p with enabled := true }
        le2mPhy := { s.initiator.le2mPhy with enabled := false }
        leCodedPhy := { s.initiator.leCodedPhy with enabled := false }
        pendingConnectRequest := none }

/-- The parameters of a PHY, the first that are left if its bit is set, and what is left then. -/
def takePhy (chosen : Bool) (phy : InitiatorPhy) (ps : List InitiatingPhyParameters) :
    InitiatorPhy × List InitiatingPhyParameters :=
  if chosen then ({ ps.headD {} with enabled := true }, ps.tail)
  else ({ phy with enabled := false }, ps)

/-- The body of the loop over the PHYs.
Source: `LeExtendedCreateConnection` -/
def checkInitiatingPhy (parameter : InitiatingPhyParameters) : Except ErrorCode Unit := do
  require (0x4 ≤ parameter.scanInterval ∧ parameter.scanInterval ≤ 0x4000 ∧
    0x4 ≤ parameter.scanWindow ∧ parameter.scanWindow ≤ 0x4000) .unsupportedFeatureOrParameterValue
  require (parameter.scanWindow ≤ parameter.scanInterval) .invalidHciCommandParameters
  require (0x6 ≤ parameter.connectionIntervalMin ∧ parameter.connectionIntervalMin ≤ 0xc80 ∧
    0x6 ≤ parameter.connectionIntervalMax ∧ parameter.connectionIntervalMax ≤ 0xc80)
    .unsupportedFeatureOrParameterValue
  require (parameter.connectionIntervalMin ≤ parameter.connectionIntervalMax)
    .invalidHciCommandParameters
  require (parameter.maxLatency ≤ 0x1f3) .unsupportedFeatureOrParameterValue
  require (0xa ≤ parameter.supervisionTimeout ∧ parameter.supervisionTimeout ≤ 0xc80)
    .unsupportedFeatureOrParameterValue
  let minSupervisionTimeout :=
    (1 + parameter.maxLatency.toNat) * slots (2 * parameter.connectionIntervalMax.toNat) * 2 / 1000
  require (minSupervisionTimeout ≤ parameter.supervisionTimeout.toNat * 10)
    .invalidHciCommandParameters

/-- LE Extended Create Connection. -/
def leExtendedCreateConnection (s : LeController) (env : Env)
    (initiatorFilterPolicy : InitiatorFilterPolicy) (ownAddressType : OwnAddressType)
    (peerAddress : AddressWithType) (initiatingPhys : UInt8)
    (initiatingPhyParameters : List InitiatingPhyParameters) : Except ErrorCode Initiator := do
  require (!s.initiator.connectEnable) .commandDisallowed
  require (initiatingPhys &&& 0xf8 = 0) .unsupportedFeatureOrParameterValue
  require (popcount initiatingPhys = initiatingPhyParameters.length)
    .invalidHciCommandParameters
  require (initiatingPhys ≠ 0) .invalidHciCommandParameters
  initiatingPhyParameters.forM checkInitiatingPhy
  require (ownAddressType ≠ .randomDeviceAddress ∨ s.randomAddress ≠ Address.kEmpty)
    .invalidHciCommandParameters
  require (ownAddressType ≠ .resolvableOrRandomAddress ∨ initiatorFilterPolicy ≠ .usePeerAddress ∨
    (s.generateResolvablePrivateAddress env.aes peerAddress .loc (env.rand 0)).isSome ∨
    s.randomAddress ≠ Address.kEmpty) .invalidHciCommandParameters
  let (le1mPhy, ps) := takePhy (initiatingPhys &&& 0x1 ≠ 0) s.initiator.le1mPhy
      initiatingPhyParameters
  let (le2mPhy, ps) := takePhy (initiatingPhys &&& 0x2 ≠ 0) s.initiator.le2mPhy ps
  let (leCodedPhy, _) := takePhy (initiatingPhys &&& 0x4 ≠ 0) s.initiator.leCodedPhy ps
  .ok { s.initiator with
        connectEnable := true
        initiatorFilterPolicy, peerAddress, ownAddressType, le1mPhy, le2mPhy, leCodedPhy
        pendingConnectRequest := none }

/-- A command that starts initiating. -/
def initiate (s : LeController) (env : Env) : InitiateCommand → Except ErrorCode Initiator
  | .leCreateConnection policy peer own parameters =>
    s.leCreateConnection env policy peer own parameters
  | .leExtendedCreateConnection policy own peer phys parameters =>
    s.leExtendedCreateConnection env policy own peer phys parameters

/-- The initiator, and the event that is scheduled. -/
def leCreateConnectionCancel (s : LeController) : Except ErrorCode (Initiator × List Event) := do
  require s.initiator.connectEnable .commandDisallowed
  let events :=
    if s.isLeEventUnmasked .leEnhancedConnectionCompleteV1 then
      [.leEnhancedConnectionCompleteV1 .unknownConnection]
    else if s.isLeEventUnmasked .leConnectionComplete
      then [.leConnectionComplete .unknownConnection]
    else []
  .ok ({ s.initiator with connectEnable := false }, events)

/-- The initiator connects to this advertiser.
Source: `ConnectIncomingLeLegacyAdvertisingPdu`,
`ConnectIncomingLeExtendedAdvertisingPdu` -/
def initiatesTo (s : LeController) (env : Env) (target resolved : AddressWithType)
    (directed : Bool) : Bool :=
  (match s.initiator.initiatorFilterPolicy with
    | .usePeerAddress => resolved = s.initiator.peerAddress
    | .useFilterAcceptListWithPeerAddress => s.leFilterAcceptListContainsDevice resolved
    | .useDecisionPdus | .useFilterAcceptListWithDecisionPdus => false) &&
  (!directed || s.validateTargetA env target resolved &&
    (target.isRpa || s.initiator.ownAddressType = .publicDeviceAddress ||
      s.initiator.ownAddressType = .randomDeviceAddress))

/-- A connectable PDU is answered with a connect request.
Source: `ConnectIncomingLeLegacyAdvertisingPdu`,
`ConnectIncomingLeExtendedAdvertisingPdu` -/
def connectIncomingPdu (s : LeController) (env : Env) (advertisingAddress target : AddressWithType)
    (connectable directed : Bool) : Except Panic (Initiator × List Output) :=
  let resolved := s.resolved env.aes advertisingAddress
  if s.initiator.connectEnable && connectable && s.initiator.pendingConnectRequest.isNone &&
      s.initiatesTo env target resolved directed then do
    let initiatingAddress ← s.chooseAddress s.initiator.ownAddressType
      (s.generateResolvablePrivateAddress env.aes resolved .loc (env.rand 1))
    .ok (
      { s.initiator with
        pendingConnectRequest := some advertisingAddress
        initiatingAddress := initiatingAddress.address },
      [.packet ⟨initiatingAddress.address, advertisingAddress.address,
        .leConnect initiatingAddress.addressType advertisingAddress.addressType
          s.initiator.le1mPhy.connectionIntervalMax s.initiator.le1mPhy.maxLatency
          s.initiator.le1mPhy.supervisionTimeout⟩])
  else .ok (s.initiator, [])

/-- The initiator takes a legacy PDU. -/
def connectIncomingLeLegacyAdvertisingPdu (s : LeController) (env : Env)
    (advertisingAddress target : AddressWithType) (type : LegacyAdvertisingType) :
    Except Panic (Initiator × List Output) :=
  s.connectIncomingPdu env advertisingAddress target (type = .advInd ∨ type = .advDirectInd)
    (type = .advDirectInd)

/-- The initiator takes an extended PDU. -/
def connectIncomingLeExtendedAdvertisingPdu (s : LeController) (env : Env)
    (advertisingAddress target : AddressWithType) (connectable directed : Bool) :
    Except Panic (Initiator × List Output) :=
  s.connectIncomingPdu env advertisingAddress target
    (s.extendedAdvertisingInUse && connectable) directed

/-- The completion of a connect request is taken if one of its two addresses is the expected one. -/
def incomingLeConnectCompletePacket (s : LeController) (env : Env)
    (initiatingAddress advertisingAddress : AddressWithType) (interval latency timeout : UInt16) :
    Initiator × List Output :=
  if s.initiator.pendingConnectRequest = some advertisingAddress ∨
      s.initiator.initiatingAddress = initiatingAddress.address then
    let resolved :=
      if advertisingAddress.isRpa then
        (s.resolvePrivateAddress env.aes advertisingAddress).getD .empty
      else .empty
    ({ s.initiator with
       connectEnable := false
       pendingConnectRequest := none
       initiatingAddress :=
         if initiatingAddress.address = s.initiator.initiatingAddress then Address.kEmpty
         else s.initiator.initiatingAddress },
      [.connection advertisingAddress resolved initiatingAddress .central interval latency timeout])
  else (s.initiator, [])

/-! ## Periodic syncs -/

/-- LE Periodic Advertising Create Sync. -/
def lePeriodicAdvertisingCreateSync (s : LeController) (options : PeriodicAdvertisingOptions)
    (train : Train) (syncTimeout : UInt16) (syncCteType : UInt8) :
    Except ErrorCode Synchronization := do
  require s.synchronizing.isNone .commandDisallowed
  require (syncCteType &&& 0x1f ≠ 0x1f) .commandDisallowed
  require (options.usePeriodicAdvertiserList ∨ !s.synchronized.any fun _ sync => sync.train = train)
    .connectionAlreadyExists
  require (options.disableReporting ∨ !options.enableDuplicateFiltering ∨
    s.properties.supportsLLFeature periodicAdvertisingAdiSupport)
      .unsupportedFeatureOrParameterValue
  require (!options.disableReporting ∨ s.properties.supportsPeriodicAdvertisingReceiveEnable)
    .connectionFailedEstablishment
  .ok { s.toSynchronization with
        synchronizing := some { options, train, syncTimeout := 10 * syncTimeout.toNat * 1000 } }

/-- LE Periodic Advertising Terminate Sync. -/
def lePeriodicAdvertisingTerminateSync (s : LeController) (syncHandle : UInt16) :
    Except ErrorCode Synchronization := do
  require (s.synchronized.contains syncHandle) .unknownAdvertisingIdentifier
  .ok { s.toSynchronization with synchronized := s.synchronized.erase syncHandle }

/-- A command of periodic syncs. -/
def sync (s : LeController) : SyncCommand → Except ErrorCode Synchronization
  | .lePeriodicAdvertisingCreateSync options train syncTimeout syncCteType =>
    s.lePeriodicAdvertisingCreateSync options train syncTimeout syncCteType
  | .lePeriodicAdvertisingTerminateSync syncHandle =>
    s.lePeriodicAdvertisingTerminateSync syncHandle

/-- The pending create sync is forgotten, and the event that is scheduled. -/
def lePeriodicAdvertisingCreateSyncCancel (s : LeController) :
    Except ErrorCode (Synchronization × List Event) := do
  require s.synchronizing.isSome .commandDisallowed
  let events :=
    if s.isLeEventUnmasked .lePeriodicAdvertisingSyncEstablishedV1 then
      [.lePeriodicAdvertisingSyncEstablishedV1 .operationCancelledByHost 0 0 .empty 0]
    else []
  .ok ({ s.toSynchronization with synchronizing := none }, events)

/-- Source: `IncomingLePeriodicAdvertisingPdu` -/
def toAdvertiserAddressType : AddressType → AdvertiserAddressType
  | .publicDeviceAddress | .publicIdentityAddress => .publicDeviceOrIdentityAddress
  | .randomDeviceAddress | .randomIdentityAddress => .randomDeviceOrIdentityAddress

/-- The train of a periodic advertising PDU. -/
def trainOf (s : LeController) (env : Env) (advertiserAddress : AddressWithType) (sid : UInt8) :
    Train :=
  let resolved := s.resolved env.aes advertiserAddress
  ⟨toAdvertiserAddressType resolved.addressType, resolved.address, sid⟩

/-- The pending create sync is for the train, or for the periodic advertiser list with the train in
it. -/
def matchesSynchronizing (s : LeController) (train : Train) : Bool :=
  match s.synchronizing with
  | none => false
  | some synchronizing =>
    if synchronizing.options.usePeriodicAdvertiserList then train ∈ s.lePeriodicAdvertiserList
    else synchronizing.train = train

/-- The first unused sync handle. There is none to find if all are used. -/
def firstUnused (synchronized : HashMap UInt16 Synchronized) : Nat → UInt16 → Except Panic UInt16
  | 0, _ => .error .hang
  | fuel + 1, handle =>
    if synchronized.contains handle then firstUnused synchronized fuel (handle + 1) else .ok handle

/-- The train is synchronized to. -/
def establishSync (s : LeController) (env : Env) (synchronizing : Synchronizing) (train : Train)
    (resolved : AddressWithType) (interval : Nat) : Except Panic
    (Synchronization × List Output) := do
  let handle ← firstUnused s.synchronized 0x10000 0
  .ok (
    { synchronizing := none
      synchronized := s.synchronized.insert handle
        { train
          syncHandle := handle
          syncTimeout := synchronizing.syncTimeout
          timeout := env.now + synchronizing.syncTimeout } },
    s.sendLeEvent .lePeriodicAdvertisingSyncEstablishedV1
      (.lePeriodicAdvertisingSyncEstablishedV1 .success handle train.advertisingSid
        resolved interval))

/-- The report of a PDU on a sync. -/
def periodicReports (s : LeController) (txPower rssi : UInt8) (data : List UInt8)
    (sync : Synchronized) : List Output :=
  (fragments 247 data.length data).flatMap fun f =>
    s.sendLeEvent .lePeriodicAdvertisingReportV1
      (.lePeriodicAdvertisingReportV1 sync.syncHandle txPower rssi f.1 f.2)

/-- A sync stays alive. -/
def refresh (now : Nat) (synchronized : HashMap UInt16 Synchronized) (handle : UInt16) :
    HashMap UInt16 Synchronized :=
  synchronized.modify handle fun sync => { sync with timeout := now + sync.syncTimeout }

/-- A PDU of a train is reported on each of its syncs. -/
def reportPeriodic (s : LeController) (env : Env) (rssi txPower : UInt8) (data : List UInt8)
    (train : Train) : Synchronization × List Output :=
  let handles := s.synchronized.keysWhere env.syncOrder fun sync => sync.train = train
  ({ s.toSynchronization with synchronized := handles.foldl (refresh env.now) s.synchronized },
    (handles.filterMap (s.synchronized[·]?)).flatMap (s.periodicReports txPower rssi data))

/-- A PDU of a periodic train arrives. -/
def incomingLePeriodicAdvertisingPdu (s : LeController) (env : Env) (rssi : UInt8)
    (advertiserAddress : AddressWithType) (sid txPower : UInt8) (interval : Nat)
    (data : List UInt8) :
    Except Panic (Synchronization × List Output) :=
  let train := s.trainOf env advertiserAddress sid
  if !s.scanner.scanEnable || !s.extendedAdvertisingInUse then .ok (s.toSynchronization, [])
  else
    match s.synchronizing.filter fun _ => s.matchesSynchronizing train with
    | some synchronizing =>
      s.establishSync env synchronizing train (s.resolved env.aes advertiserAddress) interval
    | none => .ok (s.reportPeriodic env rssi txPower data train)

end LeController

end RootCanal.Gap
