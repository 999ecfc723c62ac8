import RootCanal.Gap.Privacy

/-!
# The LE controller outside of its connections

What the LE controller keeps in order to be found and to find others: its addresses and lists, the
advertisers with what they advertise, the scanner, the initiator and the periodic syncs.  `LeAcl` is
the model of its connections; here a connection that is made is an output.

The state is put together from parts (`Privacy`, `Advertisers`, `Synchronization`, `Scanner`,
`Initiator`), and each function of the source that changes one part is a function to that part.

Left out are the resolvable addresses last used, channel sounding, the filters of vendor commands
and the transmit power of a packet.

Source: `le_controller.h`, `le_advertiser.h`, `hci_packets.pdl`
-/

namespace RootCanal.Gap

open Lib RootCanal.Hci

/-! ## Commands and PDUs -/

/-- Octets that fit in a command. -/
structure Payload (n : Nat) where
  octets : List UInt8
  fits : octets.length ≤ n
deriving DecidableEq, Repr

/-- Where a fragment of data stands. -/
inductive Operation
  | intermediateFragment
  | firstFragment
  | lastFragment
  | completeAdvertisement
  | unchangedData
deriving DecidableEq, Repr

/-- The PHY of a report. -/
inductive PhyType
  | noPackets
  | le1m
  | le2m
  | leCodedS8
  | leCodedS2
deriving DecidableEq, Repr

/-- The secondary PHY. -/
inductive SecondaryPhyType
  | noPackets
  | le1m
  | le2m
  | leCoded
deriving DecidableEq, Repr

/-- The legacy PDUs. -/
inductive LegacyAdvertisingType
  | advInd
  | advDirectInd
  | advScanInd
  | advNonconnInd
deriving DecidableEq, Repr

/-- The packets of the LE controller by which devices find each other.
Source: `link_layer_packets.pdl`, the packets of these names -/
inductive Body
  | leLegacyAdvertisingPdu (advertisingAddressType targetAddressType : AddressType)
      (advertisingType : LegacyAdvertisingType) (advertisingData : List UInt8)
  | leExtendedAdvertisingPdu (advertisingAddressType targetAddressType : AddressType)
      (connectable scannable directed : Bool) (sid txPower : UInt8)
        (primaryPhy secondaryPhy : PhyType)
      (periodicAdvertisingInterval : Nat) (advertisingData : List UInt8)
  | lePeriodicAdvertisingPdu (advertisingAddressType : AddressType) (sid txPower : UInt8)
      (advertisingInterval : Nat) (advertisingData : List UInt8)
  | leScan (scanningAddressType advertisingAddressType : AddressType)
  | leScanResponse (advertisingAddressType : AddressType) (scanResponseData : List UInt8)
  | leConnect (initiatingAddressType advertisingAddressType : AddressType)
      (connInterval connPeripheralLatency connSupervisionTimeout : UInt16)
  | leConnectComplete (initiatingAddressType advertisingAddressType : AddressType)
      (connInterval connPeripheralLatency connSupervisionTimeout : UInt16)
deriving DecidableEq, Repr

/-- A link layer packet of advertising and scanning. -/
abbrev Packet := LinkLayerPacket Body

/-! ## Events -/

/-- Whether the data of a report is complete. -/
inductive DataStatus
  | complete
  | continuing
deriving DecidableEq, Repr

/-- The event type of a legacy report. -/
inductive AdvertisingEventType
  | advInd
  | advDirectInd
  | advScanInd
  | advNonconnInd
  | scanResponse
deriving DecidableEq, Repr

/-- One extended advertising report. -/
structure LeExtendedAdvertisingResponse where
  connectable : Bool
  scannable : Bool
  directed : Bool
  scanResponse : Bool
  legacy : Bool
  address : AddressWithType
  primaryPhy : PhyType
  secondaryPhy : PhyType
  advertisingSid : UInt8
  txPower : UInt8
  rssi : UInt8
  periodicAdvertisingInterval : Nat
  /-- None if no address is provided. -/
  directAddress : Option AddressWithType
deriving DecidableEq, Repr

/-- The events of the LE controller about devices it finds or that find it.
Source: `hci_packets.pdl`, the events of these names -/
inductive Event
  /-- The status of a command.
  Source: `CommandStatus`, `CommandComplete` -/
  | status (status : ErrorCode)
  /-- The end of an attempt to connect without a connection.
  Source: `LeConnectionComplete` -/
  | leConnectionComplete (status : ErrorCode)
  /-- The end of an attempt to connect without a connection.
  Source: `LeEnhancedConnectionCompleteV1` -/
  | leEnhancedConnectionCompleteV1 (status : ErrorCode)
  | leAdvertisingReport (eventType : AdvertisingEventType) (address : AddressWithType)
      (advertisingData : List UInt8) (rssi : UInt8)
  | leDirectedAdvertisingReport (address : AddressWithType) (directAddress : Address) (rssi : UInt8)
  | leExtendedAdvertisingReport (response : LeExtendedAdvertisingResponse) (dataStatus : DataStatus)
      (advertisingData : List UInt8)
  | lePeriodicAdvertisingSyncEstablishedV1 (status : ErrorCode) (syncHandle : UInt16)
      (advertisingSid : UInt8) (address : AddressWithType) (periodicAdvertisingInterval : Nat)
  | lePeriodicAdvertisingReportV1 (syncHandle : UInt16) (txPower rssi : UInt8)
      (dataStatus : DataStatus) (data : List UInt8)
  | leScanTimeout
  | leAdvertisingSetTerminated (status : ErrorCode) (advertisingHandle : UInt8)
      (connectionHandle : UInt16) (numCompletedExtendedAdvertisingEvents : UInt8)
deriving DecidableEq, Repr

/-- The codes of the events that the host can mask. -/
inductive EventCode
  | disconnectionComplete
  | encryptionChange
  | encryptionKeyRefreshComplete
  | leMetaEvent
  | encryptionChangeV2
deriving DecidableEq, Repr

/-- Source: `EventCode` -/
def EventCode.toNat : EventCode → Nat
  | .disconnectionComplete => 0x05
  | .encryptionChange => 0x08
  | .encryptionKeyRefreshComplete => 0x30
  | .leMetaEvent => 0x3e
  | .encryptionChangeV2 => 0x59

/-- The LE events. -/
inductive SubeventCode
  | leConnectionComplete
  | leAdvertisingReport
  | leConnectionUpdateComplete
  | leRemoteConnectionParameterRequest
  | leEnhancedConnectionCompleteV1
  | leDirectedAdvertisingReport
  | lePhyUpdateComplete
  | leExtendedAdvertisingReport
  | lePeriodicAdvertisingSyncEstablishedV1
  | lePeriodicAdvertisingReportV1
  | leScanTimeout
  | leAdvertisingSetTerminated
  | leChannelSelectionAlgorithm
  | leSubrateChange
deriving DecidableEq, Repr

/-- Source: `SubeventCode` -/
def SubeventCode.toNat : SubeventCode → Nat
  | .leConnectionComplete => 0x01
  | .leAdvertisingReport => 0x02
  | .leConnectionUpdateComplete => 0x03
  | .leRemoteConnectionParameterRequest => 0x06
  | .leEnhancedConnectionCompleteV1 => 0x0a
  | .leDirectedAdvertisingReport => 0x0b
  | .lePhyUpdateComplete => 0x0c
  | .leExtendedAdvertisingReport => 0x0d
  | .lePeriodicAdvertisingSyncEstablishedV1 => 0x0e
  | .lePeriodicAdvertisingReportV1 => 0x0f
  | .leScanTimeout => 0x11
  | .leAdvertisingSetTerminated => 0x12
  | .leChannelSelectionAlgorithm => 0x14
  | .leSubrateChange => 0x23

/-- What the controller sends. -/
inductive Output
  | event (event : Event)
  | packet (packet : Packet)
  /-- A connection is made.
  Source: `HandleLeConnection` -/
  | connection (address resolvedAddress ownAddress : AddressWithType) (role : Role)
      (connInterval connPeripheralLatency connSupervisionTimeout : UInt16)
deriving DecidableEq, Repr

/-- The fragments in which data is reported. The last has what is left, which is all of it if there
is no data. `fuel` bounds the number of fragments before it.
Source: `ScanIncomingLeExtendedAdvertisingPdu` -/
def fragments (maxFragmentSize : Nat) : Nat → List UInt8 → List (DataStatus × List UInt8)
  | 0, data => [(.complete, data)]
  | fuel + 1, data =>
    if data.length ≤ maxFragmentSize then [(.complete, data)]
    else (.continuing, data.take maxFragmentSize) ::
      fragments maxFragmentSize fuel (data.drop maxFragmentSize)

/-! ## Lists -/

/-- The address types of the filter accept list. -/
inductive FilterAcceptListAddressType
  | publicAddress
  | randomAddress
  | anonymousAdvertisers
deriving DecidableEq, Repr

/-- An entry of the filter accept list. -/
structure FilterAcceptListEntry where
  addressType : FilterAcceptListAddressType
  address : Address
deriving DecidableEq, Repr

/-- The address types of the periodic advertiser list. -/
inductive AdvertiserAddressType
  | publicDeviceOrIdentityAddress
  | randomDeviceOrIdentityAddress
deriving DecidableEq, Repr

/-- A periodic advertising train: who sends it, and the number of the set.
Source: `PeriodicAdvertiserListEntry` -/
structure Train where
  advertiserAddressType : AdvertiserAddressType
  advertiserAddress : Address
  advertisingSid : UInt8
deriving DecidableEq, Repr

/-! ## Advertisers -/

/-- The kinds of legacy advertising. -/
inductive AdvertisingType
  | advInd
  | advDirectIndHigh
  | advScanInd
  | advNonconnInd
  | advDirectIndLow
deriving DecidableEq, Repr

/-- Whose requests an advertiser takes. -/
inductive AdvertisingFilterPolicy
  | allDevices
  | listedScan
  | listedConnect
  | listedScanAndConnect
deriving DecidableEq, Repr

/-- Data of an advertising set, and whether it is a part only. -/
structure DataBuffer where
  data : List UInt8 := []
  isPartial : Bool := false
deriving DecidableEq, Repr

/-- The legacy advertiser. -/
structure LegacyAdvertiser where
  advertisingEnable : Bool := false
  advertisingAddress : AddressWithType := .empty
  targetAddress : AddressWithType := .empty
  /-- The time of the next advertising event, in microseconds. -/
  nextEvent : Nat := 0
  timeout : Option Nat := none
  /-- In slots of 625 microseconds. -/
  advertisingInterval : Nat := 0x0800
  advertisingType : AdvertisingType := .advInd
  ownAddressType : OwnAddressType := .publicDeviceAddress
  peerAddressType : PeerAddressType := .publicDeviceOrIdentityAddress
  peerAddress : Address := Address.kEmpty
  advertisingChannelMap : UInt8 := 0x07
  advertisingFilterPolicy : AdvertisingFilterPolicy := .allDevices
  advertisingData : List UInt8 := []
  scanResponseData : List UInt8 := []
deriving DecidableEq, Repr

/-- It takes connection requests. -/
def LegacyAdvertiser.isConnectable (a : LegacyAdvertiser) : Bool :=
  a.advertisingType ≠ .advNonconnInd ∧ a.advertisingType ≠ .advScanInd

/-- It is for one peer. -/
def LegacyAdvertiser.isDirected (a : LegacyAdvertiser) : Bool :=
  a.advertisingType = .advDirectIndHigh ∨ a.advertisingType = .advDirectIndLow

/-- It answers scan requests. -/
def LegacyAdvertiser.isScannable (a : LegacyAdvertiser) : Bool :=
  a.advertisingType ≠ .advNonconnInd ∧ a.advertisingType ≠ .advDirectIndHigh ∧
    a.advertisingType ≠ .advDirectIndLow

/-- What the PDUs of an extended set are. -/
structure AdvertisingEventProperties where
  connectable : Bool := false
  scannable : Bool := false
  directed : Bool := false
  highDutyCycle : Bool := false
  legacy : Bool := false
  anonymous : Bool := false
  includeTxPower : Bool := false
deriving DecidableEq, Repr

/-- The PHYs of the primary channels. -/
inductive PrimaryPhyType
  | le1m
  | leCoded
deriving DecidableEq, Repr

/-- The intervals are in slots, the times in microseconds. -/
structure ExtendedAdvertiser where
  advertisingHandle : UInt8
  advertisingEnable : Bool := false
  advertisingAddress : AddressWithType := .empty
  targetAddress : AddressWithType := .empty
  nextEvent : Nat := 0
  timeout : Option Nat := none
  advertisingEventProperties : AdvertisingEventProperties := {}
  primaryAdvertisingInterval : Nat := 0
  primaryAdvertisingChannelMap : UInt8 := 0
  ownAddressType : OwnAddressType := .publicDeviceAddress
  peerAddressType : PeerAddressType := .publicDeviceOrIdentityAddress
  peerAddress : Address := Address.kEmpty
  randomAddress : Option Address := none
  advertisingFilterPolicy : AdvertisingFilterPolicy := .allDevices
  primaryAdvertisingPhy : PrimaryPhyType := .le1m
  maxExtendedAdvertisingEvents : UInt8 := 0
  numCompletedExtendedAdvertisingEvents : UInt8 := 0
  advertisingTxPower : UInt8 := 0
  secondaryAdvertisingPhy : SecondaryPhyType := .noPackets
  advertisingSid : UInt8 := 0
  advertisingData : DataBuffer := {}
  scanResponseData : DataBuffer := {}
  periodicAdvertisingEnable : Bool := false
  /-- Periodic advertising is running: it was enabled, and since then the set was. -/
  periodicAdvertisingEnableLatch : Bool := false
  periodicAdvertisingInterval : Nat := 0
  periodicAdvertisingData : DataBuffer := {}
  nextPeriodicEvent : Nat := 0
  constantToneExtensions : Bool := false
deriving DecidableEq, Repr

/-- The advertisers. -/
structure Advertisers where
  legacyAdvertiser : LegacyAdvertiser := {}
  /-- Source: `extended_advertisers_` -/
  extendedAdvertisers : HashMap UInt8 ExtendedAdvertiser := ∅

/-! ## The scanner -/

/-- Whether the scanner sends scan requests. -/
inductive LeScanType
  | passive
  | active
deriving DecidableEq, Repr

/-- Whose PDUs a scanner takes. -/
inductive LeScanningFilterPolicy
  | acceptAll
  | filterAcceptListOnly
  | checkInitiatorsIdentity
  | filterAcceptListAndInitiatorsIdentity
deriving DecidableEq, Repr

/-- Whether repeated reports are dropped. -/
inductive FilterDuplicates
  | disabled
  | enabled
  | resetEachPeriod
deriving DecidableEq, Repr

/-- How a PHY is scanned. -/
structure ScanningPhyParameters where
  leScanType : LeScanType := .passive
  leScanInterval : UInt16 := 0
  leScanWindow : UInt16 := 0
deriving DecidableEq, Repr

/-- Source: `LeController::Scanner::PhyParameters` -/
structure ScannerPhy extends ScanningPhyParameters where
  enabled : Bool := false
deriving DecidableEq, Repr

/-- The scan request that waits for its response. -/
structure ScanRequest where
  connectable : Bool
  extended : Bool
  primaryPhy : PhyType
  secondaryPhy : PhyType
  timeout : Nat
deriving DecidableEq, Repr

/-- The scanner. -/
structure Scanner where
  scanEnable : Bool := false
  period : Nat := 0
  duration : Nat := 0
  filterDuplicates : FilterDuplicates := .disabled
  ownAddressType : OwnAddressType := .publicDeviceAddress
  scanFilterPolicy : LeScanningFilterPolicy := .acceptAll
  le1mPhy : ScannerPhy := {}
  leCodedPhy : ScannerPhy := {}
  pendingScanRequests : List (AddressWithType × ScanRequest) := []
  timeout : Option Nat := none
  periodicalTimeout : Option Nat := none
  /-- The bytes of the PDUs that were received. -/
  history : List (List UInt8) := []
deriving DecidableEq, Repr

/-! ## The initiator -/

/-- Whom an initiator connects to. -/
inductive InitiatorFilterPolicy
  | usePeerAddress
  | useFilterAcceptListWithPeerAddress
  | useDecisionPdus
  | useFilterAcceptListWithDecisionPdus
deriving DecidableEq, Repr

/-- How a connection is initiated on a PHY. -/
structure InitiatingPhyParameters where
  scanInterval : UInt16 := 0
  scanWindow : UInt16 := 0
  connectionIntervalMin : UInt16 := 0
  connectionIntervalMax : UInt16 := 0
  maxLatency : UInt16 := 0
  supervisionTimeout : UInt16 := 0
  minCeLength : UInt16 := 0
  maxCeLength : UInt16 := 0
deriving DecidableEq, Repr

/-- Source: `LeController::Initiator::PhyParameters` -/
structure InitiatorPhy extends InitiatingPhyParameters where
  enabled : Bool := false
deriving DecidableEq, Repr

/-- The initiator. -/
structure Initiator where
  connectEnable : Bool := false
  initiatorFilterPolicy : InitiatorFilterPolicy := .usePeerAddress
  peerAddress : AddressWithType := .empty
  ownAddressType : OwnAddressType := .publicDeviceAddress
  le1mPhy : InitiatorPhy := {}
  le2mPhy : InitiatorPhy := {}
  leCodedPhy : InitiatorPhy := {}
  initiatingAddress : Address := Address.kEmpty
  pendingConnectRequest : Option AddressWithType := none
deriving DecidableEq, Repr

/-! ## Periodic syncs -/

/-- The options of a synchronization. -/
structure PeriodicAdvertisingOptions where
  usePeriodicAdvertiserList : Bool := false
  disableReporting : Bool := false
  enableDuplicateFiltering : Bool := false
deriving DecidableEq, Repr

/-- The synchronization that is being made. -/
structure Synchronizing where
  options : PeriodicAdvertisingOptions
  train : Train
  /-- In microseconds. -/
  syncTimeout : Nat
deriving DecidableEq, Repr

/-- A train that is followed. -/
structure Synchronized where
  train : Train
  syncHandle : UInt16
  syncTimeout : Nat
  timeout : Nat
deriving DecidableEq, Repr

/-- The pending sync and the established ones.
Source: `synchronizing_`, `synchronized_` -/
structure Synchronization where
  synchronizing : Option Synchronizing := none
  synchronized : HashMap UInt16 Synchronized := ∅

/-! ## State -/

/-- The fixed properties of the controller. -/
structure ControllerProperties where
  leFeatures : UInt64 := 0
  /-- The command LE Set Periodic Advertising Receive Enable is supported. -/
  supportsPeriodicAdvertisingReceiveEnable : Bool := false
  leFilterAcceptListSize : UInt8 := 16
  leResolvingListSize : UInt8 := 16
  leMaxAdvertisingDataLength : UInt16 := 512
  leNumSupportedAdvertisingSets : UInt8 := 16
  lePeriodicAdvertiserListSize : UInt8 := 8
deriving DecidableEq, Repr

/-- Source: `LLFeaturesBits` -/
def periodicAdvertisingAdiSupport : UInt64 := 0x1000000000

namespace ControllerProperties

/-- The controller has the feature. -/
def supportsLLFeature (p : ControllerProperties) (bit : UInt64) : Bool := p.leFeatures &&& bit ≠ 0

/-- The PHYs the controller has. -/
def leSupportedPhys (p : ControllerProperties) : UInt8 :=
  0x1 ||| (if p.supportsLLFeature LLFeaturesBits.le2mPhy then 0x2 else 0) |||
    (if p.supportsLLFeature LLFeaturesBits.leCodedPhy then 0x4 else 0)

end ControllerProperties

/-- What the controller keeps, but for what it has scheduled. -/
structure State extends Privacy, Advertisers, Synchronization where
  address : Address
  properties : ControllerProperties
  randomAddress : Address := Address.kEmpty
  eventMask : UInt64 := 0x00001fffffffffff
  leEventMask : UInt64 := 0x01f
  leFilterAcceptList : List FilterAcceptListEntry := []
  lePeriodicAdvertiserList : List Train := []
  legacyAdvertisingInUse : Bool := false
  extendedAdvertisingInUse : Bool := false
  scanner : Scanner := {}
  initiator : Initiator := {}

/-- The host wants this LE event. -/
def State.isLeEventUnmasked (s : State) (code : SubeventCode) : Bool :=
  s.eventMask.toNat.testBit (EventCode.leMetaEvent.toNat - 1) &&
    s.leEventMask.toNat.testBit (code.toNat - 1)

/-- The state of the controller that advertising and scanning depend on. -/
structure LeController extends State where
  /-- The events that are scheduled.
  Source: `task_queue_` -/
  tasks : List Event := []

/-- What a handler reads besides its arguments and the state. -/
structure Env where
  /-- The order in which `extended_advertisers_` is visited. -/
  setOrder : IterOrder UInt8
  /-- The order in which `synchronized_` is visited. -/
  syncOrder : IterOrder UInt16
  /-- The time, in microseconds. -/
  now : Nat
  aes : Aes
  /-- The random values for the first address that is generated, for the second, and so on. -/
  rand : Nat → Rand
  /-- The handle of a connection that is made. -/
  connectionHandle : UInt16

/-- An environment at a time, in which the hash of an address is a part of the key. -/
def Env.at (now : Nat) : Env where
  setOrder := IterOrder.id _
  syncOrder := IterOrder.id _
  now := now
  aes irk _ := irk.extractLsb' 0 24
  rand _ := ⟨1, 2, 3, 0⟩
  connectionHandle := 0

namespace LeController

/-- Source: `LeController::LeController` -/
def new (address : Address) (properties : ControllerProperties) : LeController where
  address := address
  properties := properties

/-- Send an LE event that the host has not masked. -/
def sendLeEvent (s : LeController) (code : SubeventCode) (event : Event) : List Output :=
  if s.isLeEventUnmasked code then [.event event] else []

/-- It is an address of this controller. -/
def isLocalPublicOrRandomAddress (s : LeController) (a : AddressWithType) : Bool :=
  match a.addressType with
  | .publicDeviceAddress => a.address = s.address
  | .randomDeviceAddress => a.address = s.randomAddress
  | _ => false

/-- The target address of a PDU is this controller. -/
def validateTargetA (s : LeController) (env : Env) (targetA advA : AddressWithType) : Bool :=
  s.isLocalPublicOrRandomAddress targetA || (targetA.isRpa && s.resolveTargetA env.aes targetA advA)

/-- The address a scanner or an initiator uses. That the random address is set was checked before.
Source: `ScanIncomingLeLegacyAdvertisingPdu`,
`ConnectIncomingLeLegacyAdvertisingPdu` -/
def chooseAddress (s : LeController) (ownAddressType : OwnAddressType)
    (resolvable : Option AddressWithType) : Except Panic AddressWithType :=
  let publicAddress : AddressWithType := ⟨s.address, .publicDeviceAddress⟩
  let randomAddress : AddressWithType := ⟨s.randomAddress, .randomDeviceAddress⟩
  match ownAddressType with
  | .publicDeviceAddress => .ok publicAddress
  | .randomDeviceAddress => do
    assert (s.randomAddress ≠ Address.kEmpty)
    .ok randomAddress
  | .resolvableOrPublicAddress => .ok (resolvable.getD publicAddress)
  | .resolvableOrRandomAddress => do
    assert (s.randomAddress ≠ Address.kEmpty)
    .ok (resolvable.getD randomAddress)

end LeController

end RootCanal.Gap
