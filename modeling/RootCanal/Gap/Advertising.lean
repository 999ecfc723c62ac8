import RootCanal.Gap.Lists

/-!
# Advertising

The commands of the legacy advertiser, of the advertising sets and of periodic advertising, and the
advertising routine.

The data of a set comes in fragments (`DataBuffer.receive`).  Each of the three buffers of a set has
a command of its own, with checks of its own; all of them discard what they have when it grows too
long, so that a command can fail and change its set.  This is why a command of the sets returns a
status beside the sets.

Source: `le_advertiser.cc`
-/

namespace RootCanal.Gap

open Lib RootCanal.Hci

/-- The microseconds of a number of slots. -/
def slots (count : Nat) : Nat := count * 625

/-- In microseconds. -/
def advDirectIndHighTimeout : Nat := 1280 * 1000

/-- In slots. -/
def advDirectIndHighInterval : Nat := 16

/-- One set of the enable command. -/
structure EnabledSet where
  advertisingHandle : UInt8
  duration : UInt16
  maxExtendedAdvertisingEvents : UInt8
deriving DecidableEq, Repr

/-- The data of a legacy PDU. -/
def maxLegacyAdvertisingPduSize : Nat := 31

/-- The data of an extended PDU. -/
def maxExtendedAdvertisingPduSize : Nat := 1650

/-- The commands of the legacy advertiser. -/
inductive LegacyAdvertisingCommand
  | leSetAdvertisingParameters (advertisingIntervalMin advertisingIntervalMax : UInt16)
      (advertisingType : AdvertisingType) (ownAddressType : OwnAddressType)
      (peerAddressType : PeerAddressType) (peerAddress : Address) (advertisingChannelMap : UInt8)
      (advertisingFilterPolicy : AdvertisingFilterPolicy)
  | leSetAdvertisingData (advertisingData : Payload 31)
  | leSetScanResponseData (scanResponseData : Payload 31)
  | leSetAdvertisingEnable (advertisingEnable : Bool)
deriving DecidableEq, Repr

/-- Source: `hci_packets.pdl` `LeSetExtendedAdvertisingParametersLegacy` -/
structure ExtendedAdvertisingParameters where
  advertisingEventProperties : AdvertisingEventProperties
  primaryAdvertisingIntervalMin : UInt16
  primaryAdvertisingIntervalMax : UInt16
  primaryAdvertisingChannelMap : UInt8
  ownAddressType : OwnAddressType
  peerAddressType : PeerAddressType
  peerAddress : Address
  advertisingFilterPolicy : AdvertisingFilterPolicy
  advertisingTxPower : UInt8
  primaryAdvertisingPhy : PrimaryPhyType
  secondaryAdvertisingPhy : SecondaryPhyType
  advertisingSid : UInt8
deriving DecidableEq, Repr

/-- The commands of the advertising sets. A command has at most 255 octets, of which four, or three
for periodic advertising data, come before the data. -/
inductive AdvertisingSetCommand
  | leSetAdvertisingSetRandomAddress (advertisingHandle : UInt8) (randomAddress : Address)
  | leSetExtendedAdvertisingParameters (advertisingHandle : UInt8)
      (parameters : ExtendedAdvertisingParameters)
  | leSetExtendedAdvertisingData (advertisingHandle : UInt8) (operation : Operation)
      (advertisingData : Payload 251)
  | leSetExtendedScanResponseData (advertisingHandle : UInt8) (operation : Operation)
      (scanResponseData : Payload 251)
  | leSetExtendedAdvertisingEnable (enable : Bool) (sets : List EnabledSet)
  | leRemoveAdvertisingSet (advertisingHandle : UInt8)
  | leClearAdvertisingSets
  | leSetPeriodicAdvertisingParameters (advertisingHandle : UInt8)
      (periodicAdvertisingIntervalMin periodicAdvertisingIntervalMax : UInt16)
  | leSetPeriodicAdvertisingData (advertisingHandle : UInt8) (operation : Operation)
      (advertisingData : Payload 252)
  | leSetPeriodicAdvertisingEnable (enable includeAdi : Bool) (advertisingHandle : UInt8)
deriving DecidableEq, Repr

/-! ## The data of a set -/

/-- Source: `LeSetExtendedAdvertisingData`,
`LeSetExtendedScanResponseData`, `LeSetPeriodicAdvertisingData` -/
def DataBuffer.receive (b : DataBuffer) (data : List UInt8) : Operation → DataBuffer
  | .intermediateFragment => ⟨b.data ++ data, true⟩
  | .firstFragment => ⟨data, true⟩
  | .lastFragment => ⟨b.data ++ data, false⟩
  | .completeAdvertisement => ⟨data, false⟩
  | .unchangedData => b

/-- The events that legacy PDUs can be used for.
Source: `hci_packets.pdl` `LegacyAdvertisingEventProperties`, with the flags of
`GetRawAdvertisingEventProperties` -/
def legacyAdvertisingType? (p : AdvertisingEventProperties) : Option AdvertisingType :=
  match p.connectable, p.scannable, p.directed, p.highDutyCycle with
  | true, true, false, false => some .advInd
  | true, false, true, false => some .advDirectIndLow
  | true, false, true, true => some .advDirectIndHigh
  | false, true, false, false => some .advScanInd
  | false, false, false, false => some .advNonconnInd
  | _, _, _, _ => none

/-- The set supports advertising data.
Source: `LeSetExtendedAdvertisingParameters`,
`LeSetExtendedAdvertisingData` -/
def canHaveAdvertisingData (p : AdvertisingEventProperties) : Bool :=
  p.legacy && !p.directed || !p.legacy && !p.scannable

/-- How much advertising data the properties allow. -/
def getMaxAdvertisingDataLength (p : AdvertisingEventProperties) : Nat :=
  if p.legacy && p.directed then 0
  else if p.legacy then maxLegacyAdvertisingPduSize
  else if p.scannable then 0
  else if !p.connectable then maxExtendedAdvertisingPduSize
  else 254 - 6 - 2 - (if p.directed then 6 else 0) - (if p.includeTxPower then 1 else 0)

/-- How much scan response data the properties allow. -/
def getMaxScanResponseDataLength (p : AdvertisingEventProperties) : Nat :=
  if !p.scannable then 0
  else if p.legacy then maxLegacyAdvertisingPduSize
  else maxExtendedAdvertisingPduSize

/-- How much periodic advertising data is allowed. -/
def getMaxPeriodicAdvertisingDataLength (_periodicAdvertisingInterval : Nat) : Nat :=
  maxExtendedAdvertisingPduSize

/-- The properties of a set for which there is no periodic advertising.
Source: `LeSetPeriodicAdvertisingParameters`,
`LeSetPeriodicAdvertisingEnable` -/
def excludesPeriodic (p : AdvertisingEventProperties) : Bool :=
  p.connectable || p.scannable || p.legacy || p.anonymous

namespace ExtendedAdvertiser

/-- LE Set Extended Advertising Data, for the set. -/
def leSetExtendedAdvertisingData (properties : ControllerProperties) (operation : Operation)
    (advertisingData : List UInt8) (advertiser : ExtendedAdvertiser) :
    Except ErrorCode (ExtendedAdvertiser × ErrorCode) := do
  let p := advertiser.advertisingEventProperties
  require (canHaveAdvertisingData p) .invalidHciCommandParameters
  require (!p.legacy ∨ operation = .completeAdvertisement ∧
    advertisingData.length ≤ maxLegacyAdvertisingPduSize) .invalidHciCommandParameters
  require (operation ≠ .unchangedData ∨ advertiser.advertisingEnable ∧
    advertiser.advertisingData.data ≠ [] ∧ !p.legacy ∧ advertisingData = [])
    .invalidHciCommandParameters
  require (operation = .completeAdvertisement ∨ operation = .unchangedData ∨ advertisingData ≠ [])
    .invalidHciCommandParameters
  require (!advertiser.advertisingEnable ∨ operation = .completeAdvertisement ∨
    operation = .unchangedData) .commandDisallowed
  let buffer := advertiser.advertisingData.receive advertisingData operation
  if properties.leMaxAdvertisingDataLength.toNat < buffer.data.length then
    .ok ({ advertiser with advertisingData := {} }, .memoryCapacityExceeded)
  else if advertiser.advertisingEnable ∧ getMaxAdvertisingDataLength p < buffer.data.length then
    .ok ({ advertiser with advertisingData := {} }, .packetTooLong)
  else .ok ({ advertiser with advertisingData := buffer }, .success)

/-- LE Set Extended Scan Response Data, for the set. -/
def leSetExtendedScanResponseData (properties : ControllerProperties) (operation : Operation)
    (scanResponseData : List UInt8) (advertiser : ExtendedAdvertiser) :
    Except ErrorCode (ExtendedAdvertiser × ErrorCode) := do
  let p := advertiser.advertisingEventProperties
  require (p.scannable ∨ scanResponseData = []) .invalidHciCommandParameters
  require (!p.scannable ∨ !p.legacy ∨ operation = .completeAdvertisement ∧
    scanResponseData.length ≤ maxLegacyAdvertisingPduSize) .invalidHciCommandParameters
  require (operation = .completeAdvertisement ∨ scanResponseData ≠ []) .invalidHciCommandParameters
  require (!advertiser.advertisingEnable ∨ operation = .completeAdvertisement) .commandDisallowed
  require (!advertiser.advertisingEnable ∨ !p.scannable ∨ p.legacy ∨ scanResponseData ≠ [])
    .commandDisallowed
  require (operation ≠ .unchangedData) .invalidHciCommandParameters
  let buffer := advertiser.scanResponseData.receive scanResponseData operation
  if properties.leMaxAdvertisingDataLength.toNat < buffer.data.length then
    .ok ({ advertiser with scanResponseData := {} }, .memoryCapacityExceeded)
  else if maxExtendedAdvertisingPduSize < buffer.data.length then
    .ok ({ advertiser with scanResponseData := {} }, .packetTooLong)
  else .ok ({ advertiser with scanResponseData := buffer }, .success)

/-- LE Set Periodic Advertising Data, for the set. -/
def leSetPeriodicAdvertisingData (properties : ControllerProperties) (operation : Operation)
    (advertisingData : List UInt8) (advertiser : ExtendedAdvertiser) :
    Except ErrorCode (ExtendedAdvertiser × ErrorCode) := do
  require (advertiser.periodicAdvertisingInterval ≠ 0) .commandDisallowed
  require (!advertiser.periodicAdvertisingEnable ∨ operation = .completeAdvertisement ∨
    operation = .unchangedData) .commandDisallowed
  require (operation = .completeAdvertisement ∨ operation = .unchangedData ∨ advertisingData ≠ [])
    .invalidHciCommandParameters
  require (operation ≠ .unchangedData ∨ advertiser.periodicAdvertisingEnable ∧
    advertiser.periodicAdvertisingData.data ≠ [] ∧ advertisingData = [])
      .invalidHciCommandParameters
  let buffer := advertiser.periodicAdvertisingData.receive advertisingData operation
  if properties.leMaxAdvertisingDataLength.toNat < buffer.data.length then
    .ok ({ advertiser with periodicAdvertisingData := {} }, .memoryCapacityExceeded)
  else if getMaxPeriodicAdvertisingDataLength advertiser.periodicAdvertisingInterval <
      buffer.data.length then
    .ok ({ advertiser with periodicAdvertisingData := {} }, .packetTooLong)
  else .ok ({ advertiser with periodicAdvertisingData := buffer }, .success)

/-! ## Parameters -/

/-- LE Set Advertising Set Random Address, for the set. -/
def leSetAdvertisingSetRandomAddress (randomAddress : Address) (advertiser : ExtendedAdvertiser) :
    Except ErrorCode (ExtendedAdvertiser × ErrorCode) := do
  require (!advertiser.advertisingEnable) .commandDisallowed
  .ok ({ advertiser with randomAddress := some randomAddress }, .success)

/-- The checks that are made of the parameters of a set, and the set with them. -/
def leSetExtendedAdvertisingParameters (parameters : ExtendedAdvertisingParameters)
    (advertiser : ExtendedAdvertiser) : Except ErrorCode ExtendedAdvertiser := do
  let p := parameters.advertisingEventProperties
  let primaryAdvertisingChannelMap := parameters.primaryAdvertisingChannelMap &&& 0x7
  require (!advertiser.advertisingEnable) .commandDisallowed
  require (!p.legacy ∨ (legacyAdvertisingType? p).isSome ∧ !p.anonymous ∧
    !p.includeTxPower) .invalidHciCommandParameters
  require (canHaveAdvertisingData p ∨ advertiser.advertisingData.data = [])
    .invalidHciCommandParameters
  require (p.scannable ∨ advertiser.scanResponseData.data = []) .invalidHciCommandParameters
  require (!p.legacy ∨ advertiser.advertisingData.data.length ≤ maxLegacyAdvertisingPduSize ∧
    advertiser.scanResponseData.data.length ≤ maxLegacyAdvertisingPduSize)
    .invalidHciCommandParameters
  require (p.legacy ∨ !p.connectable ∨ !p.scannable) .invalidHciCommandParameters
  require (p.legacy ∨ !p.connectable ∨ !p.directed ∨ !p.highDutyCycle) .invalidHciCommandParameters
  require (0x20 ≤ parameters.primaryAdvertisingIntervalMin ∧
    0x20 ≤ parameters.primaryAdvertisingIntervalMax) .unsupportedFeatureOrParameterValue
  require (parameters.primaryAdvertisingIntervalMin ≤ parameters.primaryAdvertisingIntervalMax)
    .invalidHciCommandParameters
  require (primaryAdvertisingChannelMap ≠ 0) .invalidHciCommandParameters
  require (!p.legacy ∨ parameters.primaryAdvertisingPhy = .le1m) .invalidHciCommandParameters
  require (!advertiser.constantToneExtensions ∨ parameters.secondaryAdvertisingPhy ≠ .leCoded)
    .commandDisallowed
  require (!advertiser.periodicAdvertisingEnable ∨ !excludesPeriodic p) .invalidHciCommandParameters
  require (p.legacy ∨ advertiser.advertisingData.data.length ≤ maxExtendedAdvertisingPduSize ∧
    advertiser.scanResponseData.data.length ≤ maxExtendedAdvertisingPduSize) .packetTooLong
  .ok { advertiser with
        advertisingEventProperties := p
        primaryAdvertisingInterval := parameters.primaryAdvertisingIntervalMin.toNat
        primaryAdvertisingChannelMap := primaryAdvertisingChannelMap
        ownAddressType := parameters.ownAddressType
        peerAddressType := parameters.peerAddressType
        peerAddress := parameters.peerAddress
        advertisingFilterPolicy := parameters.advertisingFilterPolicy
        advertisingTxPower := parameters.advertisingTxPower
        primaryAdvertisingPhy := parameters.primaryAdvertisingPhy
        secondaryAdvertisingPhy := parameters.secondaryAdvertisingPhy
        advertisingSid := parameters.advertisingSid }

/-- LE Set Periodic Advertising Parameters, for the set. -/
def leSetPeriodicAdvertisingParameters
    (periodicAdvertisingIntervalMin periodicAdvertisingIntervalMax : UInt16)
    (advertiser : ExtendedAdvertiser) : Except ErrorCode (ExtendedAdvertiser × ErrorCode) := do
  require (0x6 ≤ periodicAdvertisingIntervalMin ∧ 0x6 ≤ periodicAdvertisingIntervalMax ∧
    periodicAdvertisingIntervalMin ≤ periodicAdvertisingIntervalMax) .invalidHciCommandParameters
  require (!excludesPeriodic advertiser.advertisingEventProperties) .invalidHciCommandParameters
  require (!advertiser.periodicAdvertisingEnable) .commandDisallowed
  require (advertiser.periodicAdvertisingData.data.length ≤
    getMaxPeriodicAdvertisingDataLength periodicAdvertisingIntervalMax.toNat) .packetTooLong
  .ok
    ({ advertiser with periodicAdvertisingInterval := periodicAdvertisingIntervalMax.toNat },
    .success)

/-! ## Enabling -/

/-- Advertising is enabled. -/
def enable (now : Nat) (advertiser : ExtendedAdvertiser) : ExtendedAdvertiser :=
  { advertiser with
    advertisingEnable := true
    periodicAdvertisingEnableLatch := advertiser.periodicAdvertisingEnable
    nextEvent := now }

/-- Advertising is disabled. -/
def disable (advertiser : ExtendedAdvertiser) : ExtendedAdvertiser :=
  { advertiser with advertisingEnable := false }

/-- Periodic advertising is enabled. -/
def enablePeriodic (now : Nat) (advertiser : ExtendedAdvertiser) : ExtendedAdvertiser :=
  { advertiser with
    periodicAdvertisingEnable := true
    periodicAdvertisingEnableLatch := advertiser.advertisingEnable
    nextPeriodicEvent := now }

/-- Periodic advertising is disabled. -/
def disablePeriodic (advertiser : ExtendedAdvertiser) : ExtendedAdvertiser :=
  { advertiser with periodicAdvertisingEnable := false, periodicAdvertisingEnableLatch := false }

/-- LE Set Periodic Advertising Enable, for the set. -/
def leSetPeriodicAdvertisingEnable (properties : ControllerProperties) (now : Nat)
    (enable includeAdi : Bool) (advertiser : ExtendedAdvertiser) :
    Except ErrorCode (ExtendedAdvertiser × ErrorCode) :=
  if !enable then .ok (advertiser.disablePeriodic, .success)
  else do
    require (!advertiser.periodicAdvertisingData.isPartial) .commandDisallowed
    require (advertiser.periodicAdvertisingInterval ≠ 0) .commandDisallowed
    require (advertiser.periodicAdvertisingData.data.length ≤
      getMaxPeriodicAdvertisingDataLength advertiser.periodicAdvertisingInterval) .packetTooLong
    require (!excludesPeriodic advertiser.advertisingEventProperties) .commandDisallowed
    require (!includeAdi ∨ properties.supportsLLFeature periodicAdvertisingAdiSupport)
      .unsupportedFeatureOrParameterValue
    .ok (advertiser.enablePeriodic now, .success)

/-- What is checked of a set that is to be enabled.
Source: `LeSetExtendedAdvertisingEnable` -/
def checkEnable (set : EnabledSet) (advertiser : ExtendedAdvertiser) : Except ErrorCode Unit := do
  let p := advertiser.advertisingEventProperties
  require (!(p.connectable && p.directed && p.highDutyCycle) ∨
    set.duration ≠ 0 ∧ set.duration.toNat * 10 * 1000 ≤ advDirectIndHighTimeout)
    .invalidHciCommandParameters
  require (!advertiser.advertisingData.isPartial ∧ !advertiser.scanResponseData.isPartial)
    .commandDisallowed
  require (p.legacy ∨ !p.scannable ∨ advertiser.scanResponseData.data ≠ []) .commandDisallowed
  require (p.legacy ∨ !p.connectable ∨
    advertiser.advertisingData.data.length ≤ getMaxAdvertisingDataLength p)
    .invalidHciCommandParameters
  require (p.legacy ∨ advertiser.advertisingData.data.length ≤ maxExtendedAdvertisingPduSize ∧
    advertiser.scanResponseData.data.length ≤ maxExtendedAdvertisingPduSize) .packetTooLong

end ExtendedAdvertiser

namespace LeController

/-- The address an advertiser uses.
Source: `LeSetAdvertisingEnable`,
`LeSetExtendedAdvertisingEnable` -/
def chooseAdvertisingAddress (s : LeController) (ownAddressType : OwnAddressType)
    (randomAddress : Address) (resolvable : Option AddressWithType) :
    Except ErrorCode AddressWithType :=
  let publicAddress : AddressWithType := ⟨s.address, .publicDeviceAddress⟩
  match ownAddressType with
  | .publicDeviceAddress => .ok publicAddress
  | .randomDeviceAddress => do
    require (randomAddress ≠ Address.kEmpty) .invalidHciCommandParameters
    .ok ⟨randomAddress, .randomDeviceAddress⟩
  | .resolvableOrPublicAddress => .ok (resolvable.getD publicAddress)
  | .resolvableOrRandomAddress =>
    match resolvable with
    | some a => .ok a
    | none => do
      require (randomAddress ≠ Address.kEmpty) .invalidHciCommandParameters
      .ok ⟨randomAddress, .randomDeviceAddress⟩

/-! ## Legacy advertising -/

/-- LE Set Advertising Parameters. -/
def leSetAdvertisingParameters (s : LeController)
    (advertisingIntervalMin advertisingIntervalMax : UInt16)
    (advertisingType : AdvertisingType) (ownAddressType : OwnAddressType)
    (peerAddressType : PeerAddressType) (peerAddress : Address) (advertisingChannelMap : UInt8)
    (advertisingFilterPolicy : AdvertisingFilterPolicy) : Except ErrorCode LegacyAdvertiser := do
  let advertisingChannelMap := advertisingChannelMap &&& 0x7
  -- the interval of high duty cycle directed advertising is fixed
  let fixed := advertisingType = .advDirectIndHigh
  let intervalMin := if fixed then 0x800 else advertisingIntervalMin
  let intervalMax := if fixed then 0x800 else advertisingIntervalMax
  require (!s.legacyAdvertiser.advertisingEnable) .commandDisallowed
  require (advertisingChannelMap ≠ 0) .invalidHciCommandParameters
  require (0x20 ≤ intervalMin ∧ intervalMin ≤ 0x4000 ∧ 0x20 ≤ intervalMax ∧ intervalMax ≤ 0x4000)
    .unsupportedFeatureOrParameterValue
  require (intervalMin ≤ intervalMax) .invalidHciCommandParameters
  .ok { s.legacyAdvertiser with
        advertisingInterval := if fixed then advDirectIndHighInterval else intervalMin.toNat
        advertisingType, ownAddressType, peerAddressType, peerAddress, advertisingChannelMap,
        advertisingFilterPolicy }

/-- LE Set Advertising Enable. -/
def leSetAdvertisingEnable (s : LeController) (env : Env) (advertisingEnable : Bool) :
    Except ErrorCode LegacyAdvertiser :=
  let advertiser := s.legacyAdvertiser
  if !advertisingEnable then .ok { advertiser with advertisingEnable := false }
  else do
    let peer := peerDeviceAddress advertiser.peerAddress advertiser.peerAddressType
    let advertisingAddress ← s.chooseAdvertisingAddress advertiser.ownAddressType s.randomAddress
      (s.generateResolvablePrivateAddress env.aes peer .loc (env.rand 0))
    let timeout :=
      if advertiser.advertisingType = .advDirectIndHigh then some
        (env.now + advDirectIndHighTimeout)
      else none
    let targetAddress :=
      if advertiser.isDirected then
        (s.generateResolvablePrivateAddress env.aes peer .peer (env.rand 1)).getD peer
      else .empty
    .ok { advertiser with
          advertisingEnable := true
          nextEvent := env.now + slots advertiser.advertisingInterval
          advertisingAddress, targetAddress, timeout }

/-- A command of the legacy advertiser. -/
def legacyAdvertising (s : LeController) (env : Env) :
    LegacyAdvertisingCommand → Except ErrorCode LegacyAdvertiser
  | .leSetAdvertisingParameters intervalMin intervalMax type own peerType peer channelMap policy =>
    s.leSetAdvertisingParameters intervalMin intervalMax type own peerType peer channelMap policy
  | .leSetAdvertisingData data => .ok { s.legacyAdvertiser with advertisingData := data.octets }
  | .leSetScanResponseData data => .ok { s.legacyAdvertiser with scanResponseData := data.octets }
  | .leSetAdvertisingEnable enable => s.leSetAdvertisingEnable env enable

/-! ## Advertising sets -/

/-- The advertising sets. -/
abbrev Sets := HashMap UInt8 ExtendedAdvertiser

/-- A command about one set. -/
def onSet (s : LeController) (advertisingHandle : UInt8)
    (f : ExtendedAdvertiser → Except ErrorCode (ExtendedAdvertiser × ErrorCode)) :
    Except ErrorCode (Sets × ErrorCode) :=
  match s.extendedAdvertisers[advertisingHandle]? with
  | none => .error .unknownAdvertisingIdentifier
  | some advertiser => do
    let (advertiser, status) ← f advertiser
    .ok (s.extendedAdvertisers.insert advertisingHandle advertiser, status)

/-- LE Set Extended Advertising Parameters: a set is made, or changed. -/
def leSetExtendedAdvertisingParameters (s : LeController) (advertisingHandle : UInt8)
    (parameters : ExtendedAdvertisingParameters) : Except ErrorCode (Sets × ErrorCode) := do
  require (s.extendedAdvertisers.contains advertisingHandle ∨
    s.extendedAdvertisers.size < s.properties.leNumSupportedAdvertisingSets.toNat)
    .memoryCapacityExceeded
  let advertiser ← ((s.extendedAdvertisers[advertisingHandle]?).getD
    { advertisingHandle }).leSetExtendedAdvertisingParameters parameters
  .ok (s.extendedAdvertisers.insert advertisingHandle advertiser, .success)

/-- The handles are of different sets that exist. -/
def checkHandles (s : LeController) : List UInt8 → List EnabledSet → Except ErrorCode Unit
  | _, [] => .ok ()
  | used, set :: sets => do
    require (set.advertisingHandle ∉ used) .invalidHciCommandParameters
    require (s.extendedAdvertisers.contains set.advertisingHandle) .unknownAdvertisingIdentifier
    s.checkHandles (set.advertisingHandle :: used) sets

/-- The addresses that a set will use, the `n`-th of a list. -/
def prepareSet (s : LeController) (env : Env) (n : Nat) (set : EnabledSet)
    (advertiser : ExtendedAdvertiser) : Except ErrorCode ExtendedAdvertiser := do
  advertiser.checkEnable set
  let peer := peerDeviceAddress advertiser.peerAddress advertiser.peerAddressType
  let advertisingAddress ← s.chooseAdvertisingAddress advertiser.ownAddressType
    (advertiser.randomAddress.getD Address.kEmpty)
    (s.generateResolvablePrivateAddress env.aes peer .loc (env.rand (2 * n)))
  let targetAddress :=
    if advertiser.advertisingEventProperties.directed then
      (s.generateResolvablePrivateAddress env.aes peer .peer (env.rand (2 * n + 1))).getD peer
    else advertiser.targetAddress
  .ok { advertiser with advertisingAddress, targetAddress }

/-- All the sets are prepared before any is enabled. Those before one that fails keep their new
addresses. -/
def prepareSets (s : LeController) (env : Env) : Nat → Sets → List EnabledSet → Sets × ErrorCode
  | _, sets, [] => (sets, .success)
  | n, sets, set :: rest =>
    match sets[set.advertisingHandle]? with
    | none => (sets, .unknownAdvertisingIdentifier)
    | some advertiser =>
      match s.prepareSet env n set advertiser with
      | .error status => (sets, status)
      | .ok advertiser =>
        s.prepareSets env (n + 1) (sets.insert set.advertisingHandle advertiser) rest

/-- Source: `LeSetExtendedAdvertisingEnable` -/
def enableSet (now : Nat) (sets : Sets) (set : EnabledSet) : Sets :=
  sets.modify set.advertisingHandle fun advertiser =>
    { advertiser.enable now with
      maxExtendedAdvertisingEvents := set.maxExtendedAdvertisingEvents
      numCompletedExtendedAdvertisingEvents := 0
      timeout := if 0 < set.duration then some (now + set.duration.toNat * 10 * 1000) else none }

/-- Source: `LeSetExtendedAdvertisingEnable` -/
def disableSet (sets : Sets) (advertisingHandle : UInt8) : Sets :=
  sets.modify advertisingHandle ExtendedAdvertiser.disable

/-- LE Set Extended Advertising Enable. -/
def leSetExtendedAdvertisingEnable (s : LeController) (env : Env) (enable : Bool)
    (sets : List EnabledSet) : Except ErrorCode (Sets × ErrorCode) := do
  s.checkHandles [] sets
  if !enable then
    let handles :=
      if sets.isEmpty then s.extendedAdvertisers.keysWhere env.setOrder fun _ => true
      else sets.map (·.advertisingHandle)
    .ok (handles.foldl disableSet s.extendedAdvertisers, .success)
  else do
    require (!sets.isEmpty) .invalidHciCommandParameters
    match s.prepareSets env 0 s.extendedAdvertisers sets with
    | (prepared, .success) => .ok (sets.foldl (enableSet env.now) prepared, .success)
    | (prepared, status) => .ok (prepared, status)

/-- LE Remove Advertising Set. -/
def leRemoveAdvertisingSet (s : LeController) (advertisingHandle : UInt8) :
    Except ErrorCode (Sets × ErrorCode) :=
  match s.extendedAdvertisers[advertisingHandle]? with
  | none => .error .unknownAdvertisingIdentifier
  | some advertiser => do
    require (!advertiser.advertisingEnable) .commandDisallowed
    .ok (s.extendedAdvertisers.erase advertisingHandle, .success)

/-- LE Clear Advertising Sets. -/
def leClearAdvertisingSets (s : LeController) : Except ErrorCode (Sets × ErrorCode) := do
  require (!s.extendedAdvertisers.any fun _ advertiser => advertiser.advertisingEnable)
    .commandDisallowed
  .ok (∅, .success)

/-- A command of the advertising sets: the sets after it, and its status. -/
def advertisingSets (s : LeController) (env : Env) :
    AdvertisingSetCommand → Except ErrorCode (Sets × ErrorCode)
  | .leSetAdvertisingSetRandomAddress handle randomAddress =>
    s.onSet handle (·.leSetAdvertisingSetRandomAddress randomAddress)
  | .leSetExtendedAdvertisingParameters handle parameters =>
    s.leSetExtendedAdvertisingParameters handle parameters
  | .leSetExtendedAdvertisingData handle operation data =>
    s.onSet handle (·.leSetExtendedAdvertisingData s.properties operation data.octets)
  | .leSetExtendedScanResponseData handle operation data =>
    s.onSet handle (·.leSetExtendedScanResponseData s.properties operation data.octets)
  | .leSetExtendedAdvertisingEnable enable sets => s.leSetExtendedAdvertisingEnable env enable sets
  | .leRemoveAdvertisingSet handle => s.leRemoveAdvertisingSet handle
  | .leClearAdvertisingSets => s.leClearAdvertisingSets
  | .leSetPeriodicAdvertisingParameters handle intervalMin intervalMax =>
    s.onSet handle (·.leSetPeriodicAdvertisingParameters intervalMin intervalMax)
  | .leSetPeriodicAdvertisingData handle operation data =>
    s.onSet handle (·.leSetPeriodicAdvertisingData s.properties operation data.octets)
  | .leSetPeriodicAdvertisingEnable enable includeAdi handle =>
    s.onSet handle (·.leSetPeriodicAdvertisingEnable s.properties env.now enable includeAdi)

/-! ## Advertising events -/

/-- Source: `LeAdvertising` -/
def legacyPduType : AdvertisingType → LegacyAdvertisingType
  | .advInd => .advInd
  | .advDirectIndHigh | .advDirectIndLow => .advDirectInd
  | .advScanInd => .advScanInd
  | .advNonconnInd => .advNonconnInd

/-- A legacy advertising PDU. -/
def legacyPdu (advertisingAddress targetAddress : AddressWithType) (type : AdvertisingType)
    (data : List UInt8) : Output :=
  .packet ⟨advertisingAddress.address, targetAddress.address,
    .leLegacyAdvertisingPdu advertisingAddress.addressType targetAddress.addressType
      (legacyPduType type) data⟩

/-- The timeout and the event of the legacy advertiser. -/
def advertiseLegacy (s : LeController) (now : Nat) : LegacyAdvertiser × List Output :=
  let advertiser := s.legacyAdvertiser
  let expired := advertiser.advertisingEnable && advertiser.timeout.any (· ≤ now)
  let due := advertiser.advertisingEnable && !expired && advertiser.nextEvent ≤ now
  let data := if advertiser.isDirected then [] else advertiser.advertisingData
  ({ advertiser with
     advertisingEnable := advertiser.advertisingEnable && !expired
     nextEvent := if due then now + slots advertiser.advertisingInterval
       else advertiser.nextEvent },
    (if expired then s.sendLeEvent .leConnectionComplete (.leConnectionComplete .advertisingTimeout)
      else []) ++
    (if due then [legacyPdu advertiser.advertisingAddress advertiser.targetAddress
      advertiser.advertisingType data] else []))

/-- Source: `LeAdvertising` -/
def primaryPhy : PrimaryPhyType → PhyType
  | .le1m => .le1m
  | .leCoded => .leCodedS8

/-- Source: `LeAdvertising` -/
def secondaryPhy : SecondaryPhyType → PhyType
  | .noPackets => .noPackets
  | .le1m => .le1m
  | .le2m => .le2m
  | .leCoded => .leCodedS8

/-- The PDU of an advertising set. The routine aborts at properties of a legacy PDU that it does not
expect. -/
def setPdu (advertiser : ExtendedAdvertiser) : Except Panic Output :=
  let p := advertiser.advertisingEventProperties
  if p.legacy then do
    let type ← assertSome (legacyAdvertisingType? p)
    .ok (legacyPdu advertiser.advertisingAddress advertiser.targetAddress type
      advertiser.advertisingData.data)
  else .ok <| .packet ⟨advertiser.advertisingAddress.address, advertiser.targetAddress.address,
    .leExtendedAdvertisingPdu advertiser.advertisingAddress.addressType
      advertiser.targetAddress.addressType p.connectable p.scannable p.directed
      advertiser.advertisingSid advertiser.advertisingTxPower
      (primaryPhy advertiser.primaryAdvertisingPhy)
        (secondaryPhy advertiser.secondaryAdvertisingPhy)
      advertiser.periodicAdvertisingInterval advertiser.advertisingData.data⟩

/-- The PDU of periodic advertising. -/
def periodicPdu (advertiser : ExtendedAdvertiser) : Output :=
  .packet ⟨advertiser.advertisingAddress.address, Address.kEmpty,
    .lePeriodicAdvertisingPdu advertiser.advertisingAddress.addressType advertiser.advertisingSid
      advertiser.advertisingTxPower advertiser.periodicAdvertisingInterval
      advertiser.periodicAdvertisingData.data⟩

/-- The duration of an advertising set has passed. -/
def expireSet (s : LeController) (now : Nat) (advertiser : ExtendedAdvertiser) :
    ExtendedAdvertiser × List Output :=
  if advertiser.advertisingEnable && advertiser.timeout.any (· ≤ now) then
    let p := advertiser.advertisingEventProperties
    let events :=
      if p.directed && p.connectable && p.highDutyCycle then
        if s.isLeEventUnmasked .leEnhancedConnectionCompleteV1 then
          [.event (.leEnhancedConnectionCompleteV1 .advertisingTimeout)]
        else s.sendLeEvent .leConnectionComplete (.leConnectionComplete .advertisingTimeout)
      else []
    let completed := if advertiser.maxExtendedAdvertisingEvents ≠ 0 then
      advertiser.numCompletedExtendedAdvertisingEvents else 0
    (advertiser.disable, events ++ s.sendLeEvent .leAdvertisingSetTerminated
      (.leAdvertisingSetTerminated .advertisingTimeout advertiser.advertisingHandle 0 completed))
  else (advertiser, [])

/-- An advertising set has sent all its events. -/
def exhaustSet (s : LeController) (advertiser : ExtendedAdvertiser) :
    ExtendedAdvertiser × List Output :=
  if advertiser.advertisingEnable && advertiser.maxExtendedAdvertisingEvents ≠ 0 &&
      advertiser.maxExtendedAdvertisingEvents ≤
        advertiser.numCompletedExtendedAdvertisingEvents then
    (advertiser.disable, s.sendLeEvent .leAdvertisingSetTerminated
      (.leAdvertisingSetTerminated .advertisingTimeout advertiser.advertisingHandle 0
        advertiser.numCompletedExtendedAdvertisingEvents))
  else (advertiser, [])

/-- The advertising event of a set, if it is due. -/
def advertisingEvent (now : Nat) (advertiser : ExtendedAdvertiser) :
    Except Panic (ExtendedAdvertiser × List Output) :=
  if advertiser.advertisingEnable && advertiser.nextEvent ≤ now then do
    let pdu ← setPdu advertiser
    .ok (
      { advertiser with
        nextEvent := advertiser.nextEvent + slots advertiser.primaryAdvertisingInterval
        numCompletedExtendedAdvertisingEvents :=
          advertiser.numCompletedExtendedAdvertisingEvents + 1 }, [pdu])
  else .ok (advertiser, [])

/-- The event of periodic advertising, if it is due. -/
def periodicAdvertisingEvent (now : Nat) (advertiser : ExtendedAdvertiser) :
    ExtendedAdvertiser × List Output :=
  if advertiser.periodicAdvertisingEnableLatch && advertiser.nextPeriodicEvent ≤ now then
    ({ advertiser with nextPeriodicEvent :=
        advertiser.nextPeriodicEvent + slots advertiser.periodicAdvertisingInterval },
      [periodicPdu advertiser])
  else (advertiser, [])

/-- Source: `LeAdvertising` -/
def advertiseSet (s : LeController) (now : Nat) (advertiser : ExtendedAdvertiser) :
    Except Panic (ExtendedAdvertiser × List Output) := do
  let (advertiser, expired) := s.expireSet now advertiser
  let (advertiser, exhausted) := s.exhaustSet advertiser
  let (advertiser, pdu) ← advertisingEvent now advertiser
  let (advertiser, periodic) := periodicAdvertisingEvent now advertiser
  .ok (advertiser, expired ++ exhausted ++ pdu ++ periodic)

/-- Source: `LeAdvertising` -/
def advertiseSets (s : LeController) (now : Nat) :
    Sets → List UInt8 → Except Panic (Sets × List Output)
  | sets, [] => .ok (sets, [])
  | sets, handle :: handles =>
    match sets[handle]? with
    | none => s.advertiseSets now sets handles
    | some advertiser => do
      let (advertiser, out) ← s.advertiseSet now advertiser
      let (sets, outs) ← s.advertiseSets now (sets.insert handle advertiser) handles
      .ok (sets, out ++ outs)

/-- All advertisers advertise, or time out. -/
def leAdvertising (s : LeController) (env : Env) : Except Panic (Advertisers × List Output) := do
  let (legacyAdvertiser, out) := s.advertiseLegacy env.now
  let (extendedAdvertisers, outs) ← s.advertiseSets env.now s.extendedAdvertisers
    (s.extendedAdvertisers.keysWhere env.setOrder fun _ => true)
  .ok ({ legacyAdvertiser, extendedAdvertisers }, out ++ outs)

/-! ## Scan requests -/

/-- The filter of an advertiser lets a device scan.
Source: `ProcessIncomingLegacyScanRequest`,
`ProcessIncomingExtendedScanRequest` -/
def acceptsScanner (s : LeController) (policy : AdvertisingFilterPolicy)
    (resolved : AddressWithType) : Bool :=
  match policy with
  | .allDevices | .listedConnect => true
  | .listedScan | .listedScanAndConnect => s.leFilterAcceptListContainsDevice resolved

/-- Source: `ProcessIncomingLegacyScanRequest` -/
def scanResponse (scanningAddress advertisingAddress : AddressWithType) (data : List UInt8) :
    Output :=
  .packet ⟨advertisingAddress.address, scanningAddress.address,
    .leScanResponse advertisingAddress.addressType data⟩

/-- The legacy advertiser answers a scan request. -/
def processIncomingLegacyScanRequest (s : LeController)
    (scanningAddress resolved advertisingAddress : AddressWithType) : List Output :=
  let advertiser := s.legacyAdvertiser
  if advertiser.advertisingEnable && advertiser.isScannable &&
      advertisingAddress = advertiser.advertisingAddress &&
      s.acceptsScanner advertiser.advertisingFilterPolicy resolved then
    [scanResponse scanningAddress advertisingAddress advertiser.scanResponseData]
  else []

/-- An extended advertiser answers a scan request. -/
def processIncomingExtendedScanRequest (s : LeController)
    (scanningAddress resolved advertisingAddress : AddressWithType)
    (advertiser : ExtendedAdvertiser) :
    List Output :=
  let p := advertiser.advertisingEventProperties
  if advertiser.advertisingEnable && p.scannable &&
      advertisingAddress = advertiser.advertisingAddress &&
      s.acceptsScanner advertiser.advertisingFilterPolicy resolved &&
      (!p.directed || advertiser.targetAddress = resolved) then
    [scanResponse scanningAddress advertisingAddress advertiser.scanResponseData.data]
  else []

/-- A scan request arrives. -/
def incomingLeScanPacket (s : LeController) (env : Env)
    (scanningAddress advertisingAddress : AddressWithType) : List Output :=
  let resolved := s.resolved env.aes scanningAddress
  s.processIncomingLegacyScanRequest scanningAddress resolved advertisingAddress ++
  (s.extendedAdvertisers.values env.setOrder).flatMap
    (s.processIncomingExtendedScanRequest scanningAddress resolved advertisingAddress)

/-! ## Connect requests -/

/-- The advertiser accepts a connect request.
Source: `ProcessIncomingLegacyConnectRequest`,
`ProcessIncomingExtendedConnectRequest` -/
def acceptsInitiator (s : LeController) (directed : Bool) (peer : AddressWithType)
    (policy : AdvertisingFilterPolicy) (resolved : AddressWithType) : Bool :=
  if directed then resolved = peer
  else match policy with
    | .allDevices | .listedScan => true
    | .listedConnect | .listedScanAndConnect => s.leFilterAcceptListContainsDevice resolved

/-- The identity of the initiator, if it is another than its address. -/
def resolvedOr (a resolved : AddressWithType) : AddressWithType :=
  if resolved ≠ a then resolved else .empty

/-- The connection of an advertiser that accepts a connect request, and its answer.
Source: `ProcessIncomingLegacyConnectRequest`,
`ProcessIncomingExtendedConnectRequest` -/
def acceptConnect (initiatingAddress resolved advertisingAddress : AddressWithType)
    (interval latency timeout : UInt16) : List Output :=
  [.connection initiatingAddress (resolvedOr initiatingAddress resolved)
    advertisingAddress .peripheral interval latency timeout,
   .packet ⟨advertisingAddress.address, initiatingAddress.address,
    .leConnectComplete initiatingAddress.addressType advertisingAddress.addressType interval latency
      timeout⟩]

/-- The legacy advertiser takes a connection request. -/
def processIncomingLegacyConnectRequest (s : LeController)
    (resolved advertisingAddress : AddressWithType) : Bool :=
  let advertiser := s.legacyAdvertiser
  advertiser.advertisingEnable && advertiser.isConnectable &&
    advertiser.advertisingAddress = advertisingAddress &&
    s.acceptsInitiator advertiser.isDirected
      (peerDeviceAddress advertiser.peerAddress advertiser.peerAddressType)
      advertiser.advertisingFilterPolicy resolved

/-- An extended advertiser takes a connection request. -/
def processIncomingExtendedConnectRequest (s : LeController)
    (resolved advertisingAddress : AddressWithType) (advertiser : ExtendedAdvertiser) : Bool :=
  let p := advertiser.advertisingEventProperties
  advertiser.advertisingEnable && p.connectable &&
    advertiser.advertisingAddress = advertisingAddress &&
    s.acceptsInitiator p.directed
      (peerDeviceAddress advertiser.peerAddress advertiser.peerAddressType)
      advertiser.advertisingFilterPolicy resolved

/-- The first advertiser that accepts a connect request is disabled. -/
def incomingLeConnectPacket (s : LeController) (env : Env)
    (initiatingAddress advertisingAddress : AddressWithType) (interval latency timeout : UInt16) :
    Advertisers × List Output :=
  let resolved := s.resolved env.aes initiatingAddress
  let accept := acceptConnect initiatingAddress resolved advertisingAddress interval latency timeout
  if s.processIncomingLegacyConnectRequest resolved advertisingAddress then
    ({ s.toAdvertisers with legacyAdvertiser :=
      { s.legacyAdvertiser with advertisingEnable := false } },
      accept)
  else
    match s.extendedAdvertisers.keysWhere env.setOrder
        (s.processIncomingExtendedConnectRequest resolved advertisingAddress) with
    | [] => (s.toAdvertisers, [])
    | handle :: _ =>
      match s.extendedAdvertisers[handle]? with
      | none => (s.toAdvertisers, [])
      | some advertiser =>
        ({ s.toAdvertisers with extendedAdvertisers := disableSet s.extendedAdvertisers handle },
          accept ++ s.sendLeEvent .leAdvertisingSetTerminated
            (.leAdvertisingSetTerminated .success advertiser.advertisingHandle env.connectionHandle
              advertiser.numCompletedExtendedAdvertisingEvents))

end LeController

end RootCanal.Gap
