import RootCanal.Gap.Controller

/-!
# The lists of devices

The commands of the resolving list, of the filter accept list and of the periodic advertiser list.
Each list has a condition under which it may not be changed (`resolvingListBusy`,
`filterAcceptListBusy`, a pending create sync); the documentation of the first names a pending
create sync too, and its code does not.

Source: `le_controller.cc`
-/

namespace RootCanal.Gap

open Lib RootCanal.Hci

/-- The commands of the resolving list. -/
inductive ResolvingListCommand
  | leAddDeviceToResolvingList (peerIdentityAddressType : PeerAddressType)
      (peerIdentityAddress : Address) (peerIrk localIrk : Irk)
  | leRemoveDeviceFromResolvingList (peerIdentityAddressType : PeerAddressType)
      (peerIdentityAddress : Address)
  | leClearResolvingList
  | leSetAddressResolutionEnable (enable : Bool)
  | leSetPrivacyMode (peerIdentityAddressType : PeerAddressType) (peerIdentityAddress : Address)
      (privacyMode : PrivacyMode)
deriving DecidableEq, Repr

/-- The commands of the filter accept list. -/
inductive FilterAcceptListCommand
  | leClearFilterAcceptList
  | leAddDeviceToFilterAcceptList (addressType : FilterAcceptListAddressType) (address : Address)
  | leRemoveDeviceFromFilterAcceptList (addressType : FilterAcceptListAddressType)
      (address : Address)
deriving DecidableEq, Repr

/-- The commands of the periodic advertiser list. -/
inductive PeriodicAdvertiserListCommand
  | leAddDeviceToPeriodicAdvertiserList (train : Train)
  | leRemoveDeviceFromPeriodicAdvertiserList (train : Train)
  | leClearPeriodicAdvertiserList
deriving DecidableEq, Repr

/-- The entry is for an address. The address of anonymous advertisers does not count.
Source: `LeFilterAcceptListContainsDevice`,
`LeRemoveDeviceFromFilterAcceptList` -/
def FilterAcceptListEntry.isOf (e : FilterAcceptListEntry)
    (addressType : FilterAcceptListAddressType) (address : Address) : Bool :=
  e.addressType = addressType ∧ (addressType = .anonymousAdvertisers ∨ e.address = address)

/-- The list's type of an address. -/
def toFilterAcceptListAddressType : AddressType → FilterAcceptListAddressType
  | .publicDeviceAddress | .publicIdentityAddress => .publicAddress
  | .randomDeviceAddress | .randomIdentityAddress => .randomAddress

namespace LeController

/-! ## The resolving list -/

/-- The resolving list may not be changed now. -/
def resolvingListBusy (s : LeController) : Bool :=
  s.legacyAdvertiser.advertisingEnable ||
  s.extendedAdvertisers.any (fun _ advertiser => advertiser.advertisingEnable) ||
  s.scanner.scanEnable ||
  s.initiator.connectEnable

/-- LE Add Device To Resolving List. -/
def leAddDeviceToResolvingList (s : LeController) (peerIdentityAddressType : PeerAddressType)
    (peerIdentityAddress : Address) (peerIrk localIrk : Irk) : Except ErrorCode Privacy := do
  require (!(s.leResolvingListEnabled && s.resolvingListBusy)) .commandDisallowed
  require (s.leResolvingList.length < s.properties.leResolvingListSize.toNat)
    .memoryCapacityExceeded
  require (!s.leResolvingList.any fun e => e.isOf peerIdentityAddressType peerIdentityAddress ||
    e.peerIrk = peerIrk && !irkIsZero peerIrk) .invalidHciCommandParameters
  .ok { s.toPrivacy with leResolvingList := s.leResolvingList ++
    [{ peerIdentityAddressType, peerIdentityAddress, peerIrk, localIrk, privacyMode := .network }] }

/-- LE Remove Device From Resolving List. -/
def leRemoveDeviceFromResolvingList (s : LeController) (peerIdentityAddressType : PeerAddressType)
    (peerIdentityAddress : Address) : Except ErrorCode Privacy := do
  require (!(s.leResolvingListEnabled && s.resolvingListBusy)) .commandDisallowed
  require (s.leResolvingList.any (·.isOf peerIdentityAddressType peerIdentityAddress))
    .unknownConnection
  .ok { s.toPrivacy with leResolvingList :=
    s.leResolvingList.eraseP (·.isOf peerIdentityAddressType peerIdentityAddress) }

/-- LE Clear Resolving List. -/
def leClearResolvingList (s : LeController) : Except ErrorCode Privacy := do
  require (!(s.leResolvingListEnabled && s.resolvingListBusy)) .commandDisallowed
  .ok { s.toPrivacy with leResolvingList := [] }

/-- LE Set Address Resolution Enable. -/
def leSetAddressResolutionEnable (s : LeController) (enable : Bool) : Except ErrorCode Privacy := do
  require (!s.resolvingListBusy) .commandDisallowed
  .ok { s.toPrivacy with leResolvingListEnabled := enable }

/-- The first entry of a peer gets another privacy mode. -/
def setFirstPrivacyMode (type : PeerAddressType) (address : Address) (privacyMode : PrivacyMode) :
    List ResolvingListEntry → List ResolvingListEntry
  | [] => []
  | e :: es =>
    if e.isOf type address then { e with privacyMode } :: es
    else e :: setFirstPrivacyMode type address privacyMode es

/-- LE Set Privacy Mode. -/
def leSetPrivacyMode (s : LeController) (peerIdentityAddressType : PeerAddressType)
    (peerIdentityAddress : Address) (privacyMode : PrivacyMode) : Except ErrorCode Privacy := do
  require (!(s.leResolvingListEnabled && s.resolvingListBusy)) .commandDisallowed
  require (s.leResolvingList.any (·.isOf peerIdentityAddressType peerIdentityAddress))
    .unknownConnection
  let entries :=
    setFirstPrivacyMode peerIdentityAddressType peerIdentityAddress privacyMode s.leResolvingList
  .ok { s.toPrivacy with leResolvingList := entries }

/-- A command of the resolving list. -/
def resolvingList (s : LeController) : ResolvingListCommand → Except ErrorCode Privacy
  | .leAddDeviceToResolvingList type address peerIrk localIrk =>
    s.leAddDeviceToResolvingList type address peerIrk localIrk
  | .leRemoveDeviceFromResolvingList type address => s.leRemoveDeviceFromResolvingList type address
  | .leClearResolvingList => s.leClearResolvingList
  | .leSetAddressResolutionEnable enable => s.leSetAddressResolutionEnable enable
  | .leSetPrivacyMode type address privacyMode => s.leSetPrivacyMode type address privacyMode

/-! ## The filter accept list -/

/-- The filter accept list may not be changed now. -/
def filterAcceptListBusy (s : LeController) : Bool :=
  s.legacyAdvertiser.advertisingEnable &&
    s.legacyAdvertiser.advertisingFilterPolicy ≠ .allDevices ||
  s.extendedAdvertisers.any (fun _ advertiser =>
    advertiser.advertisingEnable && advertiser.advertisingFilterPolicy ≠ .allDevices) ||
  s.scanner.scanEnable && (s.scanner.scanFilterPolicy = .filterAcceptListOnly ||
    s.scanner.scanFilterPolicy = .filterAcceptListAndInitiatorsIdentity) ||
  s.initiator.connectEnable &&
    s.initiator.initiatorFilterPolicy = .useFilterAcceptListWithPeerAddress

/-- The device is in the filter accept list. -/
def leFilterAcceptListContainsDevice (s : LeController) (a : AddressWithType) : Bool :=
  s.leFilterAcceptList.any (·.isOf (toFilterAcceptListAddressType a.addressType) a.address)

/-- Source: `LeClearFilterAcceptList`,
`LeAddDeviceToFilterAcceptList`, `LeRemoveDeviceFromFilterAcceptList` -/
def filterAcceptList (s : LeController) :
    FilterAcceptListCommand → Except ErrorCode (List FilterAcceptListEntry)
  | .leClearFilterAcceptList => do
    require (!s.filterAcceptListBusy) .commandDisallowed
    .ok []
  | .leAddDeviceToFilterAcceptList addressType address => do
    require (!s.filterAcceptListBusy) .commandDisallowed
    require (s.leFilterAcceptList.length < s.properties.leFilterAcceptListSize.toNat)
      .memoryCapacityExceeded
    .ok (s.leFilterAcceptList ++ [{ addressType, address }])
  | .leRemoveDeviceFromFilterAcceptList addressType address => do
    require (!s.filterAcceptListBusy) .commandDisallowed
    -- an address that is not found is no error
    .ok (s.leFilterAcceptList.eraseP (·.isOf addressType address))

/-! ## The periodic advertiser list -/

/-- Source: `LeAddDeviceToPeriodicAdvertiserList`,
`LeRemoveDeviceFromPeriodicAdvertiserList`,
`LeClearPeriodicAdvertiserList` -/
def periodicAdvertiserList (s : LeController) :
    PeriodicAdvertiserListCommand → Except ErrorCode (List Train)
  | .leAddDeviceToPeriodicAdvertiserList train => do
    require s.synchronizing.isNone .commandDisallowed
    require (s.lePeriodicAdvertiserList.length < s.properties.lePeriodicAdvertiserListSize.toNat)
      .memoryCapacityExceeded
    require (train ∉ s.lePeriodicAdvertiserList) .invalidHciCommandParameters
    .ok (s.lePeriodicAdvertiserList ++ [train])
  | .leRemoveDeviceFromPeriodicAdvertiserList train => do
    require s.synchronizing.isNone .commandDisallowed
    require (train ∈ s.lePeriodicAdvertiserList) .unknownAdvertisingIdentifier
    .ok (s.lePeriodicAdvertiserList.erase train)
  | .leClearPeriodicAdvertiserList => do
    require s.synchronizing.isNone .commandDisallowed
    .ok []

/-! ## The random address -/

/-- LE Set Random Address. -/
def leSetRandomAddress (s : LeController) (randomAddress : Address) : Except ErrorCode Address := do
  require (!(s.legacyAdvertiser.advertisingEnable || s.scanner.scanEnable ||
    s.initiator.connectEnable)) .commandDisallowed
  require (randomAddress ≠ Address.kEmpty) .invalidHciCommandParameters
  .ok randomAddress

end LeController

end RootCanal.Gap
