import RootCanal.Lib.Index
import RootCanal.Packets.LinkLayer
import RootCanal.Packets.Hci

/-!
# Resolvable private addresses

A resolvable private address is a random part and a hash of it under a key.  The resolving list has
two keys for each peer: the addresses of the peer resolve by its own key (`resolvePrivateAddress`),
those the controller uses with the peer are generated from the local one
(`generateResolvablePrivateAddress`).

AES is an argument, any function, and so is what the random generator returns.  The resolvable
addresses that were last used are left out with the two commands that read them back, so that
neither function changes the list.

Source: `le_controller.cc`, `hci/address_with_type.h`
-/

namespace RootCanal.Gap

open Lib RootCanal.Hci

/-! ## Addresses -/

/-- The types of an address. -/
inductive AddressType
  | publicDeviceAddress
  | randomDeviceAddress
  | publicIdentityAddress
  | randomIdentityAddress
deriving DecidableEq, Repr

/-- An address with its type. -/
structure AddressWithType where
  address : Address
  addressType : AddressType
deriving DecidableEq, Repr

/-- Source: `AddressWithType::AddressWithType` -/
def AddressWithType.empty : AddressWithType := ⟨Address.kEmpty, .publicDeviceAddress⟩

/-- The address is a resolvable private address: the first two bits of its last octet are `01`. -/
def AddressWithType.isRpa (a : AddressWithType) : Bool :=
  a.addressType = .randomDeviceAddress ∧ a.address.extractLsb' 46 2 = 1

/-- The type of a peer's identity address. -/
inductive PeerAddressType
  | publicDeviceOrIdentityAddress
  | randomDeviceOrIdentityAddress
deriving DecidableEq, Repr

/-- The identity address of a peer. -/
def peerDeviceAddress (address : Address) : PeerAddressType → AddressWithType
  | .publicDeviceOrIdentityAddress => ⟨address, .publicDeviceAddress⟩
  | .randomDeviceOrIdentityAddress => ⟨address, .randomDeviceAddress⟩

/-- Which own address is used. -/
inductive OwnAddressType
  | publicDeviceAddress
  | randomDeviceAddress
  | resolvableOrPublicAddress
  | resolvableOrRandomAddress
deriving DecidableEq, Repr

/-- Which key of an entry of the resolving list an address is generated from. -/
inductive IrkSelection
  | peer
  | loc
deriving DecidableEq, Repr

/-! ## Keys -/

/-- An identity resolving key.
Source: `le_controller.h` `kIrkSize` -/
abbrev Irk := BitVec 128

/-- There is no key. -/
def irkIsZero (irk : Irk) : Bool := irk = 0

/-- The first three octets of the AES-128 encryption of three octets, padded, under a key.
Source: `crypto/crypto.h` `aes_128` -/
abbrev Aes := Irk → BitVec 24 → BitVec 24

/-- What `std::rand` returns when an address is generated: three octets, and one more value that is
used should they be all zeros or all ones. -/
structure Rand where
  octet0 : BitVec 8
  octet1 : BitVec 8
  octet2 : BitVec 8
  again : Nat
deriving DecidableEq, Repr

/-- The random part of an address. -/
def Rand.prand (r : Rand) : BitVec 24 :=
  let octet2 := r.octet2 &&& 0x3f
  let octet0 :=
    if (r.octet0 = 0x00 ∧ r.octet1 = 0x00 ∧ octet2 = 0x00) ∨
      (r.octet0 = 0xff ∧ r.octet1 = 0xff ∧ octet2 = 0x3f) then BitVec.ofNat 8 (r.again % 0xfe + 1)
    else r.octet0
  (octet2 ||| 0x40) ++ r.octet1 ++ octet0

/-- A resolvable private address of the key. -/
def generateRpa (aes : Aes) (irk : Irk) (r : Rand) : Address := r.prand ++ aes irk r.prand

/-- The address is a private address of the key. -/
def isRpaThatMatchesIrk (aes : Aes) (a : AddressWithType) (irk : Irk) : Bool :=
  a.isRpa && aes irk (a.address.extractLsb' 24 24) = a.address.extractLsb' 0 24

/-! ## The resolving list -/

/-- Whether the peer's identity address is taken too. -/
inductive PrivacyMode
  | network
  | device
deriving DecidableEq, Repr

/-- An entry of the resolving list. -/
structure ResolvingListEntry where
  peerIdentityAddressType : PeerAddressType
  peerIdentityAddress : Address
  peerIrk : Irk
  localIrk : Irk
  privacyMode : PrivacyMode
deriving DecidableEq, Repr

/-- The entry is the one of a peer. -/
def ResolvingListEntry.isOf (e : ResolvingListEntry) (type : PeerAddressType) (address : Address) :
    Bool :=
  e.peerIdentityAddressType = type ∧ e.peerIdentityAddress = address

/-- The key that is selected. -/
def ResolvingListEntry.irk (e : ResolvingListEntry) : IrkSelection → Irk
  | .loc => e.localIrk
  | .peer => e.peerIrk

/-- The identity type of an address. -/
def toPeerAddressType : AddressType → PeerAddressType
  | .publicDeviceAddress | .publicIdentityAddress => .publicDeviceOrIdentityAddress
  | .randomDeviceAddress | .randomIdentityAddress => .randomDeviceOrIdentityAddress

/-- The resolving list, and whether addresses are resolved.
Source: `le_controller.h` `le_resolving_list_`, `le_resolving_list_enabled_` -/
structure Privacy where
  leResolvingList : List ResolvingListEntry := []
  leResolvingListEnabled : Bool := false
deriving DecidableEq, Repr

namespace Privacy

/-- The entry of the resolving list that an address resolves to, the first whose peer key it
matches. -/
def resolvingEntry (p : Privacy) (aes : Aes) (address : AddressWithType) :
    Option ResolvingListEntry :=
  if p.leResolvingListEnabled then
    p.leResolvingList.find? fun e => isRpaThatMatchesIrk aes address e.peerIrk
  else none

/-- The address, or the identity of a private one. -/
def resolvePrivateAddress (p : Privacy) (aes : Aes) (address : AddressWithType) :
    Option AddressWithType :=
  if !address.isRpa then some address
  else (p.resolvingEntry aes address).map fun e =>
    peerDeviceAddress e.peerIdentityAddress e.peerIdentityAddressType

/-- The address, resolved if it can be. -/
def resolved (p : Privacy) (aes : Aes) (address : AddressWithType) : AddressWithType :=
  (p.resolvePrivateAddress aes address).getD address

/-- The target is a private address made for this advertiser. -/
def resolveTargetA (p : Privacy) (aes : Aes) (targetA advA : AddressWithType) : Bool :=
  p.leResolvingListEnabled && p.leResolvingList.any fun e =>
    advA = peerDeviceAddress e.peerIdentityAddress e.peerIdentityAddressType &&
      isRpaThatMatchesIrk aes targetA e.localIrk

/-- The entry of the resolving list that an address is generated for, the first of the peer. -/
def generatingEntry (p : Privacy) (address : AddressWithType) : Option ResolvingListEntry :=
  p.leResolvingList.find? (·.isOf (toPeerAddressType address.addressType) address.address)

/-- Addresses are generated whether or not they are resolved. -/
def generateResolvablePrivateAddress (p : Privacy) (aes : Aes) (address : AddressWithType)
    (irk : IrkSelection) (r : Rand) : Option AddressWithType :=
  (p.generatingEntry address).map fun e => ⟨generateRpa aes (e.irk irk) r, .randomDeviceAddress⟩

end Privacy

end RootCanal.Gap
