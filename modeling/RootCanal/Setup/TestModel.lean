import RootCanal.Lib.Index
import RootCanal.Packets.LinkLayer

/-!
# The addresses of the test model

A device that connects over HCI is given the first address with the configured prefix that no device
of the model uses.  The counter of the search has sixteen bits and the condition of the loop is `b0
<= 0xffff`, which always holds: the only way out is an unused address.

* `generates_unused_iff`: with address reuse the generation **returns, with an unused address
  whenever there is one, exactly if there is one**.
* `addHciConnection_returns_iff`: this is so even for a client that brings an address of its own.
* `Reachable.addresses_unique`: as long as no client does, no two devices have the same address.

Source: `model/setup/test_model.cc`
-/

namespace RootCanal.Setup

open Lib

/-- What the generation of addresses reads: `phyDevices` has the address of each device. -/
structure TestModel where
  phyDevices : HashMap UInt32 Address := ∅
  reuseDeviceAddresses : Bool := true
  bluetoothAddressPrefix : Vector UInt8 4 := #v[0xda, 0x4c, 0x10, 0xde]

namespace TestModel

/-- The address with the configured prefix and the octets of `low`, which are octets 0 and 1 of an
address. -/
def addressOf (m : TestModel) (low : UInt16) : Address :=
  m.bluetoothAddressPrefix[0].toBitVec ++ m.bluetoothAddressPrefix[1].toBitVec ++
    m.bluetoothAddressPrefix[2].toBitVec ++ m.bluetoothAddressPrefix[3].toBitVec ++ low.toBitVec

/-- Some device has the address. -/
def used (m : TestModel) (address : Address) : Bool :=
  HashMap.any m.phyDevices fun _ a => a == address

/-- The loop over `b0`, for at most `fuel` passes. -/
def findUnused (m : TestModel) : Nat → UInt16 → Address → Option Address
  | 0, _, _ => none
  | fuel + 1, b0, address =>
    if b0 ≤ 0xffff then
      let address := m.addressOf b0
      if m.used address then m.findUnused fuel (b0 + 1) address else some address
    else some address

/-- The address of the device, or with reuse the first unused one. -/
def generateBluetoothAddress (m : TestModel) (fuel : Nat) (deviceId : UInt32) : Option Address :=
  let address := m.addressOf deviceId.toUInt16
  if m.reuseDeviceAddresses then m.findUnused fuel 0 address else some address

/-- The argument of `value_or` is evaluated for a client with an address as well. -/
def addHciConnection (m : TestModel) (fuel : Nat) (deviceId : UInt32) (address : Option Address) :
    Option TestModel := do
  let generated ← m.generateBluetoothAddress fuel deviceId
  return { m with phyDevices := m.phyDevices.insert deviceId (address.getD generated) }

/-- The device is removed. -/
def removeDevice (m : TestModel) (deviceId : UInt32) : TestModel :=
  { m with phyDevices := m.phyDevices.erase deviceId }

/-- An address with the configured prefix is free. -/
def HasUnused (m : TestModel) : Prop := ∃ low, m.used (m.addressOf low) = false

variable {m m' : TestModel} {fuel : Nat} {b0 low : UInt16} {address a : Address} {deviceId : UInt32}

theorem used_eq_false : m.used a = false ↔ m.phyDevices.findBy id a = none := by
  rw [used, HashMap.any_eq_false, HashMap.findBy_eq_none]
  simp only [beq_eq_false_iff_ne, id_eq]

/-- A pass of the loop: its condition holds for every counter of sixteen bits. -/
theorem findUnused_succ : m.findUnused (fuel + 1) b0 address =
    if m.used (m.addressOf b0) then m.findUnused fuel (b0 + 1) (m.addressOf b0) else some
      (m.addressOf b0) := by
  have hcond : b0 ≤ 0xffff := Nat.le_of_lt_succ b0.toNat_lt
  rw [findUnused, if_pos hcond]

/-- The search returns nothing but an unused address with the prefix. -/
theorem findUnused_eq_some (h : m.findUnused fuel b0 address = some a) :
    ∃ low, a = m.addressOf low ∧ m.used a = false := by
  induction fuel generalizing b0 address with
  | zero => cases h
  | succ fuel ih =>
    rw [findUnused_succ] at h
    split at h
    · exact ih h
    · rename_i hfree
      cases h
      exact ⟨b0, rfl, Bool.eq_false_of_not_eq_true hfree⟩

/-- The search returns if an address is free from the counter on. -/
theorem findUnused_returns (hfree : m.used (m.addressOf low) = false) {n : Nat}
    (hn : b0.toNat + n = low.toNat) : ∃ fuel a, m.findUnused fuel b0 address = some a := by
  -- on the distance from the counter to the free address, reached before it comes back to 0
  induction n generalizing b0 address with
  | zero =>
    obtain rfl := UInt16.toNat_inj.mp hn
    refine ⟨1, m.addressOf b0, ?_⟩
    rw [findUnused_succ, hfree]
    rfl
  | succ n ih =>
    by_cases hused : m.used (m.addressOf b0) = true
    · have hnext : (b0 + 1).toNat + n = low.toNat := by
        have := low.toNat_lt
        rw [UInt16.toNat_add]
        change (b0.toNat + 1) % 2 ^ 16 + n = low.toNat
        omega
      obtain ⟨fuel, a, h⟩ := ih hnext
      refine ⟨fuel + 1, a, ?_⟩
      rw [findUnused_succ, if_pos hused]
      exact h
    · refine ⟨1, m.addressOf b0, ?_⟩
      rw [findUnused_succ, if_neg hused]

theorem addHciConnection_eq_some {address : Option Address} :
    m.addHciConnection fuel deviceId address = some m' ↔
    ∃ a, m.generateBluetoothAddress fuel deviceId = some a ∧
      { m with phyDevices := m.phyDevices.insert deviceId (address.getD a) } = m' := by
  simp [addHciConnection, Option.bind_eq_some_iff]

section reuse

variable (hreuse : m.reuseDeviceAddresses = true)

include hreuse

/-- What is generated is an unused address with the prefix. -/
theorem unused_of_generates (h : m.generateBluetoothAddress fuel deviceId = some a) :
    ∃ low, a = m.addressOf low ∧ m.used a = false := by
  unfold generateBluetoothAddress at h
  rw [if_pos hreuse] at h
  exact findUnused_eq_some h

theorem generateBluetoothAddress_returns_iff :
    (∃ fuel a, m.generateBluetoothAddress fuel deviceId = some a) ↔ m.HasUnused := by
  constructor
  · rintro ⟨fuel, a, h⟩
    obtain ⟨low, rfl, hfree⟩ := unused_of_generates hreuse h
    exact ⟨low, hfree⟩
  · rintro ⟨low, hfree⟩
    unfold generateBluetoothAddress
    simp only [if_pos hreuse]
    exact findUnused_returns hfree (Nat.zero_add _)

/-- **The generation returns, with an unused address whenever there is one, exactly if there is
one.** -/
theorem generates_unused_iff (deviceId : UInt32) :
    (∃ fuel a, m.generateBluetoothAddress fuel deviceId = some a ∧
      (m.HasUnused → m.used a = false)) ↔
      m.HasUnused := by
  rw [← generateBluetoothAddress_returns_iff hreuse]
  constructor
  · rintro ⟨fuel, a, h, -⟩
    exact ⟨fuel, a, h⟩
  · rintro ⟨fuel, a, h⟩
    obtain ⟨-, -, hfree⟩ := unused_of_generates hreuse h
    exact ⟨fuel, a, h, fun _ => hfree⟩

/-- A client that brings an address waits for the generation of another one. -/
theorem addHciConnection_returns_iff (address : Option Address) :
    (∃ fuel m', m.addHciConnection fuel deviceId address = some m') ↔ m.HasUnused := by
  rw [← generateBluetoothAddress_returns_iff hreuse]
  constructor
  · rintro ⟨fuel, m', h⟩
    obtain ⟨a, hgen, -⟩ := addHciConnection_eq_some.mp h
    exact ⟨fuel, a, hgen⟩
  · rintro ⟨fuel, a, hgen⟩
    exact ⟨fuel, _, addHciConnection_eq_some.mpr ⟨a, hgen, rfl⟩⟩

end reuse

/-! ## Every address is used -/

/-- Devices 0 to `n - 1`, with the first addresses of the prefix. -/
def occupied (m : TestModel) : Nat → HashMap UInt32 Address
  | 0 => ∅
  | n + 1 => (m.occupied n).insert (.ofNat n) (m.addressOf (.ofNat n))

theorem occupied_lookup {n k : Nat} (hk : k < n) (hn : n ≤ 2 ^ 16) :
    (m.occupied n)[UInt32.ofNat k]? = some (m.addressOf (.ofNat k)) := by
  induction n with
  | zero => omega
  | succ n ih =>
    rw [occupied, HashMap.getElem?_insert']
    by_cases h : k = n
    · rw [h, if_pos rfl]
    · have hne : UInt32.ofNat n ≠ UInt32.ofNat k := by
        rw [Ne, ← UInt32.toNat_inj, UInt32.toNat_ofNat', UInt32.toNat_ofNat']
        omega
      rw [if_neg hne, ih (by omega) (by omega)]

/-- The model with these devices. -/
def crowded (m : TestModel) (n : Nat) : TestModel := { m with phyDevices := m.occupied n }

/-- Three devices have the first three addresses, and a fourth is generated for the next. -/
theorem generates_unused_iff_three :
    ∃ fuel a, (crowded {} 3).generateBluetoothAddress fuel 2 = some a ∧
    (HasUnused (crowded {} 3) → used (crowded {} 3) a = false) :=
  (generates_unused_iff rfl 2).mpr ⟨3, by decide +kernel⟩

theorem addHciConnection_returns_own :
    ∃ fuel m', addHciConnection (crowded {} 3) fuel 2 (some 5) = some m' :=
  (addHciConnection_returns_iff rfl _).mpr ⟨3, by decide +kernel⟩

theorem crowded_hasNoUnused {n : Nat} (hn : n = 2 ^ 16) : ¬ (m.crowded n).HasUnused := by
  rintro ⟨low, hfree⟩
  have hlow := occupied_lookup (m := m) (low.toNat_lt.trans_eq hn.symm) hn.le
  rw [UInt16.ofNat_toNat] at hlow
  exact HashMap.findBy_eq_none.mp (used_eq_false.mp hfree) _ _ hlow rfl

/-- **The generation does not return when every address of the prefix is used.** -/
theorem crowded_generates_none : (crowded {} (2 ^ 16)).reuseDeviceAddresses = true ∧
    ∀ fuel, (crowded {} (2 ^ 16)).generateBluetoothAddress fuel 0x10000 = none := by
  refine ⟨rfl, fun fuel => Option.eq_none_iff_forall_ne_some.mpr ?_⟩
  intro a h
  exact crowded_hasNoUnused rfl ((generateBluetoothAddress_returns_iff rfl).mp ⟨fuel, a, h⟩)

/-! ## The addresses along a run -/

/-- What is reached from a model without devices by clients that connect without an address, and
disconnect. -/
inductive Reachable : TestModel → Prop
  | empty {m : TestModel} : m.phyDevices = ∅ → m.reuseDeviceAddresses = true → Reachable m
  | connect {m m' : TestModel} {fuel : Nat} {deviceId : UInt32} :
    Reachable m → m.addHciConnection fuel deviceId none = some m' → Reachable m'
  | remove {m : TestModel} {deviceId : UInt32} : Reachable m → Reachable (m.removeDevice deviceId)

/-- **No two devices have the same address as long as no client brings one.** -/
theorem Reachable.addresses_unique (h : Reachable m) :
    m.reuseDeviceAddresses = true ∧ m.phyDevices.UniqueBy id := by
  induction h with
  | empty hnone hreuse =>
    rw [hnone]
    exact ⟨hreuse, HashMap.uniqueBy_empty⟩
  | connect _ hconn ih =>
    obtain ⟨hreuse, huniq⟩ := ih
    obtain ⟨a, hgen, rfl⟩ := addHciConnection_eq_some.mp hconn
    obtain ⟨-, -, hfree⟩ := unused_of_generates hreuse hgen
    exact ⟨hreuse, huniq.insert (used_eq_false.mp hfree)⟩
  | remove _ ih => exact ⟨ih.1, ih.2.erase⟩

theorem addresses_unique_two : ∃ m m' : TestModel, addHciConnection {} 1 7 none = some m ∧
    m.addHciConnection 2 8 none = some m' ∧ m'.phyDevices.size = 2 ∧ m'.phyDevices.UniqueBy id := by
  refine ⟨_, _, rfl, rfl, rfl, ?_⟩
  have hone : Reachable _ := .connect (.empty rfl rfl) (rfl : addHciConnection {} 1 7 none = some _)
  exact (Reachable.addresses_unique (.connect hone (rfl : addHciConnection _ 2 8 none = some _))).2

end TestModel

end RootCanal.Setup
