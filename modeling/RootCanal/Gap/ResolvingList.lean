import RootCanal.Gap.Effects

/-!
# What the resolving list promises

**`generated_address_resolves`: an address that a peer generates from its key is resolvable, has a
random part that is neither all zeros nor all ones, and resolves to the entry that has the key**,
whatever the generator of random numbers and the cipher return, unless the key of another entry
happens to match it as well.

Two things are said of the resolving list and hold only in part.

* A key of all zeros means that the peer, or the controller, has no key: its identity address is to
  be used. `irkIsZero` is asked when a device is added and nowhere else, so that such a key is used
  like any other (`zero_irk_target`).  **`zero_irk_unused_iff`: a list treats zeros as no key for an
  address exactly when the entry of the address has a key, and no entry without one comes first
  among those the address matches.**
* The list may not change while it is in use.  The guard of its commands forgets a create sync that
  is pending (`changed_while_synchronizing`).  **`resolving_list_kept_iff`: a step keeps the list of
  a controller that uses it exactly when it is no command that would change the list while only a
  create sync is pending.**

Source: `le_controller.cc`, `le_advertiser.cc`
-/

namespace RootCanal.Gap

open Lib RootCanal.Hci

/-! ## Addresses that are generated -/

/-- The bits of an address that are random. The two above them mark it as resolvable. -/
def randomPart (address : Address) : BitVec 22 := address.extractLsb' 24 22

/-- The octets of the random part. The generator is asked again if they would be all zeros or all
ones, and the octet it then gives is neither. -/
theorem Rand.prand_eq (r : Rand) :
    ∃ octet0 : BitVec 8, r.prand = (r.octet2 &&& 0x3f ||| 0x40) ++ r.octet1 ++ octet0 ∧
    ¬ (octet0 = 0x00 ∧ r.octet1 = 0x00 ∧ r.octet2 &&& 0x3f = 0x00) ∧
    ¬ (octet0 = 0xff ∧ r.octet1 = 0xff ∧ r.octet2 &&& 0x3f = 0x3f) := by
  refine ⟨_, rfl, ?_⟩
  split
  · constructor
    · rintro ⟨hzero, -⟩
      exact absurd (congrArg BitVec.toNat hzero) (by simp; omega)
    · rintro ⟨hones, -⟩
      exact absurd (congrArg BitVec.toNat hones) (by simp; omega)
  · rename_i hmixed
    exact not_or.mp hmixed

theorem toNat_append_eq {m n : Nat} (x : BitVec m) (y : BitVec n) :
    (x ++ y).toNat = x.toNat * 2 ^ n + y.toNat := by
  rw [BitVec.toNat_append, ← Nat.shiftLeft_add_eq_or_of_lt y.isLt, Nat.shiftLeft_eq]

section Generated

variable (aes : Aes) (irk : Irk) (r : Rand)

/-- The address as a number: the mark, the three octets of the random part, the hash. -/
theorem toNat_generateRpa {octet0 : BitVec 8}
    (hprand : r.prand = (r.octet2 &&& 0x3f ||| 0x40) ++ r.octet1 ++ octet0) :
    (generateRpa aes irk r).toNat = (64 + (r.octet2 &&& 0x3f).toNat) * 2 ^ 40 +
      r.octet1.toNat * 2 ^ 32 +
      octet0.toNat * 2 ^ 24 + (aes irk r.prand).toNat := by
  have hmask : ∀ o : BitVec 8, (o &&& 0x3f ||| 0x40).toNat = 64 + (o &&& 0x3f).toNat := by decide
  unfold generateRpa
  rw [toNat_append_eq, hprand, toNat_append_eq, toNat_append_eq, hmask]
  omega

theorem toNat_octet2_lt : (r.octet2 &&& 0x3f).toNat < 64 := by
  generalize r.octet2 = o
  revert o
  decide

theorem isRpa_generateRpa :
    AddressWithType.isRpa ⟨generateRpa aes irk r, .randomDeviceAddress⟩ := by
  obtain ⟨octet0, hprand, -, -⟩ := r.prand_eq
  have hmark : (generateRpa aes irk r).extractLsb' 46 2 = 1 := by
    apply BitVec.eq_of_toNat_eq
    rw [BitVec.extractLsb'_toNat, Nat.shiftRight_eq_div_pow, toNat_generateRpa aes irk r hprand]
    have := toNat_octet2_lt r
    change _ = 1
    omega
  simp [AddressWithType.isRpa, hmark]

theorem randomPart_generateRpa :
    randomPart (generateRpa aes irk r) ≠ 0 ∧
      randomPart (generateRpa aes irk r) ≠ BitVec.allOnes 22 := by
  obtain ⟨octet0, hprand, hzeros, hones⟩ := r.prand_eq
  have hrnd : (randomPart (generateRpa aes irk r)).toNat =
      (r.octet2 &&& 0x3f).toNat * 2 ^ 16 + r.octet1.toNat * 2 ^ 8 + octet0.toNat := by
    unfold randomPart
    rw [BitVec.extractLsb'_toNat, Nat.shiftRight_eq_div_pow, toNat_generateRpa aes irk r hprand]
    have := toNat_octet2_lt r
    omega
  simp only [← BitVec.toNat_inj] at hzeros hones
  rw [ne_eq, ne_eq, ← BitVec.toNat_inj, ← BitVec.toNat_inj, hrnd]
  constructor
  · intro h
    refine hzeros ⟨?_, ?_, ?_⟩ <;> simp at h ⊢ <;> omega
  · intro h
    refine hones ⟨?_, ?_, ?_⟩ <;> simp at h ⊢ <;> omega

/-- The hash that is computed again is the one in the address. -/
theorem matches_generateRpa :
    isRpaThatMatchesIrk aes ⟨generateRpa aes irk r, .randomDeviceAddress⟩ irk := by
  have hprand : (generateRpa aes irk r).extractLsb' 24 24 = r.prand := by
    unfold generateRpa
    rw [BitVec.extractLsb'_append_eq_of_le (by decide)]
    simp
  have hhash : (generateRpa aes irk r).extractLsb' 0 24 = aes irk r.prand := by
    unfold generateRpa
    rw [BitVec.extractLsb'_append_eq_of_add_le (by decide)]
    simp
  simp only [isRpaThatMatchesIrk, isRpa_generateRpa aes irk r, hprand, hhash, decide_true,
    Bool.and_self]

/-- **A generated address resolves by its key**, to the entry that has the key when no other entry
matches. -/
theorem generated_address_resolves :
    AddressWithType.isRpa ⟨generateRpa aes irk r, .randomDeviceAddress⟩ ∧
    randomPart (generateRpa aes irk r) ≠ 0 ∧
      randomPart (generateRpa aes irk r) ≠ BitVec.allOnes 22 ∧
    isRpaThatMatchesIrk aes ⟨generateRpa aes irk r, .randomDeviceAddress⟩ irk ∧
    ∀ (p : Privacy) (e : ResolvingListEntry), p.leResolvingListEnabled → e ∈ p.leResolvingList →
      e.peerIrk = irk → (∀ other ∈ p.leResolvingList, other ≠ e →
        ¬ isRpaThatMatchesIrk aes ⟨generateRpa aes irk r, .randomDeviceAddress⟩ other.peerIrk) →
      p.resolvingEntry aes ⟨generateRpa aes irk r, .randomDeviceAddress⟩ = some e ∧
      p.resolvePrivateAddress aes ⟨generateRpa aes irk r, .randomDeviceAddress⟩ =
        some (peerDeviceAddress e.peerIdentityAddress e.peerIdentityAddressType) := by
  have hrpa := isRpa_generateRpa aes irk r
  have hmat := matches_generateRpa aes irk r
  refine ⟨hrpa, (randomPart_generateRpa aes irk r).1,
    (randomPart_generateRpa aes irk r).2, hmat, ?_⟩
  intro p e hen hmem hirk hoth
  have hent : p.resolvingEntry aes ⟨generateRpa aes irk r, .randomDeviceAddress⟩ = some e := by
    unfold Privacy.resolvingEntry
    rw [if_pos hen]
    subst hirk
    generalize hfind : p.leResolvingList.find? _ = found
    cases found with
    | none => exact absurd hmat (List.find?_eq_none.mp hfind e hmem)
    | some found =>
      have hfd := List.find?_some hfind
      by_contra hne
      exact hoth found (List.mem_of_find?_eq_some hfind) (fun h => hne (h ▸ rfl)) hfd
  refine ⟨hent, ?_⟩
  unfold Privacy.resolvePrivateAddress
  rw [hrpa, hent]
  rfl

end Generated

/-- The second of two peers, with a function in place of AES that tells their keys apart. -/
theorem generated_address_resolves_second :
    let aes : Aes := fun irk prand => irk.extractLsb' 0 24 ^^^ prand
    let first : ResolvingListEntry := ⟨.publicDeviceOrIdentityAddress, 1, 7, 9, .network⟩
    let second : ResolvingListEntry := ⟨.randomDeviceOrIdentityAddress, 2, 8, 9, .network⟩
    Privacy.resolvePrivateAddress ⟨[first, second], true⟩ aes
      ⟨generateRpa aes 8 ⟨0, 0, 0xc0, 253⟩, .randomDeviceAddress⟩ =
        some (peerDeviceAddress 2 .randomDeviceOrIdentityAddress) := by
  intro aes first second
  exact ((generated_address_resolves aes 8 ⟨0, 0, 0xc0, 253⟩).2.2.2.2
    ⟨[first, second], true⟩ second rfl (by decide) rfl (by decide)).2

/-! ## Keys of all zeros -/

namespace Privacy

/-- No address is generated from a key of all zeros, and none resolves to a peer that has such a
key. -/
structure TreatsZeroAsNoKey (p : Privacy) (aes : Aes) (address : AddressWithType)
    (selection : IrkSelection) (r : Rand) : Prop where
  generates : ∀ e, p.generatingEntry address = some e → irkIsZero (e.irk selection) →
    p.generateResolvablePrivateAddress aes address selection r = none
  resolves : ∀ e, p.resolvingEntry aes address = some e → irkIsZero e.peerIrk = false

/-- The entry of the address has the key that is selected. An address that would match zeros as a
key matches the key of a peer that stands before every peer without one. -/
structure HasKeys (p : Privacy) (aes : Aes) (address : AddressWithType) (selection : IrkSelection) :
    Prop where
  generates : ∀ e, p.generatingEntry address = some e → irkIsZero (e.irk selection) = false
  resolves : p.leResolvingListEnabled → isRpaThatMatchesIrk aes address 0 →
    p.leResolvingList.any (irkIsZero ·.peerIrk) →
    (p.leResolvingList.takeWhile (!irkIsZero ·.peerIrk)).any
    (isRpaThatMatchesIrk aes address ·.peerIrk)

/-- The first entry that satisfies `m` is none of those that satisfy `z`, on which `m` is always
`b`. -/
theorem find?_avoids_iff {α : Type} {m z} {b : Bool} (hz : ∀ e, z e → m e = b) (l : List α) :
    (∀ e, l.find? m = some e → z e = false) ↔ (b → l.any z → (l.takeWhile (!z ·)).any m) := by
  cases b with
  | false =>
    constructor
    · intro _ hb
      cases hb
    · intro _ e he
      by_contra hze
      have hm := List.find?_some he
      rw [hz e (by simpa using hze)] at hm
      cases hm
  | true =>
    induction l with
    | nil => simp
    | cons a _ ih =>
      by_cases hza : z a
      · -- `a` satisfies `m` too, and is found
        have hma := hz a hza
        simp [hza, hma]
      · by_cases hma : m a
        · simp [hza, hma]
        · simpa [hza, hma] using ih

theorem resolves_iff {p : Privacy} {aes : Aes} {address : AddressWithType} :
    (∀ e, p.resolvingEntry aes address = some e → irkIsZero e.peerIrk = false) ↔
    (p.leResolvingListEnabled → isRpaThatMatchesIrk aes address 0 →
      p.leResolvingList.any (irkIsZero ·.peerIrk) →
      (p.leResolvingList.takeWhile (!irkIsZero ·.peerIrk)).any
        (isRpaThatMatchesIrk aes address ·.peerIrk)) := by
  have hzero : ∀ e : ResolvingListEntry, irkIsZero e.peerIrk →
      isRpaThatMatchesIrk aes address e.peerIrk = isRpaThatMatchesIrk aes address 0 := by
    intro e he
    rw [of_decide_eq_true he]
  unfold resolvingEntry
  by_cases hen : p.leResolvingListEnabled
  · simpa [hen] using find?_avoids_iff hzero p.leResolvingList
  · simp [hen]

/-- An address is generated for every entry. -/
theorem generateResolvablePrivateAddress_eq_none {p : Privacy} {aes : Aes}
    {address : AddressWithType}
    {selection : IrkSelection} {r : Rand} :
    p.generateResolvablePrivateAddress aes address selection r = none ↔
      p.generatingEntry address = none :=
  Option.map_eq_none_iff

/-- **When the resolving list treats a key of all zeros as no key.** -/
theorem zero_irk_unused_iff (p : Privacy) (aes : Aes) (address : AddressWithType)
    (selection : IrkSelection) (r : Rand) :
    p.TreatsZeroAsNoKey aes address selection r ↔ p.HasKeys aes address selection := by
  constructor
  · rintro ⟨hgenerates, hrsv⟩
    refine ⟨fun e he => ?_, resolves_iff.mp hrsv⟩
    by_contra hzero
    have hn := hgenerates e he (by simpa using hzero)
    rw [generateResolvablePrivateAddress_eq_none, he] at hn
    cases hn
  · rintro ⟨hgenerates, hrsv⟩
    refine ⟨fun e he hzero => ?_, resolves_iff.mpr hrsv⟩
    rw [hgenerates e he] at hzero
    cases hzero

end Privacy

namespace LeController

/-- The host adds a peer without a key and advertises to it. -/
def advertisesToKeyless : List Input :=
  [.host (.resolvingList (.leAddDeviceToResolvingList .publicDeviceOrIdentityAddress 7 0 5)),
    .host
      (.legacyAdvertising
      (.leSetAdvertisingParameters 0x20 0x20 .advDirectIndLow .publicDeviceAddress
      .publicDeviceOrIdentityAddress 7 7 .allDevices)),
    .host (.legacyAdvertising (.leSetAdvertisingEnable true))]

/-- The target of directed advertising to a peer that has no key is not its identity address, but an
address that is generated from zeros. -/
theorem zero_irk_target : ∃ tr s, machine.Run (fun _ _ => True) (new 1 {}) tr s ∧
    s.legacyAdvertiser.advertisingEnable = true ∧
    s.legacyAdvertiser.targetAddress = ⟨generateRpa (Env.at 0).aes 0 ((Env.at 0).rand 1),
      .randomDeviceAddress⟩ ∧
    ¬ s.toPrivacy.TreatsZeroAsNoKey (Env.at 0).aes ⟨7, .publicDeviceAddress⟩ .peer
      ((Env.at 0).rand 1) := by
  have hx : machine.ExecTo (fun _ s => s.legacyAdvertiser.advertisingEnable = true ∧
      s.legacyAdvertiser.targetAddress = ⟨generateRpa (Env.at 0).aes 0 ((Env.at 0).rand 1),
        .randomDeviceAddress⟩ ∧
      s.generatingEntry ⟨7, .publicDeviceAddress⟩ =
        some ⟨.publicDeviceOrIdentityAddress, 7, 0, 5, .network⟩)
      (new 1 {}) advertisesToKeyless := by
    decide +kernel
  obtain ⟨tr, s, hrun, hena, htgt, hent⟩ := machine.exists_free_run hx
  refine ⟨tr, s, hrun, hena, htgt, fun hzero => ?_⟩
  have hn := hzero.generates _ hent (by decide)
  rw [Privacy.generateResolvablePrivateAddress_eq_none, hent] at hn
  cases hn

/-! ## The list while it is in use -/

/-- Advertising or scanning is enabled, or a create connection or a create sync is pending.
Source: the comments of `LeAddDeviceToResolvingList` and of the other commands of the list -/
def resolvingListInUse (s : LeController) : Bool := s.resolvingListBusy || s.synchronizing.isSome

/-- The list did not change if it was in use, nor whether addresses are resolved. -/
structure ResolvingListKept (s s' : LeController) : Prop where
  entries : s.leResolvingListEnabled → s.resolvingListInUse → s'.leResolvingList = s.leResolvingList
  enabled : s.resolvingListInUse → s'.leResolvingListEnabled = s.leResolvingListEnabled

/-- A command that makes no difference to the list. -/
def Indifferent (s : LeController) : ResolvingListCommand → Prop
  | .leAddDeviceToResolvingList type address peerIrk _ => s.leResolvingListEnabled →
      s.properties.leResolvingListSize.toNat ≤ s.leResolvingList.length ∨
      s.leResolvingList.any fun e => e.isOf type address || e.peerIrk = peerIrk &&
        !irkIsZero peerIrk
  | .leRemoveDeviceFromResolvingList type address => s.leResolvingListEnabled →
      !s.leResolvingList.any (·.isOf type address)
  | .leClearResolvingList => s.leResolvingListEnabled → s.leResolvingList = []
  | .leSetAddressResolutionEnable enable => enable = s.leResolvingListEnabled
  | .leSetPrivacyMode type address privacyMode => s.leResolvingListEnabled →
      ∀ e ∈ s.leResolvingList.find? (·.isOf type address), e.privacyMode = privacyMode

/-- While a create sync is pending and nothing else uses the list, its commands make no difference
to it. -/
def MindsCreateSync (s : LeController) (i : Input) : Prop :=
  ∀ c, i.action = .command (.resolvingList c) → s.synchronizing.isSome →
    s.resolvingListBusy = false → s.Indifferent c

variable {s s' : LeController} {i : Input} {out : List Output}

/-! What each command makes of the list, if it is not refused. -/

variable {p : Privacy} {type : PeerAddressType} {address : Address}

theorem leAddDeviceToResolvingList_eq_ok {peerIrk localIrk} :
    s.leAddDeviceToResolvingList type address peerIrk localIrk = .ok p ↔
      (s.leResolvingListEnabled && s.resolvingListBusy) = false ∧
      s.leResolvingList.length < s.properties.leResolvingListSize.toNat ∧
      (s.leResolvingList.any fun e => e.isOf type address || e.peerIrk = peerIrk &&
        !irkIsZero peerIrk) = false ∧
      { s.toPrivacy with leResolvingList :=
          s.leResolvingList ++ [⟨type, address, peerIrk, localIrk, .network⟩] } = p := by
  simp only [leAddDeviceToResolvingList, bind_eq_ok, require_eq_ok, exists_const, Except.ok.injEq,
    Bool.not_eq_true', decide_eq_true_eq]

theorem leRemoveDeviceFromResolvingList_eq_ok :
    s.leRemoveDeviceFromResolvingList type address = .ok p ↔
      (s.leResolvingListEnabled && s.resolvingListBusy) = false ∧
      s.leResolvingList.any (·.isOf type address) ∧
      { s.toPrivacy with leResolvingList := s.leResolvingList.eraseP (·.isOf type address) } =
        p := by
  simp only [leRemoveDeviceFromResolvingList, bind_eq_ok, require_eq_ok, exists_const,
    Except.ok.injEq, Bool.not_eq_true']

theorem leClearResolvingList_eq_ok :
    s.leClearResolvingList = .ok p ↔ (s.leResolvingListEnabled && s.resolvingListBusy) = false ∧
      { s.toPrivacy with leResolvingList := [] } = p := by
  simp only [leClearResolvingList, bind_eq_ok, require_eq_ok, exists_const, Except.ok.injEq,
    Bool.not_eq_true']

theorem leSetAddressResolutionEnable_eq_ok {enable : Bool} :
    s.leSetAddressResolutionEnable enable = .ok p ↔ s.resolvingListBusy = false ∧
      { s.toPrivacy with leResolvingListEnabled := enable } = p := by
  simp only [leSetAddressResolutionEnable, bind_eq_ok, require_eq_ok, exists_const, Except.ok.injEq,
    Bool.not_eq_true']

theorem leSetPrivacyMode_eq_ok {mode} : s.leSetPrivacyMode type address mode = .ok p ↔
      (s.leResolvingListEnabled && s.resolvingListBusy) = false ∧
      s.leResolvingList.any (·.isOf type address) ∧
      { s.toPrivacy with
        leResolvingList := setFirstPrivacyMode type address mode s.leResolvingList } = p := by
  simp only [leSetPrivacyMode, bind_eq_ok, require_eq_ok, exists_const, Except.ok.injEq,
    Bool.not_eq_true']

/-- The entries and the flag are those of the state. -/
def Keeps (s : LeController) (p : Privacy) : Prop :=
  (s.leResolvingListEnabled → p.leResolvingList = s.leResolvingList) ∧
    p.leResolvingListEnabled = s.leResolvingListEnabled

/-- The first entry of a peer keeps its privacy mode exactly when it is the new one. -/
theorem setFirstPrivacyMode_eq_self_iff {mode} (l : List ResolvingListEntry) :
    setFirstPrivacyMode type address mode l = l ↔ ∀ e ∈ l.find? (·.isOf type address),
      e.privacyMode = mode := by
  induction l with
  | nil => simp [setFirstPrivacyMode]
  | cons e _ ih =>
    by_cases he : e.isOf type address
    · obtain ⟨_, _, _, _, mode'⟩ := e
      simp [setFirstPrivacyMode, he, eq_comm]
    · simp [setFirstPrivacyMode, he, ih]

/-- A command that is taken while the list is busy keeps it. -/
theorem keeps_of_busy {c} (hbusy : s.resolvingListBusy = true) (h : s.resolvingList c = .ok p) :
    s.Keeps p := by
  have hdis : (s.leResolvingListEnabled && s.resolvingListBusy) = false →
      ¬ s.leResolvingListEnabled = true := by simp [hbusy]
  cases c with
  | leAddDeviceToResolvingList =>
    obtain ⟨hguard, -, -, rfl⟩ := leAddDeviceToResolvingList_eq_ok.mp h
    exact ⟨fun hen => absurd hen (hdis hguard), rfl⟩
  | leRemoveDeviceFromResolvingList =>
    obtain ⟨hguard, -, rfl⟩ := leRemoveDeviceFromResolvingList_eq_ok.mp h
    exact ⟨fun hen => absurd hen (hdis hguard), rfl⟩
  | leClearResolvingList =>
    obtain ⟨hguard, rfl⟩ := leClearResolvingList_eq_ok.mp h
    exact ⟨fun hen => absurd hen (hdis hguard), rfl⟩
  | leSetAddressResolutionEnable =>
    obtain ⟨hguard, -⟩ := leSetAddressResolutionEnable_eq_ok.mp h
    rw [hbusy] at hguard
    cases hguard
  | leSetPrivacyMode =>
    obtain ⟨hguard, -, rfl⟩ := leSetPrivacyMode_eq_ok.mp h
    exact ⟨fun hen => absurd hen (hdis hguard), rfl⟩

/-- While the list is not busy, the commands that keep it are those that make no difference. -/
theorem keeps_iff_indifferent (hidle : s.resolvingListBusy = false) (c : ResolvingListCommand) :
    (∀ p, s.resolvingList c = .ok p → s.Keeps p) ↔ s.Indifferent c := by
  have hguard : (s.leResolvingListEnabled && s.resolvingListBusy) = false := by simp [hidle]
  cases c with
  | leAddDeviceToResolvingList =>
    constructor
    · intro h hen
      by_contra hnot
      obtain ⟨hroom, hnew⟩ := not_or.mp hnot
      have hkeep := h _ (leAddDeviceToResolvingList_eq_ok.mpr
        ⟨hguard, Nat.lt_of_not_le hroom, Bool.eq_false_of_not_eq_true hnew, rfl⟩)
      simpa using hkeep.1 hen
    · intro h p hp
      obtain ⟨-, hroom, hnew, rfl⟩ := leAddDeviceToResolvingList_eq_ok.mp hp
      refine ⟨fun hen => ?_, rfl⟩
      rcases h hen with hfull | hold
      · omega
      · rw [hnew] at hold
        cases hold
  | leRemoveDeviceFromResolvingList =>
    constructor
    · intro h hen
      by_contra hany
      have hkeep :=
          h _ (leRemoveDeviceFromResolvingList_eq_ok.mpr ⟨hguard, by simpa using hany, rfl⟩)
      have hn := List.eraseP_eq_self_iff.mp (hkeep.1 hen)
      simp_all
    · intro h p hp
      obtain ⟨-, hany, rfl⟩ := leRemoveDeviceFromResolvingList_eq_ok.mp hp
      refine ⟨fun hen => ?_, rfl⟩
      have hn := h hen
      rw [hany] at hn
      cases hn
  | leClearResolvingList =>
    constructor
    · intro h hen
      exact ((h _ (leClearResolvingList_eq_ok.mpr ⟨hguard, rfl⟩)).1 hen).symm
    · intro h p hp
      obtain ⟨-, rfl⟩ := leClearResolvingList_eq_ok.mp hp
      exact ⟨fun hen => (h hen).symm, rfl⟩
  | leSetAddressResolutionEnable =>
    constructor
    · intro h
      exact (h _ (leSetAddressResolutionEnable_eq_ok.mpr ⟨hidle, rfl⟩)).2
    · intro h p hp
      obtain ⟨-, rfl⟩ := leSetAddressResolutionEnable_eq_ok.mp hp
      exact ⟨fun _ => rfl, h⟩
  | leSetPrivacyMode type address =>
    constructor
    · intro h hen e he
      have hof := List.find?_some (p := fun e : ResolvingListEntry => e.isOf type address) he
      have hany : s.leResolvingList.any (·.isOf type address) :=
        List.any_eq_true.mpr ⟨e, List.mem_of_find?_eq_some he, hof⟩
      have hkeep := h _ (leSetPrivacyMode_eq_ok.mpr ⟨hguard, hany, rfl⟩)
      exact (setFirstPrivacyMode_eq_self_iff _).mp (hkeep.1 hen) e he
    · intro h p hp
      obtain ⟨-, -, rfl⟩ := leSetPrivacyMode_eq_ok.mp hp
      exact ⟨fun hen => (setFirstPrivacyMode_eq_self_iff _).mpr (h hen), rfl⟩

/-- What a command of the list makes of it: nothing if it is refused. -/
theorem toPrivacy_of_resolvingList {c} (hi : i.action = .command (.resolvingList c))
    (h : s.step i = .ok (s', out)) :
    s.resolvingList c = .ok s'.toPrivacy ∨ s'.toPrivacy = s.toPrivacy ∧ ∀ p,
      s.resolvingList c ≠ .ok p := by
  obtain ⟨env, a⟩ := i
  cases (show a = _ from hi)
  have hst : (s.answer (fun toPrivacy => { s with toPrivacy }) (s.resolvingList c)).1 = s' :=
    congrArg Prod.fst (Except.ok.inj h)
  rw [← hst]
  cases hc : s.resolvingList c with
  | error => exact .inr ⟨rfl, nofun⟩
  | ok => exact .inl rfl

/-- A step that keeps the entries and the flag. -/
theorem resolvingListKept_iff (huse : s.resolvingListInUse = true) :
    ResolvingListKept s s' ↔ s.Keeps s'.toPrivacy :=
  ⟨fun h => ⟨fun hen => h.entries hen huse, h.enabled huse⟩, fun h =>
    ⟨fun hen _ => h.1 hen, fun _ => h.2⟩⟩

/-- **When a step keeps the resolving list that is in use.** -/
theorem resolving_list_kept_iff (hreset : i.action ≠ .command .reset)
    (h : s.step i = .ok (s', out)) : ResolvingListKept s s' ↔ MindsCreateSync s i := by
  by_cases hlist : ∃ c, i.action = .command (.resolvingList c)
  · obtain ⟨c, hc⟩ := hlist
    have hkeep : s.Keeps s'.toPrivacy ↔ ∀ p, s.resolvingList c = .ok p → s.Keeps p := by
      rcases toPrivacy_of_resolvingList hc h with hok | ⟨hsame, hrefused⟩
      · refine ⟨fun hk p hp => ?_, fun hk => hk _ hok⟩
        cases hok.symm.trans hp
        exact hk
      · exact ⟨fun _ p hp => absurd hp (hrefused p), fun _ => hsame ▸ ⟨fun _ => rfl, rfl⟩⟩
    by_cases hbusy : s.resolvingListBusy = true
    · -- the guard of the command does its work
      have huse : s.resolvingListInUse = true := by simp [resolvingListInUse, hbusy]
      rw [resolvingListKept_iff huse, hkeep]
      refine ⟨fun _ c _ _ hidle => ?_, fun _ p hp => keeps_of_busy hbusy hp⟩
      rw [hbusy] at hidle
      cases hidle
    · have hidle : s.resolvingListBusy = false := Bool.eq_false_of_not_eq_true hbusy
      by_cases hsync : s.synchronizing.isSome = true
      · -- the guard forgets the create sync
        have huse : s.resolvingListInUse = true := by simp [resolvingListInUse, hsync]
        rw [resolvingListKept_iff huse, hkeep, keeps_iff_indifferent hidle]
        refine ⟨fun hc' c' hi _ _ => ?_, fun hm => hm c hc hsync hidle⟩
        cases hc.symm.trans hi
        exact hc'
      · have hunused : s.resolvingListInUse ≠ true := by simp [resolvingListInUse, hidle, hsync]
        exact iff_of_true ⟨fun _ huse => absurd huse hunused, fun huse => absurd huse hunused⟩
          fun _ _ hpend => absurd hpend hsync
  · have hsame : s'.toPrivacy = s.toPrivacy := by
      rcases (effect_of_step h).privacy with hsame | ⟨hr, -⟩ | ⟨c, hc, -⟩
      · exact hsame
      · exact absurd hr hreset
      · exact absurd ⟨c, hc⟩ hlist
    refine iff_of_true ⟨fun _ _ => ?_, fun _ => ?_⟩ fun c hc => absurd ⟨c, hc⟩ hlist
    · rw [hsame]
    · rw [hsame]

/-- The host asks for a sync. -/
def asksForSync : Command :=
  .sync
    (.lePeriodicAdvertisingCreateSync ⟨false, false, false⟩
    ⟨.publicDeviceOrIdentityAddress, 7, 1⟩ 10 0)

/-- The host adds a peer and has its addresses resolved, then asks for a sync. -/
def resolvesAndAsksForSync : List Input :=
  [.host (.resolvingList (.leAddDeviceToResolvingList .publicDeviceOrIdentityAddress 7 3 5)),
    .host (.resolvingList (.leSetAddressResolutionEnable true)), .host asksForSync]

/-- While the controller scans for the train, the list is not cleared. -/
theorem resolving_list_kept_while_scanning :
    ∃ tr s s' out, machine.Run (fun _ _ => True) (new 1 {}) tr s ∧
    s.leResolvingListEnabled = true ∧ s.synchronizing.isSome = true ∧
    s.step (.host (.resolvingList .leClearResolvingList)) = .ok (s', out) ∧
      ResolvingListKept s s' := by
  have hx : machine.ExecTo (fun _ s => s.leResolvingListEnabled = true ∧
      s.synchronizing.isSome = true ∧ s.resolvingListBusy = true ∧
      ∃ r ∈ (s.step (.host (.resolvingList .leClearResolvingList))).toOption,
        r.1.leResolvingList ≠ [])
      (new 1 {}) (resolvesAndAsksForSync ++ [.host (.scan (.leSetScanEnable true true))]) := by
    decide +kernel
  obtain ⟨tr, s, hrun, hen, hsync, hbusy, r, hr, -⟩ := machine.exists_free_run hx
  have hstep := toOption_eq_some.mp hr
  have hminds : MindsCreateSync s (.host (.resolvingList .leClearResolvingList)) :=
    fun _ _ _ hidle => absurd (hbusy.symm.trans hidle) (by decide)
  exact ⟨tr, s, r.1, r.2, hrun, hen, hsync, hstep,
    (resolving_list_kept_iff (by decide) hstep).mpr hminds⟩

/-- The list is cleared, and addresses are no more resolved, while a create sync is pending. -/
theorem changed_while_synchronizing : ∃ tr s s' out, machine.Run (fun _ _ => True) (new 1 {}) tr s ∧
    s.step (.host (.resolvingList .leClearResolvingList)) = .ok (s', out) ∧
      ¬ ResolvingListKept s s' := by
  have hx : machine.ExecTo (fun _ s => s.leResolvingListEnabled = true ∧
      s.resolvingListInUse = true ∧ s.leResolvingList ≠ [] ∧
      ∃ r ∈ (s.step (.host (.resolvingList .leClearResolvingList))).toOption,
        r.1.leResolvingList = [])
      (new 1 {}) resolvesAndAsksForSync := by
    decide +kernel
  obtain ⟨tr, s, hrun, hen, huse, hentries, r, hr, hcleared⟩ := machine.exists_free_run hx
  refine ⟨tr, s, r.1, r.2, hrun, toOption_eq_some.mp hr, fun hkept => ?_⟩
  exact hentries ((hkept.entries hen huse).symm.trans hcleared)

end LeController

end RootCanal.Gap
