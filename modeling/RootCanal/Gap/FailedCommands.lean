import RootCanal.Gap.SetEffects

/-!
# Commands that fail

A command that returns an error is to leave every advertiser as it was; only a data command may
discard the data of its own set, where its comments say so (`Unharmed`).  Two commands do more.

* Enabling a list of sets gives each of them its addresses while it checks them one by one.  When
  one cannot be enabled, those before it have new addresses already.
* Advertising data that does not fit in the PDUs of an enabled set is refused, and what the set had
  is lost.

**`failed_unharmed_iff`: every other command that fails leaves the advertisers as they were, and
these two do exactly if the sets before the one that fails have the addresses they would be given
(`Addressed`), and if the data fits or there is none to lose (`losesData`).**

Source: `le_advertiser.cc`
-/

namespace RootCanal.Gap

open Lib RootCanal.Hci

/-- The comments of the command say that the data is discarded with this status.
Source: `LeSetExtendedAdvertisingData`,
`LeSetExtendedScanResponseData`, `LeSetPeriodicAdvertisingData` -/
def DataKind.documentsDiscard : DataKind → ErrorCode → Bool
  | .advertising, status => status = .memoryCapacityExceeded
  | .scanResponse, status | .periodic, status =>
    status = .memoryCapacityExceeded || status = .packetTooLong

/-- The data command, if it is one. -/
def Command.data? : Command → Option DataCommand
  | .advertisingSets c => c.data?
  | _ => none

namespace ExtendedAdvertiser

variable {a b : ExtendedAdvertiser} {properties : ControllerProperties} {operation : Operation}
  {data : List UInt8}

/-! ## Advertising data that does not fit -/

/-- The set is enabled, and has advertising data that is longer than its PDUs, or is given such. -/
def losesData (properties : ControllerProperties) (operation : Operation) (data : List UInt8)
    (a : ExtendedAdvertiser) : Bool :=
  let p := a.advertisingEventProperties
  let length := (a.advertisingData.receive data operation).data.length
  a.advertisingEnable && !p.legacy && !p.scannable &&
    (operation = .completeAdvertisement || operation = .unchangedData && data = []) &&
    getMaxAdvertisingDataLength p < length && length ≤
      properties.leMaxAdvertisingDataLength.toNat &&
    a.advertisingData ≠ {}

theorem losesData_of_tooLong (h : a.leSetExtendedAdvertisingData properties operation data =
    .ok (b, .packetTooLong)) (hb : b ≠ a) : a.losesData properties operation data = true := by
  obtain ⟨hcan, hleg, hena, new, rfl, hnew⟩ := leSetExtendedAdvertisingData_eq_ok h
  cases hnew with
  | tooLong hcap hlim =>
    have hdata : a.advertisingData ≠ {} := fun heq => hb (by rw [← heq])
    have he : a.advertisingEnable = true := by
      by_contra he
      rw [advertisingDataLimit, if_neg he] at hlim
      exact lt_irrefl _ hlim
    rw [advertisingDataLimit, if_pos he] at hlim
    have hl : a.advertisingEventProperties.legacy = false := by
      by_contra hl
      rw [Bool.not_eq_false] at hl
      obtain ⟨rfl, hlen⟩ := hleg hl
      have hdirected : a.advertisingEventProperties.directed = false := by
        simpa [canHaveAdvertisingData, hl] using hcan
      rw [getMaxAdvertisingDataLength, hl, hdirected] at hlim
      exact absurd hlen (Nat.not_le.mpr hlim)
    have hs : a.advertisingEventProperties.scannable = false := by
      simpa [canHaveAdvertisingData, hl] using hcan
    simp only [losesData, he, hl, hs, hlim, hcap, Bool.not_false, Bool.true_and, decide_true,
      Bool.and_true, Bool.and_eq_true, Bool.or_eq_true, decide_eq_true_eq]
    exact ⟨hena he, hdata⟩

theorem tooLong_of_losesData (h : a.losesData properties operation data = true) :
    a.leSetExtendedAdvertisingData properties operation data =
      .ok ({ a with advertisingData := {} }, .packetTooLong) ∧ a.advertisingData ≠ {} := by
  simp only [losesData, Bool.and_eq_true, Bool.or_eq_true, Bool.not_eq_true', decide_eq_true_eq]
    at h
  obtain ⟨⟨⟨⟨⟨⟨he, hl⟩, hs⟩, hoperation⟩, hlim⟩, hcap⟩, hdata⟩ := h
  refine ⟨?_, hdata⟩
  have hcan : canHaveAdvertisingData a.advertisingEventProperties = true := by
    simp [canHaveAdvertisingData, hl, hs]
  rcases hoperation with rfl | ⟨rfl, rfl⟩
  · simp [leSetExtendedAdvertisingData, hcan, hl, he, require, hlim, Nat.not_lt.mpr hcap]
    rfl
  · have hne : a.advertisingData.data ≠ [] := by
      intro hemp
      rw [DataBuffer.receive, hemp] at hlim
      exact Nat.not_lt_zero _ hlim
    simp [leSetExtendedAdvertisingData, hcan, hl, he, hne, require, hlim, Nat.not_lt.mpr hcap]
    rfl

theorem readdress_eq_self {x y : AddressWithType} :
    a.readdress x y = a ↔ x = a.advertisingAddress ∧ y = a.targetAddress := by
  constructor
  · intro h
    exact ⟨congrArg (·.advertisingAddress) h, congrArg (·.targetAddress) h⟩
  · rintro ⟨rfl, rfl⟩
    rfl

/-! ## Commands that succeed once they pass their checks -/

theorem success_of_periodicParameters {intervalMin intervalMax} :
    Yields (a.leSetPeriodicAdvertisingParameters intervalMin intervalMax) (·.2 = .success) := by
  iterate 4 refine .bind fun _ _ => ?_
  exact .ok rfl

theorem success_of_periodicEnable {now : Nat} {enable includeAdi : Bool} :
    Yields (a.leSetPeriodicAdvertisingEnable properties now enable includeAdi)
      (·.2 = .success) := by
  refine .ite (fun _ => .ok rfl) fun _ => ?_
  iterate 5 refine .bind fun _ _ => ?_
  exact .ok rfl

/-! ## What is checked of a set -/

/-- The set can be enabled.
Source: `LeSetExtendedAdvertisingEnable` -/
def canBeEnabled (set : EnabledSet) (a : ExtendedAdvertiser) : Bool :=
  let p := a.advertisingEventProperties
  (!(p.connectable && p.directed && p.highDutyCycle) ∨
    set.duration ≠ 0 ∧ set.duration.toNat * 10 * 1000 ≤ advDirectIndHighTimeout) ∧
  (!a.advertisingData.isPartial ∧ !a.scanResponseData.isPartial) ∧
  (p.legacy ∨ !p.scannable ∨ a.scanResponseData.data ≠ []) ∧
  (p.legacy ∨ !p.connectable ∨ a.advertisingData.data.length ≤ getMaxAdvertisingDataLength p) ∧
  (p.legacy ∨ a.advertisingData.data.length ≤ maxExtendedAdvertisingPduSize ∧
    a.scanResponseData.data.length ≤ maxExtendedAdvertisingPduSize)

theorem checkEnable_eq_ok_iff {set u} : a.checkEnable set = .ok u ↔ a.canBeEnabled set = true := by
  simp only [checkEnable, bind_eq_ok, require_eq_ok, exists_const, decide_eq_true_eq, canBeEnabled]

end ExtendedAdvertiser

namespace LeController

variable {s s' : LeController} {env : Env} {c : Command} {status : ErrorCode} {handle : UInt8}

/-- The address that a set would advertise with, if there is one: the `n`-th of a list.
Source: `LeSetExtendedAdvertisingEnable` -/
def ownAddress? (s : LeController) (env : Env) (n : Nat) (a : ExtendedAdvertiser) :
    Option AddressWithType :=
  let peer := peerDeviceAddress a.peerAddress a.peerAddressType
  let resolvable := s.generateResolvablePrivateAddress env.aes peer .loc (env.rand (2 * n))
  let publicAddress : AddressWithType := ⟨s.address, .publicDeviceAddress⟩
  let random := (a.randomAddress.filter (· ≠ Address.kEmpty)).map (⟨·, .randomDeviceAddress⟩)
  match a.ownAddressType with
  | .publicDeviceAddress => some publicAddress
  | .randomDeviceAddress => random
  | .resolvableOrPublicAddress => some (resolvable.getD publicAddress)
  | .resolvableOrRandomAddress => resolvable.or random

/-- The address that a set would be directed to.
Source: `LeSetExtendedAdvertisingEnable` -/
def nextTarget (s : LeController) (env : Env) (n : Nat) (a : ExtendedAdvertiser) :
    AddressWithType :=
  let peer := peerDeviceAddress a.peerAddress a.peerAddressType
  if a.advertisingEventProperties.directed then
    (s.generateResolvablePrivateAddress env.aes peer .peer (env.rand (2 * n + 1))).getD peer
  else a.targetAddress

/-- A set of the list can be enabled and has an address. -/
def isReady (s : LeController) (env : Env) (e : EnabledSet × Nat) : Bool :=
  s.extendedAdvertisers[e.1.advertisingHandle]?.any fun a =>
    a.canBeEnabled e.1 && (s.ownAddress? env e.2 a).isSome

/-- A set of the list has the addresses that it would be given. -/
def isAddressed (s : LeController) (env : Env) (e : EnabledSet × Nat) : Bool :=
  s.extendedAdvertisers[e.1.advertisingHandle]?.any fun a =>
    s.ownAddress? env e.2 a = some a.advertisingAddress && s.nextTarget env e.2 a = a.targetAddress

/-- All the sets of the list are ready, or those before the first that is not have their
addresses. -/
def Addressed (s : LeController) (env : Env) (sets : List EnabledSet) : Prop :=
  (∀ e ∈ sets.zipIdx, s.isReady env e = true) ∨
  ∀ e ∈ sets.zipIdx.takeWhile (s.isReady env), s.isAddressed env e = true

theorem chooseAdvertisingAddress_eq_ok {n : Nat} {a} {x : AddressWithType} :
    s.chooseAdvertisingAddress a.ownAddressType (a.randomAddress.getD Address.kEmpty)
      (s.generateResolvablePrivateAddress env.aes
        (peerDeviceAddress a.peerAddress a.peerAddressType) .loc
        (env.rand (2 * n))) = .ok x ↔ s.ownAddress? env n a = some x := by
  -- an address that is empty counts as none
  have hrnd : (require (decide (a.randomAddress.getD Address.kEmpty ≠ Address.kEmpty))
      ErrorCode.invalidHciCommandParameters >>= fun _ =>
        Except.ok ⟨a.randomAddress.getD Address.kEmpty, .randomDeviceAddress⟩) = .ok x ↔
      (a.randomAddress.filter (· ≠ Address.kEmpty)).map (⟨·, .randomDeviceAddress⟩) = some x := by
    simp only [bind_eq_ok, require_eq_ok, exists_const, decide_eq_true_eq, Except.ok.injEq]
    cases a.randomAddress with
    | none => simp
    | some r => by_cases hr : r = Address.kEmpty <;> simp [hr, Option.filter]
  unfold chooseAdvertisingAddress ownAddress?
  cases a.ownAddressType with
  | publicDeviceAddress => simp
  | randomDeviceAddress => exact hrnd
  | resolvableOrPublicAddress => simp
  | resolvableOrRandomAddress =>
    dsimp only
    cases s.generateResolvablePrivateAddress env.aes
      (peerDeviceAddress a.peerAddress a.peerAddressType) .loc (env.rand (2 * n)) with
    | none => exact hrnd
    | some => simp

/-- What preparing a set makes of it. -/
theorem prepareSet_eq_ok_iff {n : Nat} {set a b} :
    s.prepareSet env n set a = .ok b ↔ a.canBeEnabled set = true ∧
      ∃ x, s.ownAddress? env n a = some x ∧ b = a.readdress x (s.nextTarget env n a) := by
  unfold prepareSet
  simp only [bind_eq_ok, ExtendedAdvertiser.checkEnable_eq_ok_iff, exists_const,
    chooseAdvertisingAddress_eq_ok, Except.ok.injEq]
  exact and_congr_right fun _ => exists_congr fun x => and_congr_right fun _ => eq_comm

/-! ## Preparing a list of sets -/

/-- The handles are of different sets, none of them used before, that exist. -/
theorem checkHandles_eq_ok {used sets} :
    s.checkHandles used sets = .ok () ↔ (∀ set ∈ sets, set.advertisingHandle ∉ used) ∧
      (sets.map (·.advertisingHandle)).Nodup ∧
      ∀ set ∈ sets, s.extendedAdvertisers.contains set.advertisingHandle = true := by
  induction sets generalizing used with
  | nil => simp [checkHandles]
  | cons _ _ ih =>
    simp only [checkHandles, bind_eq_ok, require_eq_ok, exists_const, decide_eq_true_eq, ih,
      List.mem_cons, not_or, List.map_cons, List.nodup_cons, List.mem_map, forall_eq_or_imp]
    constructor
    · rintro ⟨hused, hkn, hrs, hnd, hall⟩
      refine ⟨⟨hused, fun set' h => (hrs set' h).2⟩, ⟨?_, hnd⟩, hkn, hall⟩
      rintro ⟨set', h, heq⟩
      exact (hrs set' h).1 heq
    · rintro ⟨⟨hused, hrs⟩, ⟨hnew, hnd⟩, hkn, hall⟩
      exact ⟨hused, hkn, fun set' h => ⟨fun heq => hnew ⟨set', h, heq⟩, hrs set' h⟩, hnd, hall⟩

variable {list : List EnabledSet} {sets : Sets}

theorem prepareSets_of_not_mem {n : Nat} (h : handle ∉ list.map (·.advertisingHandle)) :
    (s.prepareSets env n sets list).1[handle]? = sets[handle]? := by
  induction list generalizing n sets with
  | nil => rfl
  | cons _ _ ih =>
    simp only [List.map_cons, List.mem_cons, not_or] at h
    unfold prepareSets
    split
    · rfl
    · split
      · rfl
      · rw [ih h.2, HashMap.getElem?_insert', if_neg (Ne.symm h.1)]

/-- **The sets of a list are all prepared exactly if they are ready, and are as before exactly if
those before the first that is not have their addresses.** -/
theorem prepareSets_spec (env : Env) (n : Nat) (hnd : (list.map (·.advertisingHandle)).Nodup)
    (hkn : ∀ set ∈ list, s.extendedAdvertisers.contains set.advertisingHandle = true)
    (hsame : ∀ set ∈ list, sets[set.advertisingHandle]? =
      s.extendedAdvertisers[set.advertisingHandle]?) :
    ((s.prepareSets env n sets list).2 = .success ↔ ∀ e ∈ list.zipIdx n, s.isReady env e = true) ∧
    ((∀ handle : UInt8, (s.prepareSets env n sets list).1[handle]? = sets[handle]?) ↔
      ∀ e ∈ (list.zipIdx n).takeWhile (s.isReady env), s.isAddressed env e = true) := by
  induction list generalizing n sets with
  | nil => simp [prepareSets]
  | cons set list ih =>
    obtain ⟨hfresh, hnd⟩ := List.nodup_cons.mp hnd
    obtain ⟨a, ha⟩ : ∃ a, s.extendedAdvertisers[set.advertisingHandle]? = some a := by
      rw [← Option.isSome_iff_exists, ← Std.ExtTreeMap.contains_eq_isSome_getElem?]
      exact hkn set (List.mem_cons_self ..)
    have hget : sets[set.advertisingHandle]? = some a :=
        (hsame set (List.mem_cons_self ..)).trans ha
    rw [List.zipIdx_cons]
    cases hprep : s.prepareSet env n set a with
    | error status =>
      have hrdy : ¬ s.isReady env (set, n) = true := by
        intro hrdy
        obtain ⟨hcan, hx⟩ : a.canBeEnabled set = true ∧ (s.ownAddress? env n a).isSome = true := by
          simpa [isReady, ha] using hrdy
        obtain ⟨x, hx⟩ := Option.isSome_iff_exists.mp hx
        cases hprep.symm.trans (prepareSet_eq_ok_iff.mpr ⟨hcan, x, hx, rfl⟩)
      have hst : status ≠ .success := by
        rintro rfl
        exact prepareSet_ne_success n set a hprep
      simp only [prepareSets, hget, hprep, List.takeWhile_cons_of_neg hrdy]
      exact ⟨iff_of_false hst fun h => hrdy (h _ (List.mem_cons_self ..)),
        iff_of_true (fun _ => trivial) fun _ h => absurd h List.not_mem_nil⟩
    | ok =>
      obtain ⟨hcan, x, hx, rfl⟩ := prepareSet_eq_ok_iff.mp hprep
      have hrdy : s.isReady env (set, n) = true := by simp [isReady, ha, hcan, hx]
      have hsame' : ∀ set' ∈ list, (sets.insert set.advertisingHandle
          (a.readdress x (s.nextTarget env n a)))[set'.advertisingHandle]? =
          s.extendedAdvertisers[set'.advertisingHandle]? := by
        intro set' h
        have hne : set.advertisingHandle ≠ set'.advertisingHandle :=
          fun heq => hfresh (List.mem_map.mpr ⟨set', h, heq.symm⟩)
        rw [HashMap.getElem?_insert', if_neg hne]
        exact hsame set' (List.mem_cons_of_mem _ h)
      have hrs := ih (n + 1) hnd (fun set' h => hkn set' (List.mem_cons_of_mem _ h)) hsame'
      have haddressed : s.isAddressed env (set, n) = true ↔
          a.readdress x (s.nextTarget env n a) = a := by
        simp only [isAddressed, ha, Option.any_some, hx, Option.some.injEq, Bool.and_eq_true,
          decide_eq_true_eq]
        exact ExtendedAdvertiser.readdress_eq_self.symm
      simp only [prepareSets, hget, hprep, List.takeWhile_cons_of_pos hrdy, List.forall_mem_cons,
        hrdy, true_and]
      refine ⟨hrs.1, ?_⟩
      rw [← hrs.2, haddressed]
      constructor
      · intro hall
        -- the first set is not met again, so that it has what it had
        have h1 := hall set.advertisingHandle
        rw [prepareSets_of_not_mem hfresh, HashMap.getElem?_insert', if_pos rfl, hget] at h1
        have heq := Option.some.inj h1
        refine ⟨heq, fun handle => ?_⟩
        rw [hall handle, heq, HashMap.getElem?_insert_self hget]
      · rintro ⟨heq, hall⟩ handle
        rw [hall handle, heq, HashMap.getElem?_insert_self hget]

/-! ## What fails leaves the advertisers as they were -/

/-- The advertisers are as before, but for data that is discarded where the comments say so. -/
def Unharmed (s s' : LeController) (c : Command) (status : ErrorCode) : Prop :=
  s'.legacyAdvertiser = s.legacyAdvertiser ∧
  ∀ handle : UInt8, s'.extendedAdvertisers[handle]? = s.extendedAdvertisers[handle]? ∨
    ∃ d ∈ c.data?, d.handle = handle ∧ d.kind.documentsDiscard status = true ∧
      s'.extendedAdvertisers[handle]? = s.extendedAdvertisers[handle]?.map (·.withBuffer {} d.kind)

/-- If the command fails, the advertisers are as before. -/
def FailsUnharmed (s : LeController) (env : Env) (c : Command) : Prop :=
  ∀ s' status, s.step ⟨env, .command c⟩ = .ok (s', [.event (.status status)]) → status ≠ .success →
    s.Unharmed s' c status

/-- What is asked of the two commands that can do harm. -/
def Harmless (s : LeController) (env : Env) : Command → Prop
  | .advertisingSets (.leSetExtendedAdvertisingEnable true sets) =>
    s.legacyAdvertisingInUse = false → (sets.map (·.advertisingHandle)).Nodup →
    (∀ set ∈ sets, s.extendedAdvertisers.contains set.advertisingHandle = true) →
      s.Addressed env sets
  | .advertisingSets (.leSetExtendedAdvertisingData handle operation data) =>
    s.legacyAdvertisingInUse = false →
    ∀ a ∈ s.extendedAdvertisers[handle]?, a.losesData s.properties operation data.octets = false
  | _ => True

/-- Where nothing is documented the sets are as before. -/
theorem FailsUnharmed.same (h : s.FailsUnharmed env c)
    (hstep : s.step ⟨env, .command c⟩ = .ok (s', [.event (.status status)]))
    (hfail : status ≠ .success)
    (hdoc : ∀ d ∈ c.data?, d.kind.documentsDiscard status = false) (handle : UInt8) :
    s'.extendedAdvertisers[handle]? = s.extendedAdvertisers[handle]? := by
  rcases (h s' status hstep hfail).2 handle with hsame | ⟨d, hd, -, hdiscard, -⟩
  · exact hsame
  · rw [hdoc d hd] at hdiscard
    cases hdiscard

theorem unharmed_of_same (hleg : s'.legacyAdvertiser = s.legacyAdvertiser)
    (h : s'.extendedAdvertisers = s.extendedAdvertisers) : s.Unharmed s' c status :=
  ⟨hleg, fun _ => .inl (by rw [h])⟩

/-- A part is changed only by a success. -/
theorem answer_of_failed {α : Type} {set : α → LeController} {r : Except ErrorCode α}
    (h : s.answer set r = (s', [.event (.status status)]))
    (hfail : status ≠ .success) : s' = s := by
  cases r with
  | error =>
    cases h
    rfl
  | ok =>
    cases h
    exact absurd rfl hfail

/-- A command that is not of the advertising sets. -/
theorem failsUnharmed_of_answer (hc : ∀ l e s' status,
    (s.withKinds l e).execute env c = (s', [.event (.status status)]) → status ≠ .success →
      s' = s.withKinds l e) : s.FailsUnharmed env c := by
  intro s' status h hfail
  have h : s.command env c = (s', [.event (.status status)]) := Except.ok.inj h
  unfold command at h
  cases hk : s.select c.kind with
  | none =>
    rw [hk] at h
    cases h
    exact unharmed_of_same rfl rfl
  | some =>
    rw [hk] at h
    obtain ⟨l, e, rfl⟩ := select_eq_some hk
    rw [hc l e s' status h hfail]
    exact unharmed_of_same rfl rfl

/-- A command of the sets that changes them only if it succeeds. -/
theorem failsUnharmed_of_applied {c}
    (hc : ∀ sets status, s.excludes c = false → s.advertisingSets env c = .ok (sets, status) →
      status ≠ .success → s.Unharmed { s with extendedAdvertisers := sets }
        (.advertisingSets c) status) :
    s.FailsUnharmed env (.advertisingSets c) := by
  intro s' status h hfail
  obtain ⟨status', hout, hans⟩ := setsAnswer_of_step h
  cases hout
  cases hans with
  | excluded | refused => exact unharmed_of_same rfl rfl
  | applied _ _ sets status hexc hok => exact hc sets status hexc hok hfail

/-- A data command that fails discards the data of its set. -/
theorem unharmed_data {c d} (hd : c.data? = some d)
    (h : s.advertisingSets env c = .ok (sets, status)) (hfail : status ≠ .success)
    (hkept : ∀ a b, s.extendedAdvertisers[d.handle]? = some a →
      a.setData s.properties d = .ok (b, status) →
      d.kind.documentsDiscard status = true ∨ b = a) :
    s.Unharmed { s with extendedAdvertisers := sets } (.advertisingSets c) status := by
  rw [advertisingSets_data hd] at h
  obtain ⟨a, b, ha, hb, rfl⟩ := onSet_eq_ok h
  refine ⟨rfl, fun handle => ?_⟩
  rcases hkept a b ha hb with hdoc | rfl
  · by_cases hh : d.handle = handle
    · refine .inr ⟨d, hd, hh, hdoc, ?_⟩
      obtain ⟨new, rfl, hnew⟩ := ExtendedAdvertiser.setData_eq_ok hb
      rw [HashMap.getElem?_insert', if_pos hh, ← hh, ha]
      cases hnew with
      | exceeded | tooLong => rfl
      | taken => exact absurd rfl hfail
    · exact .inl (by rw [HashMap.getElem?_insert', if_neg hh])
  · exact .inl (HashMap.getElem?_insert_self ha handle)

/-- A data command fails with one of two statuses. -/
theorem status_of_setData {a b : ExtendedAdvertiser} {d : DataCommand}
    {properties : ControllerProperties}
    (h : a.setData properties d = .ok (b, status)) (hfail : status ≠ .success) :
    status = .memoryCapacityExceeded ∨ status = .packetTooLong := by
  obtain ⟨new, -, hnew⟩ := ExtendedAdvertiser.setData_eq_ok h
  cases hnew with
  | exceeded => exact .inl rfl
  | tooLong => exact .inr rfl
  | taken => exact absurd rfl hfail

/-- The commands for scan response data and for periodic advertising data document both. -/
theorem failsUnharmed_of_documented {c : AdvertisingSetCommand} {d : DataCommand}
    (hd : c.data? = some d) (hkind : d.kind ≠ .advertising) : s.FailsUnharmed env
    (.advertisingSets c) := by
  refine failsUnharmed_of_applied fun sets status _ hok hfail => unharmed_data hd hok hfail ?_
  intro a b _ hb
  left
  cases hk : d.kind with
  | advertising => exact absurd hk hkind
  | scanResponse | periodic => rcases status_of_setData hb hfail with rfl | rfl <;> rfl

/-- Advertising data is harmless exactly if none is lost. -/
theorem failsUnharmed_advertisingData {operation : Operation} {data : Payload 251} :
    s.FailsUnharmed env (.advertisingSets (.leSetExtendedAdvertisingData handle operation data)) ↔
      s.Harmless env (.advertisingSets (.leSetExtendedAdvertisingData handle operation data)) := by
  constructor
  · intro h hleg a ha
    rw [← Bool.not_eq_true]
    intro hloses
    have ha : s.extendedAdvertisers[handle]? = some a := ha
    obtain ⟨htooLong, hdata⟩ := ExtendedAdvertiser.tooLong_of_losesData hloses
    have hok : s.advertisingSets env (.leSetExtendedAdvertisingData handle operation data) =
        .ok (s.extendedAdvertisers.insert handle { a with advertisingData := {} },
          .packetTooLong) := by
      simp only [advertisingSets, onSet, ha, htooLong]
      rfl
    obtain ⟨s', hstep, hsets⟩ := step_of_applied (by simp [excludes, hleg]) hok
    have hsame := h.same hstep (by decide) (by rintro _ ⟨⟩; rfl) handle
    rw [hsets, HashMap.getElem?_insert', if_pos rfl, ha] at hsame
    exact hdata (congrArg (·.advertisingData) (Option.some.inj hsame)).symm
  · intro h
    refine failsUnharmed_of_applied fun sets status hexc hok hfail =>
      unharmed_data rfl hok hfail ?_
    intro a b ha hb
    rcases status_of_setData hb hfail with rfl | rfl
    · exact .inl rfl
    · right
      by_contra hne
      have hloses := ExtendedAdvertiser.losesData_of_tooLong hb hne
      rw [h (by simpa [excludes, AdvertisingSetCommand.kind] using hexc) a ha] at hloses
      cases hloses

/-- Enabling fails after the handles are checked as the sets are prepared. -/
theorem enable_failed_iff (hfail : status ≠ .success) :
    s.leSetExtendedAdvertisingEnable env true list = .ok (sets, status) ↔
      s.checkHandles [] list = .ok () ∧ list ≠ [] ∧
      s.prepareSets env 0 s.extendedAdvertisers list = (sets, status) := by
  constructor
  · intro h
    obtain ⟨⟨⟩, hchk, h⟩ := bind_eq_ok.mp h
    obtain ⟨⟨⟩, hne, h⟩ := bind_eq_ok.mp h
    split at h
    · cases h
      exact absurd rfl hfail
    · rename_i hprep
      cases h
      exact ⟨hchk, by simpa using hne, hprep⟩
  · rintro ⟨hchk, hne, h⟩
    refine bind_eq_ok.mpr ⟨(), hchk, bind_eq_ok.mpr ⟨(), by simpa using hne, ?_⟩⟩
    rw [h]
    split
    · rename_i heq
      cases heq
      exact absurd rfl hfail
    · rename_i heq
      cases heq
      rfl

/-- Enabling is harmless exactly if no set has to be given addresses before one that fails. -/
theorem failsUnharmed_enable {sets} :
    s.FailsUnharmed env (.advertisingSets (.leSetExtendedAdvertisingEnable true sets)) ↔
      s.Harmless env (.advertisingSets (.leSetExtendedAdvertisingEnable true sets)) := by
  constructor
  · intro h hleg hnd hkn
    have hchk := checkHandles_eq_ok.mpr ⟨fun _ _ => List.not_mem_nil, hnd, hkn⟩
    obtain ⟨hrdy, hkept⟩ := prepareSets_spec (s := s) env 0 hnd hkn fun _ _ => rfl
    by_cases hall : ∀ e ∈ sets.zipIdx, s.isReady env e = true
    · exact .inl hall
    · right
      have hfail := mt hrdy.mp hall
      have hne : sets ≠ [] := by
        rintro rfl
        simp at hall
      have hok : s.advertisingSets env (.leSetExtendedAdvertisingEnable true sets) =
          .ok (s.prepareSets env 0 s.extendedAdvertisers sets) :=
        (enable_failed_iff hfail).mpr ⟨hchk, hne, rfl⟩
      obtain ⟨s', hstep, hsets⟩ := step_of_applied (by simp [excludes, hleg]) hok
      rw [← hsets] at hkept
      exact hkept.mp (h.same hstep hfail fun _ hd => absurd hd (Option.not_mem_none _))
  · intro h
    refine failsUnharmed_of_applied fun sets' status hexc hok hfail => ⟨rfl, fun handle => .inl ?_⟩
    obtain ⟨hchk, -, hprep⟩ := (enable_failed_iff hfail).mp hok
    obtain ⟨-, hnd, hkn⟩ := checkHandles_eq_ok.mp hchk
    obtain ⟨hrdy, hkept⟩ := prepareSets_spec (s := s) env 0 hnd hkn fun _ _ => rfl
    rw [hprep] at hrdy hkept
    rcases h (by simpa [excludes, AdvertisingSetCommand.kind] using hexc) hnd hkn
      with hall | haddressed
    · exact absurd (hrdy.mpr hall) hfail
    · exact hkept.mpr haddressed handle

theorem failsUnharmed_sets (c : AdvertisingSetCommand) :
    s.FailsUnharmed env (.advertisingSets c) ↔ s.Harmless env (.advertisingSets c) := by
  -- a command that has no other status than success once it is applied
  have hsuccess (hc : Yields (s.advertisingSets env c) (·.2 = .success)) : s.FailsUnharmed env
      (.advertisingSets c) := failsUnharmed_of_applied fun sets status _ hok hfail =>
      absurd (hc _ hok) hfail
  have honSet {handle f} (hf : ∀ a, Yields (f a) (·.2 = ErrorCode.success)) :
      Yields (s.onSet handle f) (·.2 = .success) := by
    rintro ⟨sets, status⟩ h
    obtain ⟨a, b, -, hb, -⟩ := onSet_eq_ok h
    exact hf a _ hb
  cases c with
  | leSetAdvertisingSetRandomAddress =>
    exact iff_of_true (hsuccess (honSet fun _ => .bind fun _ _ => .ok rfl)) trivial
  | leSetExtendedAdvertisingParameters =>
    exact iff_of_true (hsuccess (.bind fun _ _ => .bind fun _ _ => .ok rfl)) trivial
  | leSetExtendedAdvertisingData => exact failsUnharmed_advertisingData
  | leSetExtendedScanResponseData | leSetPeriodicAdvertisingData =>
    exact iff_of_true (failsUnharmed_of_documented rfl nofun) trivial
  | leSetExtendedAdvertisingEnable enable =>
    cases enable with
    | true => exact failsUnharmed_enable
    | false => exact iff_of_true (hsuccess (.bind fun _ _ => .ok rfl)) trivial
  | leRemoveAdvertisingSet handle =>
    refine iff_of_true (hsuccess ?_) trivial
    show Yields (s.leRemoveAdvertisingSet handle) _
    unfold leRemoveAdvertisingSet
    split
    · exact .error
    · exact .bind fun _ _ => .ok rfl
  | leClearAdvertisingSets => exact iff_of_true (hsuccess (.bind fun _ _ => .ok rfl)) trivial
  | leSetPeriodicAdvertisingParameters =>
    exact iff_of_true (hsuccess (honSet fun _ => ExtendedAdvertiser.success_of_periodicParameters))
      trivial
  | leSetPeriodicAdvertisingEnable =>
    exact iff_of_true (hsuccess (honSet fun _ => ExtendedAdvertiser.success_of_periodicEnable))
      trivial

/-- **A command that fails leaves the advertisers as they were exactly if it is harmless.** -/
theorem failed_unharmed_iff (s : LeController) (env : Env) (c : Command) :
    s.FailsUnharmed env c ↔ s.Harmless env c := by
  cases c with
  | advertisingSets c => exact failsUnharmed_sets c
  | _ =>
    refine iff_of_true (failsUnharmed_of_answer fun l e s' status h hfail => ?_) trivial
    unfold execute at h
    exact answer_of_failed h hfail

/-- Connectable advertising, with an address of this type. -/
def connectableParameters (own : OwnAddressType) : ExtendedAdvertisingParameters :=
  ⟨{ connectable := true }, 0x20, 0x20, 0x7, own, .publicDeviceOrIdentityAddress, 0, .allDevices, 0,
    .le1m, .le1m, 0⟩

/-- Set 0 is enabled and has data, set 1 has no address, set 2 was never enabled. -/
def threeSets : List Input :=
  [.host
    (.advertisingSets
      (.leSetExtendedAdvertisingParameters 0 (connectableParameters .publicDeviceAddress))),
    .host
      (.advertisingSets (.leSetExtendedAdvertisingData 0 .completeAdvertisement ⟨[1], by decide⟩)),
    .host (.advertisingSets (.leSetExtendedAdvertisingEnable true [⟨0, 0, 0⟩])),
    .host
      (.advertisingSets
      (.leSetExtendedAdvertisingParameters 1 (connectableParameters .randomDeviceAddress))),
    .host
      (.advertisingSets
      (.leSetExtendedAdvertisingParameters 2 (connectableParameters .publicDeviceAddress)))]

/-- The host enables set 2, and set 1 which cannot be enabled. -/
def enablesTwo : Command :=
  .advertisingSets (.leSetExtendedAdvertisingEnable true [⟨2, 0, 0⟩, ⟨1, 0, 0⟩])

/-- The host sends data that does not fit in the PDUs of set 0. -/
def sendsTooMuch : Command :=
  .advertisingSets (.leSetExtendedAdvertisingData 0 .completeAdvertisement
    ⟨List.replicate 251 0, by rw [List.length_replicate]⟩)

/-- Set 2 gets an address although the command fails for set 1, and set 0 loses the data it
advertises. -/
theorem harmed_by_failure : ∃ tr s, machine.Run (fun _ _ => True) (new 1 {}) tr s ∧
    ¬ s.FailsUnharmed (.at 0) enablesTwo ∧ ¬ s.FailsUnharmed (.at 0) sendsTooMuch := by
  have hx : machine.ExecTo (fun _ s =>
      (∃ r ∈ (s.step (.host enablesTwo)).toOption,
        r.2 = [.event (.status .invalidHciCommandParameters)] ∧
        r.1.extendedAdvertisers[(2 : UInt8)]? ≠ s.extendedAdvertisers[(2 : UInt8)]?) ∧
      ∃ r ∈ (s.step (.host sendsTooMuch)).toOption, r.2 = [.event (.status .packetTooLong)] ∧
        r.1.extendedAdvertisers[(0 : UInt8)]? ≠ s.extendedAdvertisers[(0 : UInt8)]?) (new 1 {})
      threeSets := by
    decide +kernel
  obtain ⟨tr, s, hrun, ⟨r, hr, hfail, haddr⟩, ⟨r', hr', hfail', hdata⟩⟩ :=
    machine.exists_free_run hx
  refine ⟨tr, s, hrun, fun h => ?_, fun h => ?_⟩
  · have hstep : s.step (.host enablesTwo) = .ok
        (r.1, [.event (.status .invalidHciCommandParameters)]) := by
      rw [← hfail]
      exact toOption_eq_some.mp hr
    exact haddr (h.same hstep (by decide) nofun 2)
  · have hstep : s.step (.host sendsTooMuch) = .ok (r'.1, [.event (.status .packetTooLong)]) := by
      rw [← hfail']
      exact toOption_eq_some.mp hr'
    exact hdata (h.same hstep (by decide) (by rintro _ ⟨⟩; rfl) 0)

end LeController

end RootCanal.Gap
