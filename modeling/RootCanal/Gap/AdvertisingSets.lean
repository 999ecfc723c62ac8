import RootCanal.Gap.SetEffects

/-!
# Advertising sets that are enabled, and those that advertise periodically

* `ExtendedAdvertiser.Fit` is what the controller promises of a set that is enabled, and
  `FitForPeriodic` of one whose periodic advertising runs.  A set has this when it is enabled; that
  it keeps it depends on every command about sets.  `Sound` is what all sets have, `sound_step` that
  each step keeps it. **`enabled_sets_fit`: in every state reached, enabled sets are fit and so are
  those with periodic advertising, and the advertising routine does not abort**, if a set has room
  for the data of one command.
* Periodic advertising is to run until it is disabled.  A set that is itself disabled loses it when
  it is removed, when all sets are cleared, or when periodic advertising is enabled again
  (`periodic_advertising_lost`).  **`periodic_advertising_runs`: it runs on while none of these
  happens (`sparesPeriodic`).**

Source: `le_advertiser.cc`
-/

namespace RootCanal.Gap

open Lib RootCanal.Hci

namespace ExtendedAdvertiser

/-- What is promised of an advertising set that is enabled. -/
structure Fit (a : ExtendedAdvertiser) : Prop where
  advertisingData : a.advertisingData.isPartial = false
  scanResponseData : a.scanResponseData.isPartial = false
  advertisingDataLength :
    a.advertisingData.data.length ≤ getMaxAdvertisingDataLength a.advertisingEventProperties
  scanResponseDataLength :
    a.scanResponseData.data.length ≤ getMaxScanResponseDataLength a.advertisingEventProperties
  legacy : a.advertisingEventProperties.legacy = true →
    (legacyAdvertisingType? a.advertisingEventProperties).isSome ∧
    a.advertisingEventProperties.anonymous = false ∧
    a.advertisingEventProperties.includeTxPower = false ∧
    a.advertisingData.data.length ≤ maxLegacyAdvertisingPduSize ∧
    a.scanResponseData.data.length ≤ maxLegacyAdvertisingPduSize
  scannable : a.advertisingEventProperties.legacy = false →
    a.advertisingEventProperties.scannable = true → a.scanResponseData.data ≠ []

/-- What is promised of an advertising set whose periodic advertising runs. -/
structure FitForPeriodic (a : ExtendedAdvertiser) : Prop where
  properties : excludesPeriodic a.advertisingEventProperties = false
  data : a.periodicAdvertisingData.isPartial = false
  interval : a.periodicAdvertisingInterval ≠ 0

/-- The data goes with the properties. -/
structure Consistent (a : ExtendedAdvertiser) : Prop where
  combination : a.advertisingEventProperties.legacy = true →
    (legacyAdvertisingType? a.advertisingEventProperties).isSome ∧
    a.advertisingEventProperties.anonymous = false ∧
      a.advertisingEventProperties.includeTxPower = false
  advertisingData : canHaveAdvertisingData a.advertisingEventProperties = false →
    a.advertisingData.data = []
  scanResponseData : a.advertisingEventProperties.scannable = false → a.scanResponseData.data = []
  legacy : a.advertisingEventProperties.legacy = true →
    a.advertisingData.data.length ≤ maxLegacyAdvertisingPduSize ∧
    a.scanResponseData.data.length ≤ maxLegacyAdvertisingPduSize

/-- What holds of every advertising set. -/
structure Sound (a : ExtendedAdvertiser) : Prop where
  consistent : a.Consistent
  fit : a.advertisingEnable = true → a.Fit
  periodic : a.periodicAdvertisingEnable = true → a.FitForPeriodic

/-- Periodic advertising runs only if it is enabled. -/
def Latched (a : ExtendedAdvertiser) : Prop :=
  a.periodicAdvertisingEnableLatch = true → a.periodicAdvertisingEnable = true

variable {a b : ExtendedAdvertiser} {properties : ControllerProperties} {status : ErrorCode}

/-! ## What each command keeps -/

/-- What is checked of a set that is to be enabled. -/
theorem checkEnable_eq_ok {set} (h : a.checkEnable set = .ok ()) :
    a.advertisingData.isPartial = false ∧ a.scanResponseData.isPartial = false ∧
    (a.advertisingEventProperties.legacy = false → a.advertisingEventProperties.scannable = true →
      a.scanResponseData.data ≠ []) ∧
    (a.advertisingEventProperties.legacy = false → a.advertisingEventProperties.connectable = true →
      a.advertisingData.data.length ≤ getMaxAdvertisingDataLength a.advertisingEventProperties) ∧
    (a.advertisingEventProperties.legacy = false →
      a.advertisingData.data.length ≤ maxExtendedAdvertisingPduSize ∧
      a.scanResponseData.data.length ≤ maxExtendedAdvertisingPduSize) := by
  simp only [checkEnable, bind_eq_ok, require_eq_ok, exists_const, decide_eq_true_eq,
    Bool.not_eq_true'] at h
  obtain ⟨-, ⟨hadv, hscan⟩, hscannable, hconn, hlen⟩ := h
  refine ⟨hadv, hscan, fun hleg hs => ?_, fun hleg hc => ?_, fun hleg => ?_⟩
  · simpa [hleg, hs] using hscannable
  · simpa [hleg, hc] using hconn
  · simpa [hleg] using hlen

/-- A consistent set that passes the checks fits. -/
theorem Consistent.fit {set} (ha : a.Consistent) (h : a.checkEnable set = .ok ()) : a.Fit := by
  obtain ⟨hadv, hscan, hscannable, hconn, hlen⟩ := checkEnable_eq_ok h
  refine ⟨hadv, hscan, ?_, ?_, fun hleg => ?_, hscannable⟩
  · cases hleg : a.advertisingEventProperties.legacy with
    | true =>
      cases hdirected : a.advertisingEventProperties.directed with
      | true => simp [ha.advertisingData (by simp [canHaveAdvertisingData, hleg, hdirected])]
      | false => simpa [getMaxAdvertisingDataLength, hleg, hdirected] using (ha.legacy hleg).1
    | false =>
      cases hs : a.advertisingEventProperties.scannable with
      | true => simp [ha.advertisingData (by simp [canHaveAdvertisingData, hleg, hs])]
      | false =>
        cases hc : a.advertisingEventProperties.connectable with
        | true => exact hconn hleg hc
        | false => simpa [getMaxAdvertisingDataLength, hleg, hs, hc] using (hlen hleg).1
  · cases hs : a.advertisingEventProperties.scannable with
    | false => simp [ha.scanResponseData hs]
    | true =>
      cases hleg : a.advertisingEventProperties.legacy with
      | true => simpa [getMaxScanResponseDataLength, hleg, hs] using (ha.legacy hleg).2
      | false => simpa [getMaxScanResponseDataLength, hleg, hs] using (hlen hleg).2
  · obtain ⟨hsome, hanonymous, htx⟩ := ha.combination hleg
    exact ⟨hsome, hanonymous, htx, ha.legacy hleg⟩

/-- What is checked of the interval, and the set with it. -/
theorem leSetPeriodicAdvertisingParameters_eq_ok {intervalMin intervalMax}
    (h : a.leSetPeriodicAdvertisingParameters intervalMin intervalMax = .ok (b, status)) :
    a.periodicAdvertisingEnable = false ∧
    b = { a with periodicAdvertisingInterval := intervalMax.toNat } := by
  simp only [leSetPeriodicAdvertisingParameters, bind_eq_ok, require_eq_ok, exists_const,
    decide_eq_true_eq, Bool.not_eq_true', Except.ok.injEq, Prod.mk.injEq] at h
  obtain ⟨-, -, hdis, -, rfl, -⟩ := h
  exact ⟨hdis, rfl⟩

/-- Periodic advertising is disabled, or it is enabled after the checks. -/
theorem leSetPeriodicAdvertisingEnable_eq_ok {now : Nat} {enable includeAdi : Bool}
    (h : a.leSetPeriodicAdvertisingEnable properties now enable includeAdi = .ok (b, status)) :
    (enable = false ∧ b = a.disablePeriodic) ∨
    (enable = true ∧ a.FitForPeriodic ∧ b = a.enablePeriodic now) := by
  cases enable with
  | false =>
    cases h
    exact .inl ⟨rfl, rfl⟩
  | true =>
    simp only [leSetPeriodicAdvertisingEnable, Bool.not_true, Bool.false_eq_true,
      if_false, bind_eq_ok, require_eq_ok, exists_const, decide_eq_true_eq, Bool.not_eq_true',
      Except.ok.injEq, Prod.mk.injEq] at h
    obtain ⟨hdata, hint, -, hprops, -, rfl, -⟩ := h
    exact .inr ⟨rfl, ⟨hprops, hdata, hint⟩, rfl⟩

theorem parameters_periodic {parameters}
    (h : a.leSetExtendedAdvertisingParameters parameters = .ok b) :
    b.periodicAdvertisingEnable = a.periodicAdvertisingEnable ∧
    b.periodicAdvertisingEnableLatch = a.periodicAdvertisingEnableLatch := by
  simp only [leSetExtendedAdvertisingParameters, bind_eq_ok, require_eq_ok, exists_const,
    Except.ok.injEq] at h
  obtain ⟨-, -, -, -, -, -, -, -, -, -, -, -, -, -, rfl⟩ := h
  exact ⟨rfl, rfl⟩

/-! What is said of a set depends on its properties and on its data alone. -/

theorem Consistent.congr (ha : a.Consistent)
    (hp : b.advertisingEventProperties = a.advertisingEventProperties)
    (hadv : b.advertisingData = a.advertisingData)
    (hscan : b.scanResponseData = a.scanResponseData) :
    b.Consistent :=
  ⟨by rw [hp]; exact ha.1, by rw [hp, hadv]; exact ha.2, by rw [hp, hscan]; exact ha.3,
    by rw [hp, hadv, hscan]; exact ha.4⟩

theorem Fit.congr (ha : a.Fit) (hp : b.advertisingEventProperties = a.advertisingEventProperties)
    (hadv : b.advertisingData = a.advertisingData)
    (hscan : b.scanResponseData = a.scanResponseData) :
    b.Fit :=
  ⟨by rw [hadv]; exact ha.1, by rw [hscan]; exact ha.2, by rw [hp, hadv]; exact ha.3,
    by rw [hp, hscan]; exact ha.4, by rw [hp, hadv, hscan]; exact ha.5,
    by rw [hp, hscan]; exact ha.6⟩

theorem FitForPeriodic.congr (ha : a.FitForPeriodic)
    (hp : b.advertisingEventProperties = a.advertisingEventProperties)
    (hdata : b.periodicAdvertisingData = a.periodicAdvertisingData)
    (hint : b.periodicAdvertisingInterval = a.periodicAdvertisingInterval) : b.FitForPeriodic :=
  ⟨by rw [hp]; exact ha.1, by rw [hdata]; exact ha.2, by rw [hint]; exact ha.3⟩

/-- A set that is kept stays sound. -/
theorem Sound.keeps (ha : a.Sound) (h : a.Keeps b) : b.Sound where
  consistent := ha.consistent.congr h.advertisingEventProperties h.advertisingData
    h.scanResponseData
  fit hb := (ha.fit (h.advertisingEnable hb)).congr h.advertisingEventProperties h.advertisingData
    h.scanResponseData
  periodic hb := (ha.periodic (h.periodicAdvertisingEnable ▸ hb)).congr h.advertisingEventProperties
    h.periodicAdvertisingData h.periodicAdvertisingInterval

/-- A set that passes the checks is sound when enabled. -/
theorem Sound.enables {set} (ha : a.Sound) (hchk : a.checkEnable set = .ok ()) (h : a.Enables b) :
    b.Sound where
  consistent := ha.consistent.congr h.advertisingEventProperties h.advertisingData
    h.scanResponseData
  fit _ := (ha.consistent.fit hchk).congr h.advertisingEventProperties h.advertisingData
    h.scanResponseData
  periodic hb := (ha.periodic (h.periodicAdvertisingEnable ▸ hb)).congr h.advertisingEventProperties
    h.periodicAdvertisingData h.periodicAdvertisingInterval

/-- A new set is sound. -/
theorem sound_new (handle : UInt8) :
    ({ advertisingHandle := handle } : ExtendedAdvertiser).Sound where
  consistent := ⟨nofun, fun _ => rfl, fun _ => rfl, nofun⟩
  fit := nofun
  periodic := nofun

theorem Sound.parameters {parameters} (ha : a.Sound)
    (h : a.leSetExtendedAdvertisingParameters parameters = .ok b) : b.Sound := by
  simp only [leSetExtendedAdvertisingParameters, bind_eq_ok, require_eq_ok, exists_const,
    decide_eq_true_eq, Bool.not_eq_true', Except.ok.injEq] at h
  obtain ⟨hdis, hleg, hadv, hscan, hlen, -, -, -, -, -, -, -, hperiodic, -, rfl⟩ := h
  refine ⟨⟨fun hl => ?_, fun hcan => ?_, fun hs => ?_, fun hl => ?_⟩, fun hb => ?_, fun hb => ?_⟩
  · simpa [show parameters.advertisingEventProperties.legacy = true from hl] using hleg
  · simpa [show canHaveAdvertisingData parameters.advertisingEventProperties = false from hcan]
      using hadv
  · simpa [show parameters.advertisingEventProperties.scannable = false from hs] using hscan
  · simpa [show parameters.advertisingEventProperties.legacy = true from hl] using hlen
  · rw [show a.advertisingEnable = true from hb] at hdis
    cases hdis
  · obtain ⟨-, hdata, hint⟩ := ha.periodic hb
    exact ⟨by simpa [show a.periodicAdvertisingEnable = true from hb] using hperiodic, hdata, hint⟩

theorem Sound.advertisingData {operation data} (ha : a.Sound)
    (h : a.leSetExtendedAdvertisingData properties operation data = .ok (b, status)) : b.Sound := by
  obtain ⟨hcan, hleg, hena, new, rfl, hnew⟩ := leSetExtendedAdvertisingData_eq_ok h
  -- the data of a legacy set is complete and short, also when it is discarded
  have hshort (hl : a.advertisingEventProperties.legacy = true) : new.data.length ≤
      maxLegacyAdvertisingPduSize := by
    obtain ⟨rfl, hlen⟩ := hleg hl
    cases hnew with
    | exceeded | tooLong => exact Nat.zero_le _
    | taken => exact hlen
  refine ⟨⟨ha.consistent.combination, fun hcannot => ?_, ha.consistent.scanResponseData,
    fun hl => ⟨hshort hl, (ha.consistent.legacy hl).2⟩⟩, fun he => ?_,
    fun hb => (ha.periodic hb).congr rfl rfl rfl⟩
  · rw [show canHaveAdvertisingData a.advertisingEventProperties = false from hcannot] at hcan
    cases hcan
  · have hfit := ha.fit he
    rw [advertisingDataLimit, if_pos he] at hnew
    have hnew : new.isPartial = false ∧
        new.data.length ≤ getMaxAdvertisingDataLength a.advertisingEventProperties := by
      cases hnew with
      | exceeded | tooLong => exact ⟨rfl, Nat.zero_le _⟩
      | taken _ hlen =>
        refine ⟨?_, hlen⟩
        obtain rfl | ⟨rfl, -⟩ := hena he
        · rfl
        · exact hfit.advertisingData
    exact ⟨hnew.1, hfit.scanResponseData, hnew.2, hfit.scanResponseDataLength,
      fun hl => ⟨(hfit.legacy hl).1, (hfit.legacy hl).2.1, (hfit.legacy hl).2.2.1, hshort hl,
        (hfit.legacy hl).2.2.2.2⟩, hfit.scannable⟩

theorem Sound.scanResponseData {operation data} (hdata : data.length ≤ 251)
    (hroom : 251 ≤ properties.leMaxAdvertisingDataLength.toNat) (ha : a.Sound)
    (h : a.leSetExtendedScanResponseData properties operation data = .ok (b, status)) :
    b.Sound := by
  obtain ⟨hscan, hleg, hena, hkeep, new, rfl, hnew⟩ := leSetExtendedScanResponseData_eq_ok h
  -- there is room for what comes in one command
  have hcomp (ho : operation = .completeAdvertisement) : new = ⟨data, false⟩ := by
    subst ho
    cases hnew with
    | exceeded hlen => exact absurd (le_trans hdata hroom) (Nat.not_le.mpr hlen)
    | tooLong _ hlen => exact absurd (le_trans hdata (by decide)) (Nat.not_le.mpr hlen)
    | taken => rfl
  have hemp (hs : a.advertisingEventProperties.scannable = false) : new.data = [] := by
    obtain ⟨ho, hdata⟩ := hscan hs
    simp [hcomp ho, hdata]
  have hshort (hl : a.advertisingEventProperties.legacy = true) : new.data.length ≤
      maxLegacyAdvertisingPduSize := by
    by_cases hs : a.advertisingEventProperties.scannable = true
    · obtain ⟨ho, hlen⟩ := hleg hs hl
      simpa [hcomp ho] using hlen
    · simp [hemp (by simpa using hs)]
  refine ⟨⟨ha.consistent.combination, ha.consistent.advertisingData, hemp,
    fun hl => ⟨(ha.consistent.legacy hl).1, hshort hl⟩⟩, fun he => ?_,
    fun hb => (ha.periodic hb).congr rfl rfl rfl⟩
  have hfit := ha.fit he
  have hnew := hcomp (hena he)
  refine ⟨hfit.advertisingData, by simp [hnew], hfit.advertisingDataLength, ?_,
    fun hl => ⟨(hfit.legacy hl).1, (hfit.legacy hl).2.1, (hfit.legacy hl).2.2.1,
      (hfit.legacy hl).2.2.2.1, hshort hl⟩, fun hl hs => ?_⟩
  · by_cases hs : a.advertisingEventProperties.scannable = true
    · by_cases hl : a.advertisingEventProperties.legacy = true
      · simpa [getMaxScanResponseDataLength, hs, hl] using hshort hl
      · simp only [hnew, getMaxScanResponseDataLength, hs, hl, maxExtendedAdvertisingPduSize]
        simpa using le_trans hdata (by decide)
    · simp [hemp (by simpa using hs)]
  · simpa [hnew] using hkeep he hs hl

theorem Sound.periodicParameters {intervalMin intervalMax} (ha : a.Sound)
    (h : a.leSetPeriodicAdvertisingParameters intervalMin intervalMax = .ok (b, status)) :
    b.Sound := by
  obtain ⟨hdis, rfl⟩ := leSetPeriodicAdvertisingParameters_eq_ok h
  refine ⟨ha.consistent.congr rfl rfl rfl, fun he => (ha.fit he).congr rfl rfl rfl, fun hb => ?_⟩
  rw [show a.periodicAdvertisingEnable = true from hb] at hdis
  cases hdis

theorem Sound.periodicData {operation data} (ha : a.Sound)
    (h : a.leSetPeriodicAdvertisingData properties operation data = .ok (b, status)) : b.Sound := by
  obtain ⟨hena, new, rfl, hnew⟩ := leSetPeriodicAdvertisingData_eq_ok h
  refine ⟨ha.consistent.congr rfl rfl rfl, fun he => (ha.fit he).congr rfl rfl rfl, fun hb => ?_⟩
  obtain ⟨hprops, hdata, hint⟩ := ha.periodic hb
  refine ⟨hprops, ?_, hint⟩
  cases hnew with
  | exceeded | tooLong => rfl
  | taken =>
    obtain rfl | rfl := hena hb
    · rfl
    · exact hdata

/-- Data commands keep a set sound. -/
theorem Sound.data {d} (hroom : 251 ≤ properties.leMaxAdvertisingDataLength.toNat)
    (ha : a.Sound) (h : a.setData properties d = .ok (b, status)) : b.Sound := by
  obtain ⟨k, handle, operation, data, hfits⟩ := d
  cases k with
  | advertising => exact ha.advertisingData h
  | scanResponse => exact ha.scanResponseData hfits hroom h
  | periodic => exact ha.periodicData h

/-- Periodic advertising keeps a set sound. -/
theorem Sound.periodicEnable {now : Nat} {enable includeAdi : Bool} (ha : a.Sound)
    (h : a.leSetPeriodicAdvertisingEnable properties now enable includeAdi = .ok (b, status)) :
    b.Sound := by
  obtain ⟨-, rfl⟩ | ⟨-, hfit, rfl⟩ := leSetPeriodicAdvertisingEnable_eq_ok h
  · exact ⟨ha.consistent.congr rfl rfl rfl, fun he => (ha.fit he).congr rfl rfl rfl, nofun⟩
  · exact ⟨ha.consistent.congr rfl rfl rfl, fun he => (ha.fit he).congr rfl rfl rfl, fun _ =>
      hfit.congr rfl rfl rfl⟩

end ExtendedAdvertiser

namespace LeController

variable {s s' : LeController} {i : Input} {out : List Output} {handle : UInt8}

/-! ## Every set is sound -/

/-- A step keeps a set sound. -/
theorem SetStep.sound {o o'}
    (hroom : 251 ≤ s.properties.leMaxAdvertisingDataLength.toNat) (h : SetStep s i handle o o')
    (ho : ∀ a ∈ o, a.Sound) : ∀ b ∈ o', b.Sound := by
  intro b hb
  cases h with
  | absent | reset | removed | cleared => cases hb
  | kept a _ hkeep =>
    cases hb
    exact (ho a rfl).keeps hkeep
  | parameters o _ parameters _ hok =>
    cases hb
    cases o with
    | none => exact (ExtendedAdvertiser.sound_new handle).parameters hok
    | some a => exact (ho a rfl).parameters hok
  | data a _ _ _ _ _ _ _ hok =>
    cases hb
    exact (ho a rfl).data hroom hok
  | periodicParameters a _ _ _ _ hok =>
    cases hb
    exact (ho a rfl).periodicParameters hok
  | periodicEnable a _ _ _ _ _ hok =>
    cases hb
    exact (ho a rfl).periodicEnable hok
  | enabled a _ _ hchk henables =>
    cases hb
    exact (ho a rfl).enables hchk henables

theorem sound_step (hroom : 251 ≤ s.properties.leMaxAdvertisingDataLength.toNat)
    (hs : s.extendedAdvertisers.Every ExtendedAdvertiser.Sound) (h : s.step i = .ok (s', out)) :
    s'.extendedAdvertisers.Every ExtendedAdvertiser.Sound :=
  fun handle b hb => (set_step h handle).sound hroom (fun a ha => hs handle a ha) b hb

/-- **The sets of a run are sound**. -/
theorem sound_run {C own properties tr} (hroom : 251 ≤ properties.leMaxAdvertisingDataLength.toNat)
    (h : machine.Run C (new own properties) tr s) :
    s.extendedAdvertisers.Every ExtendedAdvertiser.Sound := by
  refine (h.invariant (fun s => s.properties = properties ∧
    s.extendedAdvertisers.Every ExtendedAdvertiser.Sound) ⟨rfl, HashMap.every_empty⟩ ?_).2
  intro s i s' out ⟨hprops, hs⟩ _ hstep
  exact ⟨(effect_of_step hstep).properties.2.trans hprops, sound_step (hprops ▸ hroom) hs hstep⟩

/-! ## The latch of periodic advertising -/

theorem SetStep.latched {o o'} (h : SetStep s i handle o o') (ho : ∀ a ∈ o, a.Latched) :
    ∀ b ∈ o', b.Latched := by
  intro b hb
  cases h with
  | absent | reset | removed | cleared => cases hb
  | kept a _ hkeep =>
    cases hb
    unfold ExtendedAdvertiser.Latched
    rw [hkeep.periodicAdvertisingEnableLatch, hkeep.periodicAdvertisingEnable]
    exact ho a rfl
  | parameters o _ _ _ hok =>
    cases hb
    obtain ⟨hena, hlatch⟩ := ExtendedAdvertiser.parameters_periodic hok
    unfold ExtendedAdvertiser.Latched
    rw [hena, hlatch]
    cases o with
    | none => nofun
    | some a => exact ho a rfl
  | data a _ _ _ d _ _ _ hok =>
    cases hb
    obtain ⟨new, rfl, -⟩ := ExtendedAdvertiser.setData_eq_ok hok
    unfold ExtendedAdvertiser.Latched
    rw [(a.withBuffer_periodic new d.kind).1, (a.withBuffer_periodic new d.kind).2]
    exact ho a rfl
  | periodicParameters a _ _ _ _ hok =>
    cases hb
    obtain ⟨-, rfl⟩ := ExtendedAdvertiser.leSetPeriodicAdvertisingParameters_eq_ok hok
    exact ho a rfl
  | periodicEnable _ _ _ _ _ _ hok =>
    cases hb
    obtain ⟨-, rfl⟩ | ⟨-, -, rfl⟩ := ExtendedAdvertiser.leSetPeriodicAdvertisingEnable_eq_ok hok
    · nofun
    · exact fun _ => rfl
  | enabled _ _ _ _ henables =>
    cases hb
    unfold ExtendedAdvertiser.Latched
    rw [henables.periodicAdvertisingEnableLatch, henables.periodicAdvertisingEnable]
    exact fun hb => hb

/-- Periodic advertising runs only where it is enabled. -/
theorem latched_run {C own properties tr} (h : machine.Run C (new own properties) tr s) :
    s.extendedAdvertisers.Every ExtendedAdvertiser.Latched := by
  refine h.invariant (fun s => s.extendedAdvertisers.Every ExtendedAdvertiser.Latched)
    HashMap.every_empty ?_
  intro s i s' out hs _ hstep handle b hb
  exact (set_step hstep handle).latched (fun a ha => hs handle a ha) b hb

/-! ## The advertising routine -/

/-- The PDU of a set has a type. -/
theorem setPdu_eq_ok {a} (ha : a.Consistent) : ∃ pdu, setPdu a = .ok pdu := by
  unfold setPdu
  dsimp only
  split
  · rename_i hleg
    obtain ⟨type, htype⟩ := Option.isSome_iff_exists.mp (ha.combination hleg).1
    exact ⟨_, bind_eq_ok.mpr ⟨type, assertSome_eq_ok.mpr htype, rfl⟩⟩
  · exact ⟨_, rfl⟩

theorem advertisingEvent_eq_ok {a} (ha : a.Consistent) (now : Nat) :
    ∃ r, advertisingEvent now a = .ok r := by
  unfold advertisingEvent
  split
  · obtain ⟨pdu, hpdu⟩ := setPdu_eq_ok ha
    exact ⟨_, bind_eq_ok.mpr ⟨pdu, hpdu, rfl⟩⟩
  · exact ⟨_, rfl⟩

theorem advertiseSet_eq_ok {a} (ha : a.Sound) (now : Nat) : ∃ r, s.advertiseSet now a = .ok r := by
  have hpre := ha.keeps ((keeps_expireSet (s := s) now a).trans (keeps_exhaustSet (s := s) _))
  obtain ⟨r, hr⟩ := advertisingEvent_eq_ok hpre.consistent now
  exact ⟨_, bind_eq_ok.mpr ⟨r, hr, rfl⟩⟩

theorem advertiseSets_eq_ok (now : Nat) {handles sets}
    (hsets : sets.Every ExtendedAdvertiser.Sound) :
    ∃ r, s.advertiseSets now sets handles = .ok r := by
  induction handles generalizing sets with
  | nil => exact ⟨_, rfl⟩
  | cons handle _ ih =>
    unfold advertiseSets
    cases ha : sets[handle]? with
    | none => exact ih hsets
    | some a =>
      have hsound := hsets handle a ha
      obtain ⟨b, hb⟩ := advertiseSet_eq_ok (s := s) hsound now
      obtain ⟨r, hr⟩ := ih (hsets.insert (hsound.keeps (keeps_advertiseSet _ hb)))
      exact ⟨_, bind_eq_ok.mpr ⟨b, hb, bind_eq_ok.mpr ⟨r, hr, rfl⟩⟩⟩

/-- Sound sets advertise without a panic. -/
theorem leAdvertising_eq_ok
    (hs : s.extendedAdvertisers.Every ExtendedAdvertiser.Sound) (env : Env) :
    Returns (s.leAdvertising env) := by
  obtain ⟨r, hr⟩ := advertiseSets_eq_ok (s := s) env.now hs
  exact ⟨_, bind_eq_ok.mpr ⟨r, hr, rfl⟩⟩

/-- **Enabled sets are fit, and so are those with periodic advertising; the advertising routine does
not abort.** -/
theorem enabled_sets_fit {own : Address} {properties : ControllerProperties}
    {tr : List (Input × List Output)} (hroom : 251 ≤ properties.leMaxAdvertisingDataLength.toNat)
    (h : machine.Run (fun _ _ => True) (new own properties) tr s) :
    (∀ (handle : UInt8) a, s.extendedAdvertisers[handle]? = some a →
      (a.advertisingEnable = true → a.Fit) ∧
      (a.periodicAdvertisingEnableLatch = true → a.FitForPeriodic)) ∧
    ∀ env, Returns (s.leAdvertising env) := by
  have hs := sound_run hroom h
  refine ⟨fun handle a ha => ?_, leAdvertising_eq_ok hs⟩
  have hsound := hs handle a ha
  exact ⟨hsound.fit, fun hlatch => hsound.periodic (latched_run h handle a ha hlatch)⟩

/-- Non-connectable and non-scannable advertising. -/
def periodicParameters : ExtendedAdvertisingParameters :=
  ⟨{}, 0x20, 0x20, 0x7, .publicDeviceAddress, .publicDeviceOrIdentityAddress, 0, .allDevices, 0,
    .le1m, .le1m, 0⟩

/-- The host starts a set with periodic advertising. -/
def startsPeriodic : List Input :=
  [.host (.advertisingSets (.leSetExtendedAdvertisingParameters 0 periodicParameters)),
    .host (.advertisingSets (.leSetPeriodicAdvertisingParameters 0 6 6)),
    .host (.advertisingSets (.leSetPeriodicAdvertisingEnable true false 0)),
    .host (.advertisingSets (.leSetExtendedAdvertisingEnable true [⟨0, 0, 0⟩]))]

/-- A set that is enabled and advertises periodically. -/
theorem enabled_sets_fit_periodic : ∃ tr s, machine.Run (fun _ _ => True) (new 1 {}) tr s ∧
    ∃ a, s.extendedAdvertisers[(0 : UInt8)]? = some a ∧ a.advertisingEnable = true ∧ a.Fit ∧
      a.periodicAdvertisingEnableLatch = true ∧ a.FitForPeriodic := by
  have hx : machine.ExecTo (fun _ s => ∃ a ∈ s.extendedAdvertisers[(0 : UInt8)]?,
      a.advertisingEnable = true ∧ a.periodicAdvertisingEnableLatch = true)
        (new 1 {}) startsPeriodic := by
    decide +kernel
  obtain ⟨tr, s, hrun, a, ha, hena, hlatch⟩ := machine.exists_free_run hx
  obtain ⟨hfit, hperiodic⟩ := (enabled_sets_fit (by decide) hrun).1 0 a ha
  exact ⟨tr, s, hrun, a, ha, hena, hfit hena, hlatch, hperiodic hlatch⟩

/-! ## How long periodic advertising runs -/

/-- Periodic advertising of the set runs. -/
def periodicRuns (s : LeController) (handle : UInt8) : Bool :=
  s.extendedAdvertisers[handle]?.any (·.periodicAdvertisingEnableLatch)

/-- The set is enabled. -/
def isAdvertising (s : LeController) (handle : UInt8) : Bool :=
  s.extendedAdvertisers[handle]?.any (·.advertisingEnable)

/-- What is meant to end the periodic advertising of a set. -/
def endsPeriodic (handle : UInt8) (i : Input) : Bool :=
  match i.action with
  | .command .reset => true
  | .command (.advertisingSets (.leSetPeriodicAdvertisingEnable false _ h)) => h = handle
  | _ => false

/-- What would end it otherwise is done only while the set is enabled, or any set for the clearing
of all. -/
def sparesPeriodic (handle : UInt8) (s : LeController) (i : Input) : Bool :=
  match i.action with
  | .command (.advertisingSets (.leRemoveAdvertisingSet h)) => h ≠ handle || s.isAdvertising handle
  | .command (.advertisingSets .leClearAdvertisingSets) =>
    s.extendedAdvertisers.any fun _ advertiser => advertiser.advertisingEnable
  | .command (.advertisingSets (.leSetPeriodicAdvertisingEnable true _ h)) =>
    h ≠ handle || s.isAdvertising handle
  | _ => true

theorem SetStep.periodicRuns {a o} (h : SetStep s i handle (some a) o)
    (ha : s.extendedAdvertisers[handle]? = some a)
    (hlatched : a.Latched) (hruns : a.periodicAdvertisingEnableLatch = true)
    (hends : endsPeriodic handle i = false) (hsp : sparesPeriodic handle s i = true) :
    o.any (·.periodicAdvertisingEnableLatch) = true := by
  cases h with
  | kept _ _ hkeep => exact hkeep.periodicAdvertisingEnableLatch.trans hruns
  | reset _ hi => simp [endsPeriodic, hi] at hends
  | removed _ hi hdis => simp [sparesPeriodic, hi, isAdvertising, ha, hdis] at hsp
  | cleared _ hi hdis =>
    simp only [sparesPeriodic, hi] at hsp
    rw [hdis] at hsp
    cases hsp
  | parameters _ _ _ _ hok => exact (ExtendedAdvertiser.parameters_periodic hok).2.trans hruns
  | data a _ _ _ d _ _ _ hok =>
    obtain ⟨new, rfl, -⟩ := ExtendedAdvertiser.setData_eq_ok hok
    exact (a.withBuffer_periodic new d.kind).2.trans hruns
  | periodicParameters _ _ _ _ _ hok =>
    obtain ⟨-, rfl⟩ := ExtendedAdvertiser.leSetPeriodicAdvertisingParameters_eq_ok hok
    exact hruns
  | periodicEnable a _ _ _ _ hi hok =>
    obtain ⟨rfl, -⟩ | ⟨rfl, -, rfl⟩ := ExtendedAdvertiser.leSetPeriodicAdvertisingEnable_eq_ok hok
    · simp [endsPeriodic, hi] at hends
    · -- the latch is set to what the set is
      have hen : a.advertisingEnable = true := by
        simpa [sparesPeriodic, hi, isAdvertising, ha] using hsp
      exact hen
  | enabled _ _ _ _ henables => exact henables.periodicAdvertisingEnableLatch.trans (hlatched hruns)

/-- **Periodic advertising runs on until it is disabled or the controller reset**, if the set is
enabled whenever it would be removed, cleared or given periodic advertising again. -/
theorem periodic_advertising_runs {own : Address} {properties : ControllerProperties}
    {tr tr' : List (Input × List Output)}
    (h : machine.Run (fun _ _ => True) (new own properties) tr s)
    (hruns : s.periodicRuns handle = true)
    (h' : machine.Run (fun s i => endsPeriodic handle i = false ∧ sparesPeriodic handle s i = true)
      s tr' s') : s'.periodicRuns handle = true := by
  refine (h'.invariant (fun s => s.extendedAdvertisers.Every ExtendedAdvertiser.Latched ∧
    s.periodicRuns handle = true) ⟨latched_run h, hruns⟩ ?_).2
  rintro s i s' out ⟨hlatched, hruns⟩ ⟨hends, hsp⟩ hstep
  obtain ⟨a, ha, hlatch⟩ := (Option.any_eq_true _ _).mp hruns
  have hset := set_step hstep handle
  refine ⟨fun k b hb => (set_step hstep k).latched (fun a ha => hlatched k a ha) b hb, ?_⟩
  rw [ha] at hset
  exact hset.periodicRuns ha (hlatched handle a ha) hlatch hends hsp

/-- The host disables the set and gives it other periodic advertising data. -/
def disablesSet : List Input :=
  [.host (.advertisingSets (.leSetExtendedAdvertisingEnable false [⟨0, 0, 0⟩])),
    .host
      (.advertisingSets
      (.leSetPeriodicAdvertisingData 0 .completeAdvertisement ⟨[1, 2], by decide⟩))]

/-- It advertises periodically all the same. -/
theorem periodic_advertising_runs_disabled : ∃ tr s tr' s',
    machine.Run (fun _ _ => True) (new 1 {}) tr s ∧ s.periodicRuns 0 = true ∧
    machine.Run (fun s i => endsPeriodic 0 i = false ∧ sparesPeriodic 0 s i = true) s tr' s' ∧
    s'.isAdvertising 0 = false ∧ s'.periodicRuns 0 = true := by
  have hx : machine.ExecTo (fun _ s => s.periodicRuns 0 = true ∧
      machine.Meets (fun s i => endsPeriodic 0 i = false ∧ sparesPeriodic 0 s i = true) s
        disablesSet ∧
      machine.ExecTo (fun _ s' => s'.isAdvertising 0 = false) s disablesSet)
        (new 1 {}) startsPeriodic := by
    decide +kernel
  obtain ⟨tr, s, hrun, hruns, hmeets, hx'⟩ := machine.exists_free_run hx
  obtain ⟨tr', s', hrun', hdis⟩ := machine.exists_run hmeets hx'
  exact ⟨tr, s, tr', s', hrun, hruns, hrun', hdis, periodic_advertising_runs hrun hruns hrun'⟩

/-- A set that is disabled loses its periodic advertising when it is removed, when all sets are
cleared, and when periodic advertising is enabled once more. -/
theorem periodic_advertising_lost :
    ∃ tr s, machine.Run (fun _ _ => True) (new 1 {}) tr s ∧ s.periodicRuns 0 = true ∧
    ∀ c ∈ [AdvertisingSetCommand.leRemoveAdvertisingSet 0, .leClearAdvertisingSets,
      .leSetPeriodicAdvertisingEnable true false 0],
    ∃ r ∈ (s.step (.host (.advertisingSets c))).toOption,
      r.2 = [.event (.status .success)] ∧ r.1.periodicRuns 0 = false := by
  exact machine.exists_run
    (show machine.Meets _ _ (startsPeriodic ++ disablesSet) from by decide +kernel)
    (by decide +kernel)

end LeController

end RootCanal.Gap
