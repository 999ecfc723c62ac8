import RootCanal.Gap.Effects
import RootCanal.Gap.SetData

/-!
# What a step does to one advertising set

`SetStep s i handle o o'` lists what a step can make of the set of a handle, from nothing to nothing
or from a set to a set: one case for each command about a set, and `kept` for whatever changes only
its schedule, its addresses, or disables it (`ExtendedAdvertiser.Keeps`).  **`set_step`: every step
does one of these to each handle.**  The loops over several sets (enabling a list of them,
disabling, the advertising routine) are each reduced to what they do at one handle.

Source: `le_advertiser.cc`
-/

namespace RootCanal.Gap

open Lib RootCanal.Hci

namespace ExtendedAdvertiser

/-- The set `b` is `a` with another schedule or other addresses, and it may be disabled. -/
structure Keeps (a b : ExtendedAdvertiser) : Prop where
  advertisingEnable : b.advertisingEnable = true → a.advertisingEnable = true
  advertisingEventProperties : b.advertisingEventProperties = a.advertisingEventProperties
  advertisingData : b.advertisingData = a.advertisingData
  scanResponseData : b.scanResponseData = a.scanResponseData
  periodicAdvertisingEnable : b.periodicAdvertisingEnable = a.periodicAdvertisingEnable
  periodicAdvertisingEnableLatch : b.periodicAdvertisingEnableLatch =
    a.periodicAdvertisingEnableLatch
  periodicAdvertisingInterval : b.periodicAdvertisingInterval = a.periodicAdvertisingInterval
  periodicAdvertisingData : b.periodicAdvertisingData = a.periodicAdvertisingData

/-- The set `b` is `a` when it is enabled: periodic advertising runs from now on if it is
enabled. -/
structure Enables (a b : ExtendedAdvertiser) : Prop where
  advertisingEnable : b.advertisingEnable = true
  advertisingEventProperties : b.advertisingEventProperties = a.advertisingEventProperties
  advertisingData : b.advertisingData = a.advertisingData
  scanResponseData : b.scanResponseData = a.scanResponseData
  periodicAdvertisingEnable : b.periodicAdvertisingEnable = a.periodicAdvertisingEnable
  periodicAdvertisingEnableLatch : b.periodicAdvertisingEnableLatch = a.periodicAdvertisingEnable
  periodicAdvertisingInterval : b.periodicAdvertisingInterval = a.periodicAdvertisingInterval
  periodicAdvertisingData : b.periodicAdvertisingData = a.periodicAdvertisingData

variable {a b c : ExtendedAdvertiser}

theorem Keeps.refl (a : ExtendedAdvertiser) : a.Keeps a :=
  ⟨fun h => h, rfl, rfl, rfl, rfl, rfl, rfl, rfl⟩

theorem Keeps.trans (hab : a.Keeps b) (hbc : b.Keeps c) : a.Keeps c :=
  ⟨fun h => hab.1 (hbc.1 h), hbc.2.trans hab.2, hbc.3.trans hab.3, hbc.4.trans hab.4,
    hbc.5.trans hab.5, hbc.6.trans hab.6, hbc.7.trans hab.7, hbc.8.trans hab.8⟩

theorem Enables.trans (hab : a.Enables b) (hbc : b.Enables c) : a.Enables c :=
  ⟨hbc.1, hbc.2.trans hab.2, hbc.3.trans hab.3, hbc.4.trans hab.4, hbc.5.trans hab.5,
    hbc.6.trans hab.5, hbc.7.trans hab.7, hbc.8.trans hab.8⟩

/-- A set with other addresses. -/
def readdress (a : ExtendedAdvertiser) (advertisingAddress targetAddress : AddressWithType) :
    ExtendedAdvertiser :=
  { a with advertisingAddress, targetAddress }

theorem keeps_readdress (a : ExtendedAdvertiser) (x y : AddressWithType) :
    a.Keeps (a.readdress x y) :=
  ⟨fun h => h, rfl, rfl, rfl, rfl, rfl, rfl, rfl⟩

theorem Enables.of_readdress {x y : AddressWithType} (h : (a.readdress x y).Enables b) :
    a.Enables b :=
  ⟨h.1, h.2, h.3, h.4, h.5, h.6, h.7, h.8⟩

theorem keeps_disable (a : ExtendedAdvertiser) : a.Keeps a.disable :=
  ⟨nofun, rfl, rfl, rfl, rfl, rfl, rfl, rfl⟩

end ExtendedAdvertiser

namespace LeController

variable {s s' : LeController} {env : Env} {i : Input} {out : List Output} {handle : UInt8}

/-! ## Loops over sets, at one handle -/

/-- A set that passes the checks gets its addresses. -/
theorem prepareSet_ok {n set a} : Yields (s.prepareSet env n set a) fun b =>
    a.checkEnable set = .ok () ∧ ∃ x y, b = a.readdress x y :=
  .bind fun _ hchk => .bind fun _ _ => .ok ⟨hchk, _, _, rfl⟩

variable {status : ErrorCode}

/-- A failed check has a status other than success. -/
theorem require_ne_success {b : Bool} (h : status ≠ .success) :
    require b status ≠ .error .success := by
  cases b with
  | true => nofun
  | false =>
    intro heq
    cases heq
    exact h rfl

theorem require_bind_ne_success {α : Type} {b : Bool} {f : Unit → Except ErrorCode α}
    (h : status ≠ .success) (hf : ∀ u, f u ≠ .error .success) : (require b status >>= f) ≠
      .error .success :=
  bind_ne_error_iff.mpr ⟨require_ne_success h, fun u _ => hf u⟩

/-- The checks of a set never fail with success. -/
theorem checkEnable_ne_success (set : EnabledSet) (a : ExtendedAdvertiser) :
    a.checkEnable set ≠ .error .success := by
  iterate 4 refine require_bind_ne_success (by decide) fun _ => ?_
  exact require_ne_success (by decide)

/-- The choice of an address never fails with success. -/
theorem chooseAdvertisingAddress_ne_success (own : OwnAddressType) (randomAddress : Address)
    (resolvable : Option AddressWithType) :
    s.chooseAdvertisingAddress own randomAddress resolvable ≠ .error .success := by
  unfold chooseAdvertisingAddress
  split
  · nofun
  · exact require_bind_ne_success (by decide) fun _ => nofun
  · nofun
  · split
    · nofun
    · exact require_bind_ne_success (by decide) fun _ => nofun

/-- Preparing a set never fails with success. -/
theorem prepareSet_ne_success (n : Nat) (set : EnabledSet) (a : ExtendedAdvertiser) :
    s.prepareSet env n set a ≠ .error .success := by
  refine bind_ne_error_iff.mpr ⟨checkEnable_ne_success set a, fun _ _ => ?_⟩
  exact map_ne_error_iff.mpr (chooseAdvertisingAddress_ne_success _ _ _)

/-- What preparing a list of sets makes of one: it gets addresses, and if all of them could be
prepared then it was checked, should it be one of them. -/
def Prepared (list : List EnabledSet) (handle : UInt8) (status : ErrorCode)
    (o o' : Option ExtendedAdvertiser) : Prop :=
  (o = none ∧ o' = none) ∨ ∃ a x y, o = some a ∧ o' = some (a.readdress x y) ∧
    (status = .success → ∀ set ∈ list, set.advertisingHandle = handle → a.checkEnable set = .ok ())

/-- Where the loop stops, the sets are as they are. -/
theorem Prepared.stop {list} (o : Option ExtendedAdvertiser) (h : status = .success → list = []) :
    Prepared list handle status o o := by
  cases o with
  | none => exact .inl ⟨rfl, rfl⟩
  | some a =>
    refine .inr ⟨a, a.advertisingAddress, a.targetAddress, rfl, rfl, fun hok set hset => ?_⟩
    rw [h hok] at hset
    cases hset

/-- What is prepared of a set. -/
theorem prepareSets_getElem? (s : LeController) (env : Env) (list : List EnabledSet) (n : Nat)
    (sets : Sets) (handle : UInt8) :
    Prepared list handle (s.prepareSets env n sets list).2 sets[handle]?
      (s.prepareSets env n sets list).1[handle]? := by
  induction list generalizing n sets with
  | nil => exact .stop _ fun _ => rfl
  | cons set _ ih =>
    cases hset : sets[set.advertisingHandle]? with
    | none =>
      simp only [prepareSets, hset]
      refine .stop _ ?_
      rintro ⟨⟩
    | some a =>
      cases hprep : s.prepareSet env n set a with
      | error =>
        simp only [prepareSets, hset, hprep]
        refine .stop _ ?_
        rintro rfl
        exact absurd hprep (prepareSet_ne_success n set a)
      | ok =>
        simp only [prepareSets, hset, hprep]
        obtain ⟨hchk, _, _, rfl⟩ := prepareSet_ok _ hprep
        rcases ih (n + 1) (sets.insert set.advertisingHandle _)
          with ⟨hn, hres⟩ | ⟨a', x, y, hsome, hres, hchecked⟩
        · rw [HashMap.getElem?_insert'] at hn
          split at hn
          · cases hn
          · exact .inl ⟨hn, hres⟩
        · rw [HashMap.getElem?_insert'] at hsome
          split at hsome
          · rename_i hh
            cases hsome
            refine .inr ⟨a, x, y, hh ▸ hset, hres, fun hok set' hset' heq => ?_⟩
            rcases List.mem_cons.mp hset' with rfl | hrs
            · exact hchk
            · exact hchecked hok set' hrs heq
          · rename_i hh
            refine .inr ⟨a', x, y, hsome, hres, fun hok set' hset' heq => ?_⟩
            rcases List.mem_cons.mp hset' with rfl | hrs
            · exact absurd heq hh
            · exact hchecked hok set' hrs heq

variable {a : ExtendedAdvertiser}

/-- Enabling a list of sets enables those of the list. -/
theorem enableSets_getElem? (now : Nat) (list : List EnabledSet) (sets : Sets)
    (ha : sets[handle]? = some a) : (list.foldl (enableSet now) sets)[handle]? = some a ∨
    ∃ b, (list.foldl (enableSet now) sets)[handle]? = some b ∧ a.Enables b ∧
      ∃ set ∈ list, set.advertisingHandle = handle := by
  induction list generalizing sets a with
  | nil => exact .inl ha
  | cons set _ ih =>
    have hget : (enableSet now sets set)[handle]? =
        if set.advertisingHandle = handle then sets[set.advertisingHandle]?.map _
          else sets[handle]? :=
      HashMap.getElem?_modify' ..
    by_cases hh : set.advertisingHandle = handle
    · rw [if_pos hh, hh, ha] at hget
      obtain ⟨b, hb, henables⟩ : ∃ b, (enableSet now sets set)[handle]? = some b ∧ a.Enables b :=
        ⟨_, hget, rfl, rfl, rfl, rfl, rfl, rfl, rfl, rfl⟩
      rcases ih (enableSet now sets set) hb with hsame | ⟨c, hc, hrs, -⟩
      · exact .inr ⟨b, hsame, henables, set, List.mem_cons_self .., hh⟩
      · exact .inr ⟨c, hc, henables.trans hrs, set, List.mem_cons_self .., hh⟩
    · rw [if_neg hh, ha] at hget
      rcases ih (enableSet now sets set) hget with hsame | ⟨b, hb, hrs, set', hset', heq⟩
      · exact .inl hsame
      · exact .inr ⟨b, hb, hrs, set', List.mem_cons_of_mem _ hset', heq⟩

theorem enableSets_getElem?_none (now : Nat) (list : List EnabledSet) (sets : Sets)
    (ha : sets[handle]? = none) : (list.foldl (enableSet now) sets)[handle]? = none := by
  induction list generalizing sets with
  | nil => exact ha
  | cons _ _ ih =>
    refine ih _ ?_
    unfold enableSet
    rw [HashMap.getElem?_modify']
    split
    · rename_i hh
      rw [hh, ha]
      rfl
    · exact ha

/-- A set may be disabled, and is kept. -/
def KeptOrAbsent (o o' : Option ExtendedAdvertiser) : Prop :=
  (o = none ∧ o' = none) ∨ ∃ a b, o = some a ∧ o' = some b ∧ a.Keeps b

theorem KeptOrAbsent.kept {a b} (h : a.Keeps b) : KeptOrAbsent (some a) (some b) :=
  .inr ⟨a, b, rfl, rfl, h⟩

theorem KeptOrAbsent.refl : (o : Option ExtendedAdvertiser) → KeptOrAbsent o o
  | none => .inl ⟨rfl, rfl⟩
  | some a => .kept (.refl a)

theorem KeptOrAbsent.trans {o o' o''} (h : KeptOrAbsent o o') (h' : KeptOrAbsent o' o'') :
    KeptOrAbsent o o'' := by
  obtain ⟨rfl, rfl⟩ | ⟨a, b, rfl, rfl, hab⟩ := h
  · exact h'
  · obtain ⟨⟨⟩, -⟩ | ⟨_, c, ⟨⟩, rfl, hbc⟩ := h'
    exact .kept (hab.trans hbc)

/-- Disabling a set keeps its data. -/
theorem disableSet_getElem? (sets : Sets) (h handle : UInt8) :
    KeptOrAbsent sets[handle]? (disableSet sets h)[handle]? := by
  unfold disableSet
  rw [HashMap.getElem?_modify']
  split
  · rename_i hh
    rw [hh]
    cases sets[handle]? with
    | none => exact .refl none
    | some a => exact .kept a.keeps_disable
  · exact .refl _

/-- Disabling sets keeps their data. -/
theorem disableSets_getElem? (handles : List UInt8) (sets : Sets) (handle : UInt8) :
    KeptOrAbsent sets[handle]? (handles.foldl disableSet sets)[handle]? := by
  induction handles generalizing sets with
  | nil => exact .refl _
  | cons h _ ih => exact (disableSet_getElem? sets h handle).trans (ih _)

/-! ## The advertising routine, at one handle -/

/-- A set that times out keeps its data. -/
theorem keeps_expireSet (now : Nat) (a : ExtendedAdvertiser) : a.Keeps (s.expireSet now a).1 := by
  unfold expireSet
  split
  · exact a.keeps_disable
  · exact .refl a

/-- A set that has sent its events keeps its data. -/
theorem keeps_exhaustSet (a : ExtendedAdvertiser) : a.Keeps (s.exhaustSet a).1 := by
  unfold exhaustSet
  split
  · exact a.keeps_disable
  · exact .refl a

theorem keeps_advertisingEvent {now : Nat} :
    Yields (advertisingEvent now a) fun r => a.Keeps r.1 := by
  exact .ite (fun _ => .bind fun _ _ => .ok ⟨fun h => h, rfl, rfl, rfl, rfl, rfl, rfl, rfl⟩)
    fun _ => .ok (.refl a)

theorem keeps_periodicAdvertisingEvent (now : Nat) (a : ExtendedAdvertiser) :
    a.Keeps (periodicAdvertisingEvent now a).1 := by
  unfold periodicAdvertisingEvent
  split
  · exact ⟨fun h => h, rfl, rfl, rfl, rfl, rfl, rfl, rfl⟩
  · exact .refl a

/-- Advertising keeps the data of a set. -/
theorem keeps_advertiseSet {now : Nat} : Yields (s.advertiseSet now a) fun r => a.Keeps r.1 := by
  refine .seq keeps_advertisingEvent fun r hevent => .ok ?_
  have hpre := (keeps_expireSet (s := s) now a).trans (keeps_exhaustSet (s := s) _)
  exact (hpre.trans hevent).trans (keeps_periodicAdvertisingEvent now r.1)

/-- Advertising keeps the data of every set. -/
theorem advertiseSets_getElem? {now handles sets} (handle : UInt8) :
    Yields (s.advertiseSets now sets handles) fun r => KeptOrAbsent sets[handle]? r.1[handle]? := by
  induction handles generalizing sets with
  | nil => exact .ok (.refl _)
  | cons _ _ ih =>
    unfold advertiseSets
    split
    · exact ih
    · rename_i a ha
      refine .seq keeps_advertiseSet fun b hb => .seq ih fun r hr => .ok (KeptOrAbsent.trans ?_ hr)
      rw [HashMap.getElem?_insert']
      split
      · rename_i hh
        rw [← hh, ha]
        exact .kept hb
      · exact .refl _

/-! ## One set over a step -/

/-- What a step makes of the set of a handle. -/
inductive SetStep (s : LeController) (i : Input) (handle : UInt8) :
    Option ExtendedAdvertiser → Option ExtendedAdvertiser → Prop
  | absent : SetStep s i handle none none
  | kept (a b : ExtendedAdvertiser) : a.Keeps b → SetStep s i handle (some a) (some b)
  | reset (o : Option ExtendedAdvertiser) : i.action = .command .reset → SetStep s i handle o none
  | removed (a : ExtendedAdvertiser) :
      i.action = .command (.advertisingSets (.leRemoveAdvertisingSet handle)) →
      a.advertisingEnable = false → SetStep s i handle (some a) none
  | cleared (a : ExtendedAdvertiser) :
      i.action = .command (.advertisingSets .leClearAdvertisingSets) →
      (s.extendedAdvertisers.any fun _ advertiser => advertiser.advertisingEnable) = false →
      SetStep s i handle (some a) none
  | parameters (o : Option ExtendedAdvertiser) (b : ExtendedAdvertiser)
      (parameters : ExtendedAdvertisingParameters) :
      i.action =
        .command (.advertisingSets (.leSetExtendedAdvertisingParameters handle parameters)) →
      (o.getD { advertisingHandle := handle }).leSetExtendedAdvertisingParameters
        parameters = .ok b →
      SetStep s i handle o (some b)
  | data (a b : ExtendedAdvertiser) (status : ErrorCode) (c : AdvertisingSetCommand)
      (d : DataCommand) : i.action = .command (.advertisingSets c) → c.data? = some d →
      d.handle = handle → a.setData s.properties d = .ok (b, status) →
      SetStep s i handle (some a) (some b)
  | periodicParameters (a b : ExtendedAdvertiser) (status : ErrorCode)
      (intervalMin intervalMax : UInt16) :
      a.leSetPeriodicAdvertisingParameters intervalMin intervalMax = .ok (b, status) →
      SetStep s i handle (some a) (some b)
  | periodicEnable (a b : ExtendedAdvertiser) (status : ErrorCode) (enable includeAdi : Bool) :
      i.action =
        .command (.advertisingSets (.leSetPeriodicAdvertisingEnable enable includeAdi handle)) →
      a.leSetPeriodicAdvertisingEnable s.properties i.env.now enable includeAdi = .ok (b, status) →
      SetStep s i handle (some a) (some b)
  | enabled (a b : ExtendedAdvertiser) (set : EnabledSet) :
      a.checkEnable set = .ok () → a.Enables b → SetStep s i handle (some a) (some b)

theorem SetStep.of_keptOrAbsent {o o'} (h : KeptOrAbsent o o') : SetStep s i handle o o' := by
  obtain ⟨rfl, rfl⟩ | ⟨a, b, rfl, rfl, hkeep⟩ := h
  · exact .absent
  · exact .kept a b hkeep

variable {r : Sets × ErrorCode}

/-- A command about one set, from what it does to the set. -/
theorem setStep_onSet {f h} (hr : s.onSet h f = .ok r)
    (hstep : ∀ a b status, h = handle → f a = .ok (b, status) →
      SetStep s i handle (some a) (some b)) :
    SetStep s i handle s.extendedAdvertisers[handle]? r.1[handle]? := by
  obtain ⟨a, b, ha, hb, hsets⟩ := onSet_eq_ok hr
  rw [hsets, HashMap.getElem?_insert']
  split
  · rename_i hh
    have ha' : s.extendedAdvertisers[handle]? = some a := hh ▸ ha
    rw [ha']
    exact hstep a b r.2 hh hb
  · exact .of_keptOrAbsent (.refl _)

/-- LE Set Extended Advertising Enable. -/
theorem setStep_enable {enable : Bool} {sets}
    (h : s.leSetExtendedAdvertisingEnable env enable sets = .ok r) :
    SetStep s i handle s.extendedAdvertisers[handle]? r.1[handle]? := by
  obtain ⟨-, -, h⟩ := bind_eq_ok.mp h
  cases enable with
  | false =>
    cases h
    exact .of_keptOrAbsent (disableSets_getElem? _ _ handle)
  | true =>
    obtain ⟨-, -, h⟩ := bind_eq_ok.mp h
    have hprepared := prepareSets_getElem? s env sets 0 s.extendedAdvertisers handle
    split at h
    · rename_i prepared hr
      rw [hr] at hprepared
      cases h
      rcases hprepared with ⟨hn, hn'⟩ | ⟨a, x, y, ha, ha', hchk⟩
      · rw [hn, enableSets_getElem?_none _ _ _ hn']
        exact .absent
      · rw [ha]
        rcases enableSets_getElem? env.now sets prepared ha'
          with hsame | ⟨b, hb, henables, set, hset, heq⟩
        · rw [hsame]
          exact .kept a _ (a.keeps_readdress x y)
        · rw [hb]
          exact .enabled a b set (hchk rfl set hset heq) henables.of_readdress
    · rename_i prepared status _ hr
      rw [hr] at hprepared
      cases h
      -- one that could not be prepared: those before it keep their addresses
      rcases hprepared with ⟨hn, hn'⟩ | ⟨a, x, y, ha, ha', -⟩
      · rw [hn, hn']
        exact .absent
      · rw [ha, ha']
        exact .kept a _ (a.keeps_readdress x y)

variable {c : AdvertisingSetCommand}

/-- **What a command does to a set**. -/
theorem setStep_command (hi : i.action = .command (.advertisingSets c))
    (h : s.advertisingSets i.env c = .ok r) :
    SetStep s i handle s.extendedAdvertisers[handle]? r.1[handle]? := by
  cases c with
  | leSetAdvertisingSetRandomAddress =>
    refine setStep_onSet h fun a b status _ hb => ?_
    obtain ⟨-, -, hb⟩ := bind_eq_ok.mp hb
    cases hb
    exact .kept a _ ⟨fun h => h, rfl, rfl, rfl, rfl, rfl, rfl, rfl⟩
  | leSetExtendedAdvertisingParameters _ parameters =>
    obtain ⟨-, -, h⟩ := bind_eq_ok.mp h
    obtain ⟨b, hb, h⟩ := bind_eq_ok.mp h
    cases h
    rw [HashMap.getElem?_insert']
    split
    · rename_i hh
      cases hh
      exact .parameters _ b parameters hi hb
    · exact .of_keptOrAbsent (.refl _)
  | leSetExtendedAdvertisingData handle' operation data
  | leSetExtendedScanResponseData handle' operation data
  | leSetPeriodicAdvertisingData _ _ data =>
    exact setStep_onSet h fun a b status hh hb => .data a b status _ _ hi rfl hh hb
  | leSetExtendedAdvertisingEnable => exact setStep_enable h
  | leRemoveAdvertisingSet handle' =>
    have h : s.leRemoveAdvertisingSet handle' = .ok r := h
    unfold leRemoveAdvertisingSet at h
    split at h
    · cases h
    · rename_i a ha
      obtain ⟨⟨⟩, hdis, h⟩ := bind_eq_ok.mp h
      cases h
      rw [HashMap.getElem?_erase']
      split
      · rename_i hh
        cases hh
        rw [ha]
        exact .removed a hi (by simpa using hdis)
      · exact .of_keptOrAbsent (.refl _)
  | leClearAdvertisingSets =>
    obtain ⟨⟨⟩, hdis, h⟩ := bind_eq_ok.mp h
    cases h
    cases s.extendedAdvertisers[handle]? with
    | none => exact .absent
    | some a => exact .cleared a hi (by simpa using hdis)
  | leSetPeriodicAdvertisingParameters =>
    exact setStep_onSet h fun a b status _ hb => .periodicParameters a b status _ _ hb
  | leSetPeriodicAdvertisingEnable enable includeAdi =>
    refine setStep_onSet h fun a b status hh hb => ?_
    cases hh
    exact .periodicEnable a b status enable includeAdi hi hb

/-- A connect request disables one set at most. -/
theorem connect_getElem? (initiating advertising : AddressWithType)
    (interval latency timeout : UInt16) :
    KeptOrAbsent s.extendedAdvertisers[handle]?
      (s.incomingLeConnectPacket env initiating advertising interval latency
        timeout).1.extendedAdvertisers[handle]? := by
  unfold incomingLeConnectPacket
  dsimp only
  split
  · exact .refl _
  · split
    · exact .refl _
    · split
      · exact .refl _
      · exact disableSet_getElem? _ _ handle

/-- **Every step does one of these to each advertising set.** -/
theorem set_step (h : s.step i = .ok (s', out)) (handle : UInt8) :
    SetStep s i handle s.extendedAdvertisers[handle]? s'.extendedAdvertisers[handle]? := by
  rcases (effect_of_step h).sets
    with hsame | ⟨hi, hres⟩ | ⟨c, status, hi, hc⟩ | ⟨_, _, _, _, _, hconn⟩ | ⟨-, r, hr, htick⟩
  · rw [hsame]
    exact .of_keptOrAbsent (.refl _)
  · rw [hres, show s.reset.extendedAdvertisers[handle]? = none from Std.ExtTreeMap.getElem?_empty]
    exact .reset _ hi
  · exact setStep_command hi hc
  · rw [← hconn]
    exact .of_keptOrAbsent (connect_getElem? ..)
  · rw [← htick]
    refine .of_keptOrAbsent
      ((?_ : Yields _ fun r => KeptOrAbsent _ r.1.extendedAdvertisers[handle]?) _ hr)
    exact .seq (advertiseSets_getElem? handle) fun _ h => .ok h

/-! ## The answer to a command -/

/-- The command is refused as legacy advertising is in use. -/
def excludes (s : LeController) (c : AdvertisingSetCommand) : Bool :=
  c.kind = .extended && s.legacyAdvertisingInUse

/-- The state after a command of the advertising sets, with the status that is returned. -/
inductive SetsAnswer (s : LeController) (env : Env) (c : AdvertisingSetCommand) :
    LeController → ErrorCode → Prop
  | excluded : s.excludes c = true → SetsAnswer s env c s .commandDisallowed
  | refused (l e : Bool) (status : ErrorCode) : s.advertisingSets env c = .error status →
      SetsAnswer s env c (s.withKinds l e) status
  | applied (l e : Bool) (sets : Sets) (status : ErrorCode) : s.excludes c = false →
      s.advertisingSets env c = .ok (sets, status) →
      SetsAnswer s env c { s.withKinds l e with extendedAdvertisers := sets } status

theorem select_eq_none : s.select c.kind = none ↔ s.excludes c = true := by
  cases hk : c.kind <;> simp [select, excludes, hk]
  cases c <;> cases hk

/-- **A command of the advertising sets has one status for an answer.** -/
theorem setsAnswer_of_step (h : s.step ⟨env, .command (.advertisingSets c)⟩ = .ok (s', out)) :
    ∃ status, out = [.event (.status status)] ∧ SetsAnswer s env c s' status := by
  have h : s.command env (.advertisingSets c) = (s', out) := Except.ok.inj h
  unfold command at h
  cases hk : s.select (Command.advertisingSets c).kind with
  | none =>
    rw [hk] at h
    cases h
    exact ⟨_, rfl, .excluded (select_eq_none.mp hk)⟩
  | some =>
    have hexc : s.excludes c = false := by
      rw [← Bool.not_eq_true, ← select_eq_none]
      exact fun hn => nomatch hn.symm.trans hk
    rw [hk] at h
    obtain ⟨l, e, rfl⟩ := select_eq_some hk
    have h : (s.withKinds l e).answerSets ((s.withKinds l e).advertisingSets env c) = (s', out) := h
    rw [advertisingSets_withKinds] at h
    cases hr : s.advertisingSets env c with
    | error status =>
      rw [hr] at h
      cases h
      exact ⟨status, rfl, .refused l e status hr⟩
    | ok r =>
      rw [hr] at h
      cases h
      exact ⟨r.2, rfl, .applied l e r.1 r.2 hexc hr⟩

/-- A command that is not excluded and passes its checks is applied. -/
theorem step_of_applied {sets} (hexc : s.excludes c = false)
    (h : s.advertisingSets env c = .ok (sets, status)) :
    ∃ s', s.step ⟨env, .command (.advertisingSets c)⟩ = .ok (s', [.event (.status status)]) ∧
      s'.extendedAdvertisers = sets := by
  cases hk : s.select (Command.advertisingSets c).kind with
  | none =>
    rw [select_eq_none.mp hk] at hexc
    cases hexc
  | some =>
    obtain ⟨l, e, rfl⟩ := select_eq_some hk
    have hcmd : s.command env (.advertisingSets c) =
        (s.withKinds l e).answerSets ((s.withKinds l e).advertisingSets env c) := by
      simp only [command, hk, execute]
    rw [advertisingSets_withKinds, h] at hcmd
    exact ⟨_, congrArg Except.ok hcmd, rfl⟩

end LeController

end RootCanal.Gap
