import RootCanal.Gap.Handlers

/-!
# What a step of the controller can do

`Effect s env a s'` lists what an action makes of the state, one case for each part that it changes;
a command may put its kind of advertising in use too.  **`effect_of_step`: every step has one of
these effects.**  From it there is one theorem for each part, with the steps that change this part
alone (`Effect.privacy`, `Effect.scanner`, `Effect.initiator`, `Effect.synchronization`,
`Effect.sets`, and so on).

Source: `le_controller.cc`
-/

namespace RootCanal.Gap

open Lib RootCanal.Hci

namespace LeController

/-- The controller with other kinds of advertising in use. -/
def withKinds (s : LeController) (legacyAdvertisingInUse extendedAdvertisingInUse : Bool) :
    LeController :=
  { s with legacyAdvertisingInUse, extendedAdvertisingInUse }

/-- What an action makes of the state. -/
inductive Effect (s : LeController) (env : Env) : Action → LeController → Prop
  /-- The action is refused, or has no effect but on its answers. -/
  | idle (l e : Bool) (a : Action) : Effect s env a (s.withKinds l e)
  | reset : Effect s env (.command .reset) s.reset
  | masks (l e : Bool) (a : Action) (eventMask leEventMask : UInt64) :
      Effect s env a { s.withKinds l e with eventMask, leEventMask }
  | randomAddress (l e : Bool) (a r : Address) : s.leSetRandomAddress a = .ok r →
      Effect s env (.command (.leSetRandomAddress a)) { s.withKinds l e with randomAddress := r }
  | resolvingList (l e : Bool) (c : ResolvingListCommand) (p : Privacy) :
      s.resolvingList c = .ok p → Effect s env (.command (.resolvingList c))
      { s.withKinds l e with toPrivacy := p }
  | filterAcceptList (l e : Bool) (c : FilterAcceptListCommand)
      (entries : List FilterAcceptListEntry) : s.filterAcceptList c = .ok entries →
      Effect s env (.command (.filterAcceptList c))
        { s.withKinds l e with leFilterAcceptList := entries }
  | periodicAdvertiserList (l e : Bool) (c : PeriodicAdvertiserListCommand) (trains : List Train) :
      s.periodicAdvertiserList c = .ok trains →
      Effect s env (.command (.periodicAdvertiserList c))
        { s.withKinds l e with lePeriodicAdvertiserList := trains }
  | legacyAdvertising (l e : Bool) (c : LegacyAdvertisingCommand) (a : LegacyAdvertiser) :
      s.legacyAdvertising env c = .ok a →
      Effect s env (.command (.legacyAdvertising c)) { s.withKinds l e with legacyAdvertiser := a }
  | advertisingSets (l e : Bool) (c : AdvertisingSetCommand) (sets : Sets) (status : ErrorCode) :
      s.advertisingSets env c = .ok (sets, status) →
      Effect s env (.command (.advertisingSets c))
        { s.withKinds l e with extendedAdvertisers := sets }
  | scan (l e : Bool) (c : ScanCommand) (scanner : Scanner) : s.scan env c = .ok scanner →
      Effect s env (.command (.scan c)) { s.withKinds l e with scanner }
  | initiate (l e : Bool) (c : InitiateCommand) (initiator : Initiator) :
      s.initiate env c = .ok initiator →
      Effect s env (.command (.initiate c)) { s.withKinds l e with initiator }
  | cancelConnection (l e : Bool) (initiator : Initiator) (events : List Event) :
      s.leCreateConnectionCancel = .ok (initiator, events) →
      Effect s env (.command .leCreateConnectionCancel)
        { s.withKinds l e with initiator, tasks := s.tasks ++ events }
  | sync (l e : Bool) (c : SyncCommand) (y : Synchronization) : s.sync c = .ok y →
      Effect s env (.command (.sync c)) { s.withKinds l e with toSynchronization := y }
  | cancelSync (l e : Bool) (y : Synchronization) (events : List Event) :
      s.lePeriodicAdvertisingCreateSyncCancel = .ok (y, events) →
      Effect s env (.command .lePeriodicAdvertisingCreateSyncCancel)
        { s.withKinds l e with toSynchronization := y, tasks := s.tasks ++ events }
  | legacyPdu (bytes : List UInt8) (rssi : UInt8) (source destination : Address)
      (aType tType : AddressType) (type : LegacyAdvertisingType) (data : List UInt8)
      (scanner : Scanner) (initiator : Initiator) (reports requests : List Output) :
      s.scanIncomingLeLegacyAdvertisingPdu env bytes rssi ⟨source, aType⟩
        ⟨destination, tType⟩ type data = .ok (scanner, reports) →
      s.connectIncomingLeLegacyAdvertisingPdu env ⟨source, aType⟩ ⟨destination, tType⟩ type =
        .ok (initiator, requests) →
      Effect s env
        (.packet bytes rssi ⟨source, destination, .leLegacyAdvertisingPdu aType tType type data⟩)
        { s with scanner, initiator }
  | extendedPdu (bytes : List UInt8) (rssi : UInt8) (source destination : Address)
      (aType tType : AddressType) (connectable scannable directed : Bool) (sid txPower : UInt8)
      (primaryPhy secondaryPhy : PhyType) (interval : Nat) (data : List UInt8) (scanner : Scanner)
      (initiator : Initiator) (reports requests : List Output) :
      s.scanIncomingLeExtendedAdvertisingPdu env bytes rssi ⟨source, aType⟩ ⟨destination, tType⟩
        connectable scannable directed sid txPower primaryPhy secondaryPhy interval data =
        .ok (scanner, reports) →
      s.connectIncomingLeExtendedAdvertisingPdu env ⟨source, aType⟩ ⟨destination, tType⟩ connectable
        directed = .ok (initiator, requests) →
      Effect s env
        (.packet bytes rssi ⟨source, destination, .leExtendedAdvertisingPdu aType tType connectable
          scannable directed sid txPower primaryPhy secondaryPhy interval data⟩)
        { s with scanner, initiator }
  | periodicPdu (bytes : List UInt8) (rssi : UInt8) (source destination : Address)
      (aType : AddressType) (sid txPower : UInt8) (interval : Nat) (data : List UInt8)
      (y : Synchronization) (reports : List Output) :
      s.incomingLePeriodicAdvertisingPdu env rssi ⟨source, aType⟩ sid txPower interval data =
        .ok (y, reports) →
      Effect s env
        (.packet bytes rssi
          ⟨source, destination, .lePeriodicAdvertisingPdu aType sid txPower interval data⟩)
        { s with toSynchronization := y }
  | scanResponse (bytes : List UInt8) (rssi : UInt8) (source destination : Address)
      (aType : AddressType) (data : List UInt8) :
      Effect s env (.packet bytes rssi ⟨source, destination, .leScanResponse aType data⟩)
        { s with scanner := (s.incomingLeScanResponsePacket env bytes rssi ⟨source, aType⟩ data).1 }
  | connect (bytes : List UInt8) (rssi : UInt8) (source destination : Address)
      (iType aType : AddressType) (interval latency timeout : UInt16) :
      Effect s env
        (.packet bytes rssi ⟨source, destination, .leConnect iType aType interval latency timeout⟩)
        { s
          with toAdvertisers := (s.incomingLeConnectPacket env ⟨source, iType⟩ ⟨destination, aType⟩
          interval latency timeout).1 }
  | connectComplete (bytes : List UInt8) (rssi : UInt8) (source destination : Address)
      (iType aType : AddressType) (interval latency timeout : UInt16) :
      Effect s env
        (.packet bytes rssi
        ⟨source, destination, .leConnectComplete iType aType interval latency timeout⟩)
        { s
          with initiator :=
          (s.incomingLeConnectCompletePacket env ⟨destination, iType⟩ ⟨source, aType⟩
          interval latency timeout).1 }
  | tick (advertisers : Advertisers) (pdus : List Output) :
      s.leAdvertising env = .ok (advertisers, pdus) →
      Effect s env .tick
        { s with toAdvertisers := advertisers, scanner := (s.leScanning env.now).1, tasks := [] }

variable {s s' : LeController} {env : Env} {i : Input} {out : List Output}

/-! ## Every step has one of these effects -/

theorem select_eq_some {k} (h : s.select k = some s') : ∃ l e, s' = s.withKinds l e := by
  cases k with
  | either => exact ⟨s.legacyAdvertisingInUse, s.extendedAdvertisingInUse, (Option.some.inj h).symm⟩
  | legacy =>
    simp only [select, Option.ite_none_left_eq_some, Option.some.injEq] at h
    exact ⟨true, s.extendedAdvertisingInUse, h.2.symm⟩
  | extended =>
    simp only [select, Option.ite_none_left_eq_some, Option.some.injEq] at h
    exact ⟨s.legacyAdvertisingInUse, true, h.2.symm⟩

/-- A command about one part is refused or changes this part. -/
theorem answer_fst {α : Type} {P : LeController → Prop} {set : α → LeController}
    {r : Except ErrorCode α} (hrefused : P s) (hset : ∀ a, r = .ok a → P (set a)) : P
    (s.answer set r).1 := by
  cases r with
  | error => exact hrefused
  | ok a => exact hset a rfl

theorem answerSets_fst {P : LeController → Prop} {r : Except ErrorCode (Sets × ErrorCode)}
    (hrefused : P s)
    (hset : ∀ sets status, r = .ok (sets, status) → P { s with extendedAdvertisers := sets }) :
    P (s.answerSets r).1 := by
  cases r with
  | error => exact hrefused
  | ok r => exact hset r.1 r.2 rfl

theorem checkHandles_withKinds (l e : Bool) (sets : List EnabledSet) (used : List UInt8) :
    (s.withKinds l e).checkHandles used sets = s.checkHandles used sets := by
  induction sets generalizing used with
  | nil => rfl
  | cons _ _ ih =>
    simp only [checkHandles, ih]
    rfl

theorem prepareSets_withKinds (l e : Bool) (list : List EnabledSet) (n : Nat) (sets : Sets) :
    (s.withKinds l e).prepareSets env n sets list = s.prepareSets env n sets list := by
  induction list generalizing n sets with
  | nil => rfl
  | cons _ _ ih =>
    simp only [prepareSets, ih]
    rfl

/-- The commands of the advertising sets do not read which kinds of advertising are in use. -/
theorem advertisingSets_withKinds (l e : Bool) (c : AdvertisingSetCommand) :
    (s.withKinds l e).advertisingSets env c = s.advertisingSets env c := by
  cases c with
  | leSetExtendedAdvertisingEnable =>
    simp only [advertisingSets, leSetExtendedAdvertisingEnable, checkHandles_withKinds,
      prepareSets_withKinds]
    rfl
  | _ => rfl

theorem effect_of_execute (l e : Bool) (c : Command) :
    Effect s env (.command c) ((s.withKinds l e).execute env c).1 := by
  have hidle : Effect s env (.command c) (s.withKinds l e) := .idle l e _
  cases c with
  | reset => exact .reset
  | setEventMask mask => exact .masks l e _ mask s.leEventMask
  | leSetEventMask mask => exact .masks l e _ s.eventMask mask
  | leSetRandomAddress a => exact answer_fst hidle fun r h => .randomAddress l e a r h
  | resolvingList c => exact answer_fst hidle fun p h => .resolvingList l e c p h
  | filterAcceptList c => exact answer_fst hidle fun t h => .filterAcceptList l e c t h
  | periodicAdvertiserList c => exact answer_fst hidle fun t h => .periodicAdvertiserList l e c t h
  | legacyAdvertising c => exact answer_fst hidle fun a h => .legacyAdvertising l e c a h
  | advertisingSets c =>
    exact answerSets_fst hidle fun sets status h =>
      .advertisingSets l e c sets status (advertisingSets_withKinds l e c ▸ h)
  | scan c => exact answer_fst hidle fun scanner h => .scan l e c scanner h
  | initiate c => exact answer_fst hidle fun initiator h => .initiate l e c initiator h
  | leCreateConnectionCancel => exact answer_fst hidle fun r h => .cancelConnection l e r.1 r.2 h
  | sync c => exact answer_fst hidle fun y h => .sync l e c y h
  | lePeriodicAdvertisingCreateSyncCancel =>
    exact answer_fst hidle fun r h => .cancelSync l e r.1 r.2 h

/-- Both parts of an advertising PDU are taken. -/
theorem afterPdu_eq_ok {scanned connected r} :
    s.afterPdu scanned connected = .ok r ↔ ∃ a b, scanned = .ok a ∧ connected = .ok b ∧
        r = ({ s with scanner := a.1, initiator := b.1 }, a.2 ++ b.2) := by
  unfold afterPdu
  rw [bind_eq_ok]
  constructor
  · rintro ⟨a, ha, h⟩
    obtain ⟨b, hb, h⟩ := bind_eq_ok.mp h
    exact ⟨a, b, ha, hb, (Except.ok.inj h).symm⟩
  · rintro ⟨a, b, ha, hb, rfl⟩
    exact ⟨a, ha, bind_eq_ok.mpr ⟨b, hb, rfl⟩⟩

theorem effect_of_packet {bytes rssi p} (h : s.incomingPacket env bytes rssi p = .ok (s', out)) :
    Effect s env (.packet bytes rssi p) s' := by
  obtain ⟨source, destination, body⟩ := p
  cases body with
  | leLegacyAdvertisingPdu aType tType type data =>
    obtain ⟨a, b, ha, hb, h⟩ := afterPdu_eq_ok.mp h
    cases h
    exact .legacyPdu bytes rssi source destination aType tType type data a.1 b.1 a.2 b.2 ha hb
  | leExtendedAdvertisingPdu aType tType connectable scannable directed sid txPower primaryPhy
    secondaryPhy interval data =>
      obtain ⟨a, b, ha, hb, h⟩ := afterPdu_eq_ok.mp h
      cases h
      exact .extendedPdu bytes rssi source destination aType tType connectable scannable
        directed sid txPower primaryPhy secondaryPhy interval data a.1 b.1 a.2 b.2 ha hb
  | lePeriodicAdvertisingPdu aType sid txPower interval data =>
    obtain ⟨y, hy, h⟩ := bind_eq_ok.mp h
    cases h
    exact .periodicPdu bytes rssi source destination aType sid txPower interval data y.1 y.2 hy
  | leScan =>
    cases h
    exact .idle s.legacyAdvertisingInUse s.extendedAdvertisingInUse _
  | leScanResponse aType data =>
    cases h
    exact .scanResponse bytes rssi source destination aType data
  | leConnect iType aType interval latency timeout =>
    cases h
    exact .connect bytes rssi source destination iType aType interval latency timeout
  | leConnectComplete iType aType interval latency timeout =>
    cases h
    exact .connectComplete bytes rssi source destination iType aType interval latency timeout

/-- **Every step of the controller has one of the effects.** -/
theorem effect_of_step (h : s.step i = .ok (s', out)) : Effect s i.env i.action s' := by
  obtain ⟨env, a⟩ := i
  cases a with
  | command c =>
    have hst : (s.command env c).1 = s' := congrArg Prod.fst (Except.ok.inj h)
    rw [← hst]
    unfold command
    cases hk : s.select c.kind with
    | none => exact .idle s.legacyAdvertisingInUse s.extendedAdvertisingInUse _
    | some =>
      obtain ⟨l, e, rfl⟩ := select_eq_some hk
      exact effect_of_execute l e c
  | packet => exact effect_of_packet h
  | tick =>
    obtain ⟨r, hr, h⟩ := bind_eq_ok.mp h
    cases h
    exact .tick r.1 r.2 hr

/-! ## What changes one part -/

variable {a : Action} (h : Effect s env a s')

include h

/-- The public address and the properties never change. -/
theorem Effect.properties : s'.address = s.address ∧ s'.properties = s.properties := by
  cases h <;> exact ⟨rfl, rfl⟩

theorem Effect.ownAddress :
    s'.randomAddress = s.randomAddress ∨ (a = .command .reset ∧ s' = s.reset) ∨
    ∃ b, a = .command (.leSetRandomAddress b) ∧ s.leSetRandomAddress b = .ok s'.randomAddress := by
  cases h with
  | reset => exact .inr (.inl ⟨rfl, rfl⟩)
  | randomAddress _ _ a _ h => exact .inr (.inr ⟨a, rfl, h⟩)
  | _ => exact .inl rfl

theorem Effect.privacy : s'.toPrivacy = s.toPrivacy ∨ (a = .command .reset ∧ s' = s.reset) ∨
    ∃ c, a = .command (.resolvingList c) ∧ s.resolvingList c = .ok s'.toPrivacy := by
  cases h with
  | reset => exact .inr (.inl ⟨rfl, rfl⟩)
  | resolvingList _ _ c _ h => exact .inr (.inr ⟨c, rfl, h⟩)
  | _ => exact .inl rfl

theorem Effect.advertiserList : s'.lePeriodicAdvertiserList = s.lePeriodicAdvertiserList ∨
    (a = .command .reset ∧ s' = s.reset) ∨
    ∃ c, a = .command (.periodicAdvertiserList c) ∧
      s.periodicAdvertiserList c = .ok s'.lePeriodicAdvertiserList := by
  cases h with
  | reset => exact .inr (.inl ⟨rfl, rfl⟩)
  | periodicAdvertiserList _ _ c _ h => exact .inr (.inr ⟨c, rfl, h⟩)
  | _ => exact .inl rfl

theorem Effect.acceptList :
    s'.leFilterAcceptList = s.leFilterAcceptList ∨ (a = .command .reset ∧ s' = s.reset) ∨
    ∃ c, a = .command (.filterAcceptList c) ∧ s.filterAcceptList c = .ok s'.leFilterAcceptList := by
  cases h with
  | reset => exact .inr (.inl ⟨rfl, rfl⟩)
  | filterAcceptList _ _ c _ h => exact .inr (.inr ⟨c, rfl, h⟩)
  | _ => exact .inl rfl

theorem Effect.synchronization :
    s'.toSynchronization = s.toSynchronization ∨ (a = .command .reset ∧ s' = s.reset) ∨
    (∃ c, a = .command (.sync c) ∧ s.sync c = .ok s'.toSynchronization) ∨
    s'.toSynchronization = { s.toSynchronization with synchronizing := none } ∨
    ∃ rssi b sid txPower interval data reports,
      s.incomingLePeriodicAdvertisingPdu env rssi b sid txPower interval data =
        .ok (s'.toSynchronization, reports) := by
  cases h with
  | reset => exact .inr (.inl ⟨rfl, rfl⟩)
  | sync _ _ c _ h => exact .inr (.inr (.inl ⟨c, rfl, h⟩))
  | cancelSync _ _ _ _ h =>
    obtain ⟨-, -, h⟩ := bind_eq_ok.mp h
    cases h
    exact .inr (.inr (.inr (.inl rfl)))
  | periodicPdu =>
    rename_i h
    exact .inr (.inr (.inr (.inr ⟨_, _, _, _, _, _, _, h⟩)))
  | _ => exact .inl rfl

theorem Effect.initiator : s'.initiator = s.initiator ∨ (a = .command .reset ∧ s' = s.reset) ∨
    (∃ c, a = .command (.initiate c) ∧ s.initiate env c = .ok s'.initiator) ∨
    s'.initiator = { s.initiator with connectEnable := false } ∨
    (∃ b target connectable directed requests,
      s.connectIncomingPdu env b target connectable directed = .ok (s'.initiator, requests)) ∨
    ∃ initiating advertising interval latency timeout,
      (s.incomingLeConnectCompletePacket env initiating advertising interval latency timeout).1 =
        s'.initiator := by
  cases h with
  | reset => exact .inr (.inl ⟨rfl, rfl⟩)
  | initiate _ _ c _ h => exact .inr (.inr (.inl ⟨c, rfl, h⟩))
  | cancelConnection _ _ _ _ h =>
    obtain ⟨-, -, h⟩ := bind_eq_ok.mp h
    cases h
    exact .inr (.inr (.inr (.inl rfl)))
  | legacyPdu | extendedPdu =>
    rename_i h
    exact .inr (.inr (.inr (.inr (.inl ⟨_, _, _, _, _, h⟩))))
  | connectComplete => exact .inr (.inr (.inr (.inr (.inr ⟨_, _, _, _, _, rfl⟩))))
  | _ => exact .inl rfl

theorem Effect.scanner : s'.scanner = s.scanner ∨ (a = .command .reset ∧ s' = s.reset) ∨
    (∃ c, a = .command (.scan c) ∧ s.scan env c = .ok s'.scanner) ∨
    (∃ bytes rssi b target type data reports,
      s.scanIncomingLeLegacyAdvertisingPdu env bytes rssi b target type data =
        .ok (s'.scanner, reports)) ∨
    (∃ bytes rssi b target connectable scannable directed sid txPower primaryPhy secondaryPhy
      interval data reports,
      s.scanIncomingLeExtendedAdvertisingPdu env bytes rssi b target connectable scannable
        directed sid txPower primaryPhy secondaryPhy interval data = .ok (s'.scanner, reports)) ∨
    (∃ bytes rssi b data, (s.incomingLeScanResponsePacket env bytes rssi b data).1 = s'.scanner) ∨
    (a = .tick ∧ (s.leScanning env.now).1 = s'.scanner) := by
  cases h with
  | reset => exact .inr (.inl ⟨rfl, rfl⟩)
  | scan _ _ c _ h => exact .inr (.inr (.inl ⟨c, rfl, h⟩))
  | legacyPdu =>
    rename_i h _
    exact .inr (.inr (.inr (.inl ⟨_, _, _, _, _, _, _, h⟩)))
  | extendedPdu =>
    rename_i h _
    exact .inr (.inr (.inr (.inr (.inl ⟨_, _, _, _, _, _, _, _, _, _, _, _, _, _, h⟩))))
  | scanResponse => exact .inr (.inr (.inr (.inr (.inr (.inl ⟨_, _, _, _, rfl⟩)))))
  | tick => exact .inr (.inr (.inr (.inr (.inr (.inr ⟨rfl, rfl⟩)))))
  | _ => exact .inl rfl

theorem Effect.sets :
    s'.extendedAdvertisers = s.extendedAdvertisers ∨ (a = .command .reset ∧ s' = s.reset) ∨
    (∃ c status, a = .command (.advertisingSets c) ∧
      s.advertisingSets env c = .ok (s'.extendedAdvertisers, status)) ∨
    (∃ initiating advertising interval latency timeout,
      (s.incomingLeConnectPacket env initiating advertising interval latency
        timeout).1.extendedAdvertisers = s'.extendedAdvertisers) ∨
    (a = .tick ∧ ∃ r, s.leAdvertising env = .ok r ∧
      r.1.extendedAdvertisers = s'.extendedAdvertisers) := by
  cases h with
  | reset => exact .inr (.inl ⟨rfl, rfl⟩)
  | advertisingSets _ _ c _ status h => exact .inr (.inr (.inl ⟨c, status, rfl, h⟩))
  | connect => exact .inr (.inr (.inr (.inl ⟨_, _, _, _, _, rfl⟩)))
  | tick _ _ h => exact .inr (.inr (.inr (.inr ⟨rfl, _, h, rfl⟩)))
  | _ => exact .inl rfl

end LeController

end RootCanal.Gap
