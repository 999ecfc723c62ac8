import RootCanal.Gap.Effects

/-!
# What a step has to do with connections

Most packets are sent so that devices find each other (`Body.discovers`); two are for making a
connection. `Connects` lists what a step does to the initiator, which of the two packets it sends
and which connections are made.  **`connects_of_step`: every step is one of these.**  What is
advertised, scanned and listed decides which of them it is, and no more is said of it.

Source: `le_controller.cc`, `le_advertiser.cc`
-/

namespace RootCanal.Gap

open Lib RootCanal.Hci

/-! ## Outputs that make no connection -/

/-- The packet is not one by which a connection is made. -/
def Body.discovers : Body → Bool
  | .leConnect .. | .leConnectComplete .. => false
  | _ => true

/-- The output is an event, or a packet by which no connection is made. -/
def Output.discovers : Output → Bool
  | .event _ => true
  | .packet p => p.body.discovers
  | .connection .. => false

/-- Nothing is sent by which a connection is made, and no connection is made. -/
def Discovers (out : List Output) : Prop := ∀ o ∈ out, o.discovers = true

namespace Discovers

variable {out out' : List Output}

theorem nil : Discovers [] := List.forall_mem_nil _

theorem singleton {o : Output} (h : o.discovers = true) : Discovers [o] :=
  List.forall_mem_singleton.mpr h

theorem append (h : Discovers out) (h' : Discovers out') : Discovers (out ++ out') :=
  List.forall_mem_append.mpr ⟨h, h'⟩

theorem ite {c : Prop} [Decidable c] (h : c → Discovers out) (h' : ¬ c → Discovers out') :
    Discovers (if c then out else out') := by
  split
  · exact h ‹_›
  · exact h' ‹_›

theorem flatMap {α : Type} {f : α → List Output} {as : List α} (h : ∀ a, Discovers (f a)) :
    Discovers (as.flatMap f) := by
  intro o ho
  obtain ⟨a, -, ho⟩ := List.mem_flatMap.mp ho
  exact h a o ho

end Discovers

namespace LeController

variable {s s' : LeController} {env : Env} {i : Input} {out : List Output} {now : Nat}
  {a : ExtendedAdvertiser} {bytes data : List UInt8} {rssi : UInt8}
  {advertising target resolved initiating : AddressWithType}

theorem discovers_sendLeEvent {code event} : Discovers (s.sendLeEvent code event) :=
  .ite (fun _ => .singleton rfl) fun _ => .nil

/-! ## The scanner -/

theorem discovers_extendedReports {response} : Discovers (s.extendedReports response data) :=
  .flatMap fun _ => discovers_sendLeEvent

/-- A scan request. -/
theorem discovers_scanRequest {scanner scannable report request} :
    Yields (s.scanRequest env scanner advertising resolved scannable report request) fun r =>
      Discovers r.2 :=
  .ite (fun _ => .bind fun _ _ => .ok (.singleton rfl)) fun _ => .ok .nil

/-- The reports of a legacy PDU. -/
theorem discovers_legacyPdu {type} :
    Yields (s.scanIncomingLeLegacyAdvertisingPdu env bytes rssi advertising target type data)
      fun r => Discovers r.2 := by
  refine .ite (fun _ => .seq discovers_scanRequest fun _ h =>
    .ok (.append (.ite (fun _ => ?_) fun _ => .nil) h)) fun _ => .ok .nil
  refine .append (.ite (fun _ => .ite (fun _ => ?_) fun _ => ?_) fun _ => .nil)
    (.ite (fun _ => discovers_sendLeEvent) fun _ => .nil)
  · exact discovers_sendLeEvent
  · exact discovers_sendLeEvent

/-- The reports of an extended PDU. -/
theorem discovers_extendedPdu
    {connectable scannable directed sid txPower primaryPhy secondaryPhy interval} :
    Yields
      (s.scanIncomingLeExtendedAdvertisingPdu env bytes rssi advertising target
      connectable scannable directed sid txPower primaryPhy secondaryPhy interval data) fun r =>
      Discovers r.2 :=
  .ite (fun _ => .seq discovers_scanRequest fun _ h =>
    .ok (.append (.ite (fun _ => discovers_extendedReports) fun _ => .nil) h)) fun _ => .ok .nil

/-- The report of a scan response. -/
theorem discovers_scanResponse :
    Discovers (s.incomingLeScanResponsePacket env bytes rssi advertising data).2 := by
  unfold incomingLeScanResponsePacket
  split
  · split
    · exact .nil
    · refine .ite (fun _ => ?_) fun _ => .nil
      exact .append (.ite (fun _ => discovers_sendLeEvent) fun _ => .nil)
        (.ite (fun _ => discovers_extendedReports) fun _ => .nil)
  · exact .nil

/-- The scan timeout. -/
theorem discovers_leScanning : Discovers (s.leScanning now).2 := by
  unfold leScanning
  split
  · exact .ite (fun _ => discovers_sendLeEvent) fun _ => .nil
  · exact .nil

/-- The reports of a periodic train. -/
theorem discovers_periodic {sid txPower interval} :
    Yields (s.incomingLePeriodicAdvertisingPdu env rssi advertising sid txPower interval data)
      fun r => Discovers r.2 := by
  unfold incomingLePeriodicAdvertisingPdu
  refine .ite (fun _ => .ok .nil) fun _ => ?_
  split
  · exact .bind fun _ _ => .ok discovers_sendLeEvent
  · exact .ok (.flatMap fun _ => .flatMap fun _ => discovers_sendLeEvent)

/-! ## The advertisers -/

/-- The scan responses of the advertisers. -/
theorem discovers_scan : Discovers (s.incomingLeScanPacket env advertising target) :=
  .append (.ite (fun _ => .singleton rfl) fun _ => .nil)
    (.flatMap fun _ => .ite (fun _ => .singleton rfl) fun _ => .nil)

/-- The PDU of the legacy advertiser. -/
theorem discovers_advertiseLegacy : Discovers (s.advertiseLegacy now).2 :=
  .append (.ite (fun _ => discovers_sendLeEvent) fun _ => .nil)
    (.ite (fun _ => .singleton rfl) fun _ => .nil)

theorem discovers_setPdu : Yields (setPdu a) fun pdu => pdu.discovers = true :=
  .ite (fun _ => .bind fun _ _ => .ok rfl) fun _ => .ok rfl

theorem discovers_expireSet : Discovers (s.expireSet now a).2 := by
  unfold expireSet
  split
  · refine .append (.ite (fun _ => ?_) fun _ => .nil) discovers_sendLeEvent
    exact .ite (fun _ => .singleton rfl) fun _ => discovers_sendLeEvent
  · exact .nil

theorem discovers_exhaustSet : Discovers (s.exhaustSet a).2 := by
  unfold exhaustSet
  split
  · exact discovers_sendLeEvent
  · exact .nil

theorem discovers_periodicAdvertisingEvent : Discovers (periodicAdvertisingEvent now a).2 := by
  unfold periodicAdvertisingEvent
  split
  · exact .singleton rfl
  · exact .nil

/-- The PDUs of an advertising set. -/
theorem discovers_advertiseSet : Yields (s.advertiseSet now a) fun r => Discovers r.2 := by
  have hevent : ∀ {a}, Yields (advertisingEvent now a) fun r => Discovers r.2 :=
    .ite (fun _ => .seq discovers_setPdu fun _ h => .ok (.singleton h)) fun _ => .ok .nil
  refine .seq hevent fun _ h => .ok ?_
  exact ((discovers_expireSet.append discovers_exhaustSet).append h).append
    discovers_periodicAdvertisingEvent

/-- By induction on the sets that are still to advertise. -/
theorem discovers_advertiseSets {sets handles} :
    Yields (s.advertiseSets now sets handles) fun r => Discovers r.2 := by
  induction handles generalizing sets with
  | nil => exact .ok .nil
  | cons _ _ ih =>
    unfold advertiseSets
    split
    · exact ih
    · exact .seq discovers_advertiseSet fun _ h => .seq ih fun _ h' => .ok (h.append h')

/-- A tick only discovers. -/
theorem discovers_tick : Yields (s.tick env) fun r => Discovers r.2 := by
  refine .seq (Q := fun r => Discovers r.2)
    (.seq discovers_advertiseSets fun _ h => .ok (discovers_advertiseLegacy.append h))
      fun _ h => .ok ?_
  refine .append (.append ?_ h) discovers_leScanning
  intro o ho
  obtain ⟨_, -, rfl⟩ := List.mem_map.mp ho
  rfl

end LeController

/-! ## The initiator -/

/-- The initiator is enabled for a new connection. -/
structure Initiator.Enabled (a b : Initiator) : Prop where
  idle : a.connectEnable = false
  connectEnable : b.connectEnable = true
  pending : b.pendingConnectRequest = none
  initiating : b.initiatingAddress = a.initiatingAddress

/-- The initiator after a connection was made with an own address. -/
def Initiator.connected (a : Initiator) (own : Address) : Initiator :=
  { a with initiatingAddress := if own = a.initiatingAddress then Address.kEmpty
      else a.initiatingAddress }

/-- The advertiser that sent an advertising PDU. -/
def advertiserOf (p : Packet) : Option AddressWithType :=
  match p.body with
  | .leLegacyAdvertisingPdu type .. | .leExtendedAdvertisingPdu type .. =>
    some ⟨p.sourceAddress, type⟩
  | _ => none

namespace LeController

/-- The address the initiator uses to an advertiser, the identity of which is looked up first. -/
def initiatingAddressTo (s : LeController) (env : Env) (advertisingAddress : AddressWithType) :
    Except Panic AddressWithType :=
  s.chooseAddress s.initiator.ownAddressType
    (s.generateResolvablePrivateAddress env.aes (s.resolved env.aes advertisingAddress)
      .loc (env.rand 1))

/-- A connectable advertiser is enabled with the address. -/
def advertises (s : LeController) (a : AddressWithType) : Bool :=
  s.legacyAdvertiser.advertisingEnable && s.legacyAdvertiser.isConnectable &&
    s.legacyAdvertiser.advertisingAddress = a ||
  s.extendedAdvertisers.any fun _ advertiser => advertiser.advertisingEnable &&
    advertiser.advertisingEventProperties.connectable && advertiser.advertisingAddress = a

/-- The initiator has one of the two addresses of a completion. -/
def expectsComplete (s : LeController) (initiatingAddress advertisingAddress : AddressWithType) :
    Bool :=
  s.initiator.pendingConnectRequest = some advertisingAddress ∨
    s.initiator.initiatingAddress = initiatingAddress.address

/-- What a step does to the initiator, and what it sends and makes for a connection. -/
inductive Connects (s : LeController) (env : Env) (action : Action) (s' : LeController)
    (out : List Output) : Prop
  /-- The initiator is left alone, and no connection is made. -/
  | apart : s'.initiator = s.initiator → Discovers out → Connects s env action s' out
  | reset : action = .command .reset → Connects s env action s' out
  /-- The initiator is enabled. -/
  | created {c : InitiateCommand} : action = .command (.initiate c) →
      s.initiator.Enabled s'.initiator → Discovers out →
      Connects s env action s' out
  /-- The host gives up the connection that it wanted. -/
  | cancelled : action = .command .leCreateConnectionCancel →
      s'.initiator = { s.initiator with connectEnable := false } → Discovers out →
      Connects s env action s' out
  /-- An advertising PDU is answered with a connect request. -/
  | asked {bytes : List UInt8} {rssi : UInt8} {p : Packet} {advertiser own : AddressWithType} :
      action = .packet bytes rssi p → advertiserOf p = some advertiser →
      s.initiator.connectEnable = true → s.initiator.pendingConnectRequest = none →
      s.initiatingAddressTo env advertiser = .ok own →
      s'.initiator = { s.initiator with
        pendingConnectRequest := some advertiser
        initiatingAddress := own.address } →
      (∀ o ∈ out, o.discovers = true ∨ o = .packet ⟨own.address, advertiser.address,
        .leConnect own.addressType advertiser.addressType s.initiator.le1mPhy.connectionIntervalMax
          s.initiator.le1mPhy.maxLatency s.initiator.le1mPhy.supervisionTimeout⟩) →
      Connects s env action s' out
  /-- An advertiser accepts a connect request. -/
  | accepted {bytes : List UInt8} {rssi : UInt8} {source destination : Address}
      {iType aType : AddressType} {interval latency timeout : UInt16} {resolved : AddressWithType}
      {events : List Output} :
      action =
        .packet bytes rssi ⟨source, destination, .leConnect iType aType interval latency timeout⟩ →
      s.advertises ⟨destination, aType⟩ = true → s'.initiator = s.initiator → Discovers events →
      out = .connection ⟨source, iType⟩ resolved ⟨destination, aType⟩ .peripheral interval
        latency timeout :: .packet
        ⟨destination, source, .leConnectComplete iType aType interval latency timeout⟩ :: events →
      Connects s env action s' out
  /-- A connect request is complete. -/
  | completed {bytes : List UInt8} {rssi : UInt8} {source destination : Address}
      {iType aType : AddressType} {interval latency timeout : UInt16} {resolved : AddressWithType} :
      action =
        .packet bytes rssi ⟨source, destination, .leConnectComplete iType aType interval latency
        timeout⟩ →
      s.expectsComplete ⟨destination, iType⟩ ⟨source, aType⟩ = true →
      s'.initiator = { s.initiator.connected destination with
        pendingConnectRequest := none
        connectEnable := false } →
      out =
        [.connection ⟨source, aType⟩ resolved ⟨destination, iType⟩ .central interval
        latency timeout] →
      Connects s env action s' out

variable {s s' : LeController} {env : Env} {i : Input} {out : List Output}

/-- The connection commands enable the initiator. -/
theorem enabled_of_initiate {c} : Yields (s.initiate env c) s.initiator.Enabled := by
  have hidle : ∀ {u}, require (!s.initiator.connectEnable) .commandDisallowed = .ok u →
      s.initiator.connectEnable = false := by
    intro u h
    simpa using h
  cases c with
  | leCreateConnection =>
    refine .bind fun _ h => ?_
    iterate 9 refine .bind fun _ _ => ?_
    exact .ok ⟨hidle h, rfl, rfl, rfl⟩
  | leExtendedCreateConnection =>
    refine .bind fun _ h => ?_
    iterate 6 refine .bind fun _ _ => ?_
    exact .ok ⟨hidle h, rfl, rfl, rfl⟩

/-- A command sends its status alone. -/
theorem discovers_answer {α : Type} {set : α → LeController} {r : Except ErrorCode α} :
    Discovers (s.answer set r).2 := by
  cases r with
  | error => exact .singleton rfl
  | ok => exact .singleton rfl

theorem discovers_execute (c : Command) : Discovers (s.execute env c).2 := by
  cases c with
  | advertisingSets c =>
    show Discovers (s.answerSets (s.advertisingSets env c)).2
    cases s.advertisingSets env c with
    | error => exact .singleton rfl
    | ok => exact .singleton rfl
  | _ => exact discovers_answer

/-- A command only discovers. -/
theorem discovers_command (c : Command) : Discovers (s.command env c).2 := by
  unfold command
  split
  · exact .singleton rfl
  · exact discovers_execute c

/-- The effect of a command. -/
theorem connects_of_command (c : Command) :
    Connects s env (.command c) (s.command env c).1 (s.command env c).2 := by
  have hout : Discovers (s.command env c).2 := discovers_command c
  have hstep : s.step ⟨env, .command c⟩ = .ok (s.command env c) := rfl
  have heff : Effect s env (.command c) (s.command env c).1 := effect_of_step hstep
  revert heff hout
  generalize (s.command env c).1 = s', (s.command env c).2 = out
  intro hout heff
  cases heff with
  | reset => exact .reset rfl
  | initiate _ _ _ _ h => exact .created rfl (enabled_of_initiate _ h) hout
  | cancelConnection _ _ _ _ h =>
    obtain ⟨-, -, h⟩ := bind_eq_ok.mp h
    cases h
    exact .cancelled rfl rfl hout
  | _ => exact .apart rfl hout

/-- What becomes of an advertising PDU, after it was scanned. -/
theorem connects_of_pdu {bytes rssi p advertiser target connectable directed}
    {scanned : Scanner × List Output}
    {r : Initiator × List Output} (hp : advertiserOf p = some advertiser)
    (hscanned : Discovers scanned.2)
    (h : s.connectIncomingPdu env advertiser target connectable directed = .ok r) :
    Connects s env (.packet bytes rssi p) { s with scanner := scanned.1, initiator := r.1 }
      (scanned.2 ++ r.2) := by
  unfold connectIncomingPdu at h
  dsimp only at h
  split at h
  · rename_i hrdy
    simp only [Bool.and_eq_true, Option.isNone_iff_eq_none] at hrdy
    obtain ⟨own, hown, h⟩ := bind_eq_ok.mp h
    cases h
    refine .asked rfl hp hrdy.1.1.1 hrdy.1.2 hown rfl ?_
    exact List.forall_mem_append.mpr ⟨fun o ho => .inl (hscanned o ho),
      List.forall_mem_singleton.mpr (.inr rfl)⟩
  · cases h
    exact .apart rfl (hscanned.append .nil)

/-- The effect of a connection request. -/
theorem connects_of_connect {bytes rssi source destination iType aType interval latency timeout} :
    Connects s env
      (.packet bytes rssi ⟨source, destination, .leConnect iType aType interval latency timeout⟩)
      { s
        with toAdvertisers :=
        (s.incomingLeConnectPacket env ⟨source, iType⟩ ⟨destination, aType⟩ interval
        latency timeout).1 }
      (s.incomingLeConnectPacket env ⟨source, iType⟩ ⟨destination, aType⟩ interval
        latency timeout).2 := by
  unfold incomingLeConnectPacket
  dsimp only
  split
  · rename_i haccepts
    refine .accepted rfl (Bool.or_eq_true_iff.mpr (.inl (Bool.and_eq_true_iff.mp haccepts).1))
      rfl .nil rfl
  · split
    · exact .apart rfl .nil
    · rename_i handle _ hkeys
      split
      · exact .apart rfl .nil
      · rename_i advertiser hget
        obtain ⟨a, ha, haccepts⟩ := HashMap.mem_keysWhere.mp (hkeys ▸ List.mem_cons_self)
        cases hget.symm.trans ha
        refine .accepted rfl ?_ rfl discovers_sendLeEvent rfl
        exact Bool.or_eq_true_iff.mpr (.inr (HashMap.any_eq_true.mpr
          ⟨handle, advertiser, hget, (Bool.and_eq_true_iff.mp haccepts).1⟩))

/-- The effect of its answer. -/
theorem connects_of_complete {bytes rssi source destination iType aType interval latency timeout} :
    Connects s env
      (.packet bytes rssi
        ⟨source, destination, .leConnectComplete iType aType interval latency timeout⟩)
      { s
        with initiator :=
        (s.incomingLeConnectCompletePacket env ⟨destination, iType⟩ ⟨source, aType⟩
        interval latency timeout).1 }
      (s.incomingLeConnectCompletePacket env ⟨destination, iType⟩ ⟨source, aType⟩ interval
        latency timeout).2 := by
  unfold incomingLeConnectCompletePacket
  split
  · rename_i hexpects
    exact .completed rfl (decide_eq_true hexpects) rfl rfl
  · exact .apart rfl .nil

/-- **Every step does one of these.** -/
theorem connects_of_step (h : s.step i = .ok (s', out)) : Connects s i.env i.action s' out := by
  obtain ⟨env, action⟩ := i
  cases action with
  | command c =>
    obtain ⟨rfl, rfl⟩ := Prod.mk.inj (Except.ok.inj h)
    exact connects_of_command c
  | tick =>
    have hout : Discovers out := discovers_tick _ h
    obtain ⟨_, -, h⟩ := bind_eq_ok.mp h
    cases h
    exact .apart rfl hout
  | packet bytes rssi p =>
    obtain ⟨source, destination, body⟩ := p
    cases body with
    | leLegacyAdvertisingPdu =>
      obtain ⟨a, b, ha, hb, h⟩ := afterPdu_eq_ok.mp h
      cases h
      exact connects_of_pdu rfl (discovers_legacyPdu _ ha) hb
    | leExtendedAdvertisingPdu =>
      obtain ⟨a, b, ha, hb, h⟩ := afterPdu_eq_ok.mp h
      cases h
      exact connects_of_pdu rfl (discovers_extendedPdu _ ha) hb
    | lePeriodicAdvertisingPdu =>
      obtain ⟨_, hy, h⟩ := bind_eq_ok.mp h
      cases h
      exact .apart rfl (discovers_periodic _ hy)
    | leScan =>
      cases h
      exact .apart rfl discovers_scan
    | leScanResponse =>
      cases h
      exact .apart rfl discovers_scanResponse
    | leConnect =>
      cases h
      exact connects_of_connect
    | leConnectComplete =>
      cases h
      exact connects_of_complete

end LeController

end RootCanal.Gap
