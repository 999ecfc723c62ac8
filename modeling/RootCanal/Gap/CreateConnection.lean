import RootCanal.Gap.Reception

/-!
# Two commands for one connection

LE Create Connection and LE Extended Create Connection with the LE 1M PHY alone make the same
initiator, or are refused for the same reason; after them the controller differs in the kind of
advertising that is in use.

* `initiate_eq` — the checks and the initiator of the two commands are the same.
* `connectRequests_withKinds` — the kind in use decides on the reports of a legacy PDU, and on
  nothing else.
* **`create_connections_agree`** — the two commands have the same status, and legacy PDUs are then
  answered with the same connect requests.

Source: `le_controller.cc` `LeCreateConnection`, `LeExtendedCreateConnection`,
`ConnectIncomingLeLegacyAdvertisingPdu`
-/

namespace RootCanal.Gap

open Lib RootCanal.Hci

/-- A legacy advertising PDU arrives. -/
def Input.isLegacyPdu (i : Input) : Bool :=
  match i.action with
  | .packet _ _ ⟨_, _, .leLegacyAdvertisingPdu ..⟩ => true
  | _ => false

/-- The connect request that is sent, if it is one. -/
def connectRequest? : Output → Option Packet
  | .packet ⟨source, destination, .leConnect iType aType interval latency timeout⟩ =>
    some ⟨source, destination, .leConnect iType aType interval latency timeout⟩
  | _ => none

namespace LeController

variable {s : LeController} {env : Env}

/-- The connect requests with which each input is answered. -/
def connectRequests : LeController → List Input → Except Panic (List (List Packet))
  | _, [] => .ok []
  | s, i :: inputs => do
    let (s', out) ← s.step i
    let rest ← connectRequests s' inputs
    .ok (out.filterMap connectRequest? :: rest)

/-! ## The commands -/

/-- The legacy command makes the checks that the loop over the PHYs makes of one PHY, and then its
own. -/
theorem leCreateConnection_eq (policy : InitiatorFilterPolicy) (peer : AddressWithType)
    (own : OwnAddressType) (p : InitiatingPhyParameters) :
    s.leCreateConnection env policy peer own p = (do
      require (!s.initiator.connectEnable) .commandDisallowed
      checkInitiatingPhy p
      require (own ≠ .randomDeviceAddress ∨ s.randomAddress ≠ Address.kEmpty)
        .invalidHciCommandParameters
      require (own ≠ .resolvableOrRandomAddress ∨ policy ≠ .usePeerAddress ∨
        (s.generateResolvablePrivateAddress env.aes peer .loc (env.rand 0)).isSome ∨
        s.randomAddress ≠ Address.kEmpty) .invalidHciCommandParameters
      .ok { s.initiator with
            connectEnable := true
            initiatorFilterPolicy := policy
            peerAddress := peer
            ownAddressType := own
            le1mPhy := { p with enabled := true }
            le2mPhy := { s.initiator.le2mPhy with enabled := false }
            leCodedPhy := { s.initiator.leCodedPhy with enabled := false }
            pendingConnectRequest := none }) := by
  unfold leCreateConnection checkInitiatingPhy
  simp only [bind_assoc]

/-- With one PHY, the LE 1M PHY, the checks of the extended command on its PHYs pass. -/
theorem leExtendedCreateConnection_eq (policy : InitiatorFilterPolicy) (peer : AddressWithType)
    (own : OwnAddressType) (p : InitiatingPhyParameters) :
    s.leExtendedCreateConnection env policy own peer 0x1 [p] =
      s.leCreateConnection env policy peer own p := by
  have hone : [p].forM checkInitiatingPhy = checkInitiatingPhy p := bind_pure _
  rw [leCreateConnection_eq]
  unfold leExtendedCreateConnection
  rw [hone]
  have hphys : require ((0x1 : UInt8) &&& 0xf8 = 0) .unsupportedFeatureOrParameterValue =
      .ok () := by decide
  have hcount : require (popcount 0x1 = [p].length) .invalidHciCommandParameters = .ok () := rfl
  have hsome : require ((0x1 : UInt8) ≠ 0) .invalidHciCommandParameters = .ok () := by decide
  rw [hphys, hcount, hsome]
  rfl

theorem initiate_eq (policy : InitiatorFilterPolicy) (peer : AddressWithType) (own : OwnAddressType)
    (p : InitiatingPhyParameters) : s.initiate env
    (.leExtendedCreateConnection policy own peer 0x1 [p]) =
      s.initiate env (.leCreateConnection policy peer own p) :=
  leExtendedCreateConnection_eq policy peer own p

/-! ## The PDUs -/

section pdu

variable {bytes data : List UInt8} {rssi : UInt8} {advertising target : AddressWithType}
  {type : LegacyAdvertisingType}

theorem connectRequests_sendLeEvent (code : SubeventCode) (event : Event) :
    (s.sendLeEvent code event).filterMap connectRequest? = [] := by
  unfold sendLeEvent
  split <;> rfl

theorem connectRequests_legacyReports {resolved : AddressWithType} {directedReport : Bool} :
    (s.legacyReports rssi resolved target type directedReport data).filterMap
      connectRequest? = [] := by
  unfold legacyReports
  rw [List.filterMap_append]
  split_ifs <;> simp only [connectRequests_sendLeEvent, List.filterMap_nil, List.append_nil]

theorem connectRequests_scanRequest {scanner resolved scannable report request} :
    Yields (s.scanRequest env scanner advertising resolved scannable report request) fun r =>
      r.2.filterMap connectRequest? = [] := by
  unfold scanRequest
  exact .ite (fun _ => .bind fun _ _ => .ok rfl) fun _ => .ok rfl

/-- What the scanner does with a PDU but for its reports, which are no connect requests. -/
theorem requests_of_scan :
    (s.scanIncomingLeLegacyAdvertisingPdu env bytes rssi advertising target type data).map
        (fun r => (r.1, r.2.filterMap connectRequest?)) =
      let resolved := s.resolved env.aes advertising
      if s.scanner.scanEnable && s.scannerAccepts env target resolved (type = .advDirectInd) then
        (s.scanRequest env (s.scanner.record bytes) advertising resolved
          (type = .advInd ∨ type = .advScanInd) (s.scanner.isFresh bytes)
          { connectable := type = .advInd ∨ type = .advDirectInd
            extended := false
            primaryPhy := .le1m
            secondaryPhy := .noPackets
            timeout := env.now + kScanRequestTimeout }).map fun r => (r.1, [])
      else .ok (s.scanner, []) := by
  unfold scanIncomingLeLegacyAdvertisingPdu
  dsimp only
  split
  · cases hreq : s.scanRequest env (s.scanner.record bytes) advertising
      (s.resolved env.aes advertising) _ _ _ with
    | error => rfl
    | ok r =>
      show Except.ok (r.1, List.filterMap connectRequest? (_ ++ r.2)) = .ok (r.1, [])
      rw [List.filterMap_append, connectRequests_scanRequest _ hreq]
      split_ifs <;> simp only [connectRequests_legacyReports, List.filterMap_nil, List.append_nil]
  · rfl

/-- What is left of a step but for the reports and the kinds in use. -/
def requests (r : Except Panic (LeController × List Output)) :
    Except Panic (LeController × List Packet) :=
  r.map fun r => (r.1.withKinds false false, r.2.filterMap connectRequest?)

theorem requests_afterPdu {scanned connected} : requests (s.afterPdu scanned connected) =
    scanned.map (fun r => (r.1, r.2.filterMap connectRequest?)) >>= fun r => connected >>= fun r' =>
      .ok ({ s.withKinds false false with scanner := r.1, initiator := r'.1 },
        r.2 ++ r'.2.filterMap connectRequest?) := by
  cases scanned with
  | error => rfl
  | ok =>
    cases connected with
    | error => rfl
    | ok => exact congrArg (fun out => Except.ok (_, out)) List.filterMap_append

/-- A legacy PDU is answered with the same connect requests whichever kind is in use. -/
theorem requests_withKinds {i : Input} (hi : i.isLegacyPdu = true) (l e : Bool) :
    requests ((s.withKinds l e).step i) = requests (s.step i) := by
  obtain ⟨env, action⟩ := i
  unfold Input.isLegacyPdu at hi
  split at hi
  · rename_i bytes rssi source destination aType tType type data haction
    dsimp only at haction
    subst haction
    show requests ((s.withKinds l e).afterPdu _ _) = requests (s.afterPdu _ _)
    rw [requests_afterPdu, requests_afterPdu, requests_of_scan, requests_of_scan]
    rfl
  · cases hi

end pdu

theorem connectRequests_withKinds {pdus : List Input} (h : ∀ i ∈ pdus, i.isLegacyPdu = true)
    (l e : Bool) : connectRequests (s.withKinds l e) pdus = connectRequests s pdus := by
  induction pdus generalizing s l e with
  | nil => rfl
  | cons i pdus ih =>
    -- the rest does not depend on the kinds, so that what a step leaves of them does not matter
    have hcons : ∀ s : LeController, connectRequests s (i :: pdus) = requests
        (s.step i) >>= fun r => connectRequests r.1 pdus >>= fun rest => .ok (r.2 :: rest) := by
      intro s
      rw [connectRequests]
      cases s.step i with
      | error => rfl
      | ok r =>
        show _ = connectRequests (r.1.withKinds false false) pdus >>= _
        rw [ih fun i hi => h i (List.mem_cons_of_mem _ hi)]
        rfl
    rw [hcons, hcons, requests_withKinds (h i List.mem_cons_self)]

/-! ## The commands and the PDUs -/

/-- The initiator does not depend on the kind that the command puts in use. -/
theorem command_initiate {c : InitiateCommand} {l e : Bool}
    (h : s.select c.kind = some (s.withKinds l e)) : s.command env (.initiate c) =
      ((s.execute env (.initiate c)).1.withKinds l e, (s.execute env (.initiate c)).2) := by
  have hanswer : ∀ r, (s.withKinds l e).answer
      (fun initiator => { s.withKinds l e with initiator }) r =
      ((s.answer (fun initiator => { s with initiator }) r).1.withKinds l e,
        (s.answer (fun initiator => { s with initiator }) r).2) := by
    rintro (_ | _) <;> rfl
  unfold command
  rw [show s.select (Command.initiate c).kind = _ from h]
  exact hanswer (s.initiate env c)

/-- **The two commands have the same status and are followed by the same connect requests.** -/
theorem create_connections_agree (hlegacy : s.legacyAdvertisingInUse = false)
    (hextended : s.extendedAdvertisingInUse = false) (env : Env) (policy : InitiatorFilterPolicy)
    (peer : AddressWithType) (own : OwnAddressType) (p : InitiatingPhyParameters) :
    (s.command env (.initiate (.leCreateConnection policy peer own p))).2 =
      (s.command env (.initiate (.leExtendedCreateConnection policy own peer 0x1 [p]))).2 ∧
    ∀ pdus : List Input, (∀ i ∈ pdus, i.isLegacyPdu = true) →
      connectRequests (s.command env (.initiate (.leCreateConnection policy peer own p))).1 pdus =
      connectRequests
        (s.command env (.initiate (.leExtendedCreateConnection policy own peer 0x1 [p]))).1
        pdus := by
  have hleg : s.select .legacy = some (s.withKinds true false) := by
    simp [select, hextended, withKinds]
  have hext : s.select .extended = some (s.withKinds false true) := by
    simp [select, hlegacy, withKinds]
  have hsame : s.execute env (.initiate (.leExtendedCreateConnection policy own peer 0x1 [p])) =
      s.execute env (.initiate (.leCreateConnection policy peer own p)) :=
    congrArg (s.answer _) (initiate_eq policy peer own p)
  rw [command_initiate hleg, command_initiate hext, hsame]
  refine ⟨rfl, fun pdus hpdus => ?_⟩
  rw [connectRequests_withKinds hpdus, connectRequests_withKinds hpdus]

/-- The first command of a controller may be of either kind, and the initiator then answers the
device 7. -/
theorem create_connections_agree_new : connectRequests ((new 1 {}).command (.at 0)
    (.initiate (.leExtendedCreateConnection .usePeerAddress .publicDeviceAddress
      ⟨7, .publicDeviceAddress⟩ 0x1
      [{ scanInterval := 16, scanWindow := 16, connectionIntervalMin := 24
         connectionIntervalMax := 24, supervisionTimeout := 100 }]))).1 [hears [1]] =
      .ok [[⟨1, 7, .leConnect .publicDeviceAddress .publicDeviceAddress 24 0 100⟩]] := by
  rw [← (create_connections_agree rfl rfl _ _ _ _ _).2 _ (by decide)]
  decide +kernel

end LeController

end RootCanal.Gap
