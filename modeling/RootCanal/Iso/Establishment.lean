import RootCanal.Iso.Widths

/-!
# The CIS establishment procedure on two controllers

The Central sends LL_CIS_REQ with the parameters it has computed, the Peripheral stores them and,
once its host accepts, answers with LL_CIS_RSP; the Central reports LE CIS Established and sends
LL_CIS_IND, on which the Peripheral reports it too.  `Establishment` is one run of this procedure
between two managers.

Both sides then hold the same parameters (`Establishment.reported_parameters`), but the Peripheral
reports BN, FT and Max_PDU with the directions exchanged.  **`Establishment.reports_agree_iff`:
the two events agree exactly when the configuration is the same in both directions.**

Source: `rust/src/llcp/iso.rs`
-/

namespace RootCanal.Iso

open Lib RootCanal.Hci RootCanal.Llcp

/-- What an LE CIS Established event reports, without the connection handle, which each side
chooses for itself. -/
def report (ev : LeCisEstablishedV1) : LeCisEstablishedV1 := { ev with connectionHandle := 0 }

/-- The parameters the two directions share in a report. -/
structure SameDirections (cig : CigConfig) (cis : CisConfig) : Prop where
  bn : cis.bnUsedCToP = cis.bnUsedPToC
  ft : cig.ftCToP = cig.ftPToC
  /-- Only the low octet of Max_PDU is reported. -/
  maxPdu : (cis.maxPduCToP.getD 251).toUInt8 = (cis.maxPduPToC.getD 251).toUInt8

namespace IsoManager

/-! ## The two reports of the same parameters -/

section reports

variable {chk chk' : Bool} {p : CisParameters} {h k : UInt16} {evC evP : LeCisEstablishedV1}

/-- Two builds that both return compute the same latency: overflow is trapped or wraps. -/
theorem transportLatency_agree {delay sduInterval n n' iso ft}
    {framed : Bool} (hn : transportLatency chk delay iso ft sduInterval framed = .ok n)
    (hn' : transportLatency chk' delay iso ft sduInterval framed = .ok n') : n = n' := by
  obtain ⟨interval, hint, hn⟩ := bind_eq_ok.mp hn
  obtain ⟨flushed, hfls, hn⟩ := bind_eq_ok.mp hn
  obtain ⟨total, htotal, hn⟩ := bind_eq_ok.mp hn
  obtain ⟨interval', hint', hn'⟩ := bind_eq_ok.mp hn'
  obtain ⟨flushed', hfls', hn'⟩ := bind_eq_ok.mp hn'
  obtain ⟨total', htotal', hn'⟩ := bind_eq_ok.mp hn'
  have htotals : total = total' := by
    rw [Checked.add_ok htotal, Checked.mul_ok hfls, Checked.mul_ok hint,
      Checked.add_ok htotal', Checked.mul_ok hfls', Checked.mul_ok hint']
  subst htotals
  split at hn
  · rw [if_pos (by assumption)] at hn'
    rw [Checked.add_ok hn, Checked.add_ok hn']
  · rw [if_neg (by assumption)] at hn'
    rw [Checked.sub_ok hn, Checked.sub_ok hn']

/-- The Central and the Peripheral report the same parameters alike exactly when BN, FT and the
low octet of Max_PDU are the same in both directions. -/
theorem reports_agree (hC : establishedCentral chk h p = .ok evC)
    (hP : establishedPeripheral chk' k p = .ok evP) :
    report evC = report evP ↔ p.bnCToP = p.bnPToC ∧ p.ftCToP = p.ftPToC ∧
      p.maxPduCToP.toUInt8 = p.maxPduPToC.toUInt8 := by
  obtain ⟨latencyC, hlatencyC, hC⟩ := bind_eq_ok.mp hC
  obtain ⟨latencyP, hlatencyP, hC⟩ := bind_eq_ok.mp hC
  obtain ⟨phyC, hphyC, hC⟩ := bind_eq_ok.mp hC
  obtain ⟨phyP, hphyP, hC⟩ := bind_eq_ok.mp hC
  obtain ⟨latencyC', hlatencyC', hP⟩ := bind_eq_ok.mp hP
  obtain ⟨latencyP', hlatencyP', hP⟩ := bind_eq_ok.mp hP
  obtain ⟨phyC', hphyC', hP⟩ := bind_eq_ok.mp hP
  obtain ⟨phyP', hphyP', hP⟩ := bind_eq_ok.mp hP
  obtain rfl : latencyC = latencyC' := transportLatency_agree hlatencyC hlatencyC'
  obtain rfl : latencyP = latencyP' := transportLatency_agree hlatencyP hlatencyP'
  obtain rfl : phyC = phyC' := Except.ok.inj (hphyC.symm.trans hphyC')
  obtain rfl : phyP = phyP' := Except.ok.inj (hphyP.symm.trans hphyP')
  cases hC
  cases hP
  simp only [report, LeCisEstablishedV1.mk.injEq, true_and, and_true]
  constructor
  · rintro ⟨hbn, -, hft, -, hpdu, -⟩
    exact ⟨hbn, hft, hpdu⟩
  · rintro ⟨hbn, hft, hpdu⟩
    exact ⟨hbn, hbn.symm, hft, hft.symm, hpdu, hpdu.symm⟩

end reports

/-! ## The packets of the procedure -/

/-- The input takes the manager from `s` to `s'`, and these are among what it sends. -/
def Sends (env : Env) (s : IsoManager) (input : Input) (s' : IsoManager) (sent : List Output) :
    Prop :=
  ∃ out, isoManager.step s (env, input) = .ok (s', out) ∧ ∀ o ∈ sent, o ∈ out

section packets

variable {env : Env} {s s' : IsoManager} {a h : UInt16} {c : Cis} {p : CisParameters}

/-- LL_CIS_REQ carries every parameter of the Central but the sync delays, so the stored ones
are its parameters once LL_CIS_IND has brought these. -/
theorem requestedCis_parameters {cig cis} (hp : Computed cig cis p) (r : CisRequest) :
    (requestedCis a h (cisReq r cig cis p)).parameters = some
    { p with cigSyncDelay := 0, cisSyncDelay := 0 } := by
  have hframed : decide ((if cig.framed then 1 else 0 : UInt8) ≠ 0) = cig.framed := by
    cases cig.framed <;> rfl
  unfold requestedCis cisReq
  simp only [hframed, hp.maxSduCToP, hp.maxSduPToC, hp.sduIntervalCToP, hp.sduIntervalPToC,
    hp.ftCToP, hp.ftPToC, hp.isoInterval, hp.framed]

/-- The LL_CIS_REQ of a request carries the parameters stored for its CIS. -/
theorem deque_sends {r cig cis q} (hnext : s.cisConnectionRequests.getLast? = some r)
    (hcig : s.cigConfig[r.cigId]? = some cig) (hcis : s.cisConfig[(r.cigId, r.cisId)]? = some cis)
    (hdq : s.dequeCisConnectionRequest env = .ok (s', [.llcp a (.cisReq q)])) :
    ∃ p c, Computed cig cis p ∧ q = cisReq r cig cis p ∧
      s'.cisConnections[r.cisConnectionHandle]? = some c ∧ c.parameters = some p := by
  have hstr : Started env s s' _ := started_of_deque _ hdq
  cases hstr with
  | @sent _ _ cis' cig' p c hrs hcis' hcig' hp hc =>
    rw [hrs, List.getLast?_concat] at hnext
    cases hnext
    obtain rfl : cig = cig' := Option.some.inj (hcig.symm.trans hcig')
    obtain rfl : cis = cis' := Option.some.inj (hcis.symm.trans hcis')
    refine ⟨p, requested r.aclConnectionHandle p c, new_computed hp, rfl, ?_, rfl⟩
    rw [startRequest_getElem?, if_pos rfl, hc]
    rfl

/-- A request received is stored under the handle it is reported with. -/
theorem Sends.requested {q e}
    (hstep : Sends env s (.llcp a (.cisReq q)) s' [.hci (.leCisRequest e)]) :
    s'.cisConnections[e.cisConnectionHandle]? = some (requestedCis a e.cisConnectionHandle q) := by
  obtain ⟨out, heq, hsent⟩ := hstep
  have he := hsent _ (List.mem_singleton_self _)
  cases effect_of_step heq with
  | skipped hskips => exact absurd hskips id
  | requestReceived hnew =>
    cases List.mem_singleton.mp he
    exact (insertCis_eq_some _ _ (newCisConnectionHandle_ok hnew).1).mpr (Or.inl ⟨rfl, rfl⟩)

/-- An accepted request keeps its parameters. -/
theorem Sends.accepted {q} (hc : s.cisConnections[h]? = some c)
    (hstep : Sends env s (.hci (.leAcceptCisRequest ⟨h⟩)) s' [.llcp a (.cisRsp q)]) :
    s'.cisConnections[h]? = some { c with state := .pendingInd } := by
  obtain ⟨out, heq, hsent⟩ := hstep
  have hrsp := hsent _ (List.mem_singleton_self _)
  cases effect_of_step heq with
  | refused => cases List.mem_singleton.mp hrsp
  | configured hcmd | dataPath hcmd | broadcast hcmd => cases hcmd
  | accepted =>
    rw [modifyCis_getElem?, if_pos rfl, hc]
    rfl

/-- What LL_CIS_RSP makes the Central report is about the parameters of the CIS. -/
theorem Sends.established {q ind ev}
    (hc : s.cisConnections[ev.connectionHandle]? = some c) (hp : c.parameters = some p)
    (hstep : Sends env s (.llcp a (.cisRsp q)) s'
      [.llcp a (.cisInd ind), .hci (.leCisEstablishedV1 ev)]) :
    ind = ⟨0, 0, p.cigSyncDelay, p.cisSyncDelay, 0⟩ ∧
      establishedCentral env.overflowChecks ev.connectionHandle p = .ok ev := by
  obtain ⟨out, heq, hsent⟩ := hstep
  have hind := hsent _ (List.mem_cons_self ..)
  have hev := hsent _ (List.mem_cons_of_mem _ (List.mem_singleton_self _))
  cases effect_of_step heq with
  | skipped => cases hind
  | @established _ h' _ c' p' ev' _ _ hc' _ hp' hev' hstr =>
    have h1 : ind = ⟨0, 0, p'.cigSyncDelay, p'.cisSyncDelay, 0⟩ ∧ ev = ev' := by
      cases hstr with
      | idle | sent => exact ⟨by simpa using hind, by simpa using hev⟩
    obtain ⟨hdelays, rfl⟩ := h1
    obtain rfl : ev.connectionHandle = h' := (establishedCentral_ok _ hev').1
    obtain rfl : c = c' := Option.some.inj (hc.symm.trans hc')
    obtain rfl : p = p' := Option.some.inj (hp.symm.trans hp')
    exact ⟨hdelays, hev'⟩

/-- What LL_CIS_IND makes the Peripheral report is about the stored parameters, with the sync
delays of the packet. -/
theorem Sends.confirmed {ind ev} (hc : s.cisConnections[ev.connectionHandle]? = some c)
    (hp : c.parameters = some p)
    (hstep : Sends env s (.llcp a (.cisInd ind)) s' [.hci (.leCisEstablishedV1 ev)]) :
    establishedPeripheral env.overflowChecks ev.connectionHandle
      { p with cigSyncDelay := ind.cigSyncDelay, cisSyncDelay := ind.cisSyncDelay } = .ok ev := by
  obtain ⟨out, heq, hsent⟩ := hstep
  have hev := hsent _ (List.mem_singleton_self _)
  cases effect_of_step heq with
  | skipped => cases hev
  | @confirmed _ h' _ c' p' _ hc' _ hp' hev' =>
    cases List.mem_singleton.mp hev
    obtain rfl : ev.connectionHandle = h' := (establishedPeripheral_ok _ hev').1
    obtain rfl : c = c' := Option.some.inj (hc.symm.trans hc')
    obtain rfl : p = p' := Option.some.inj (hp.symm.trans hp')
    exact hev'

end packets

end IsoManager

/-! ## One run of the procedure -/

open IsoManager

/-- One run of the CIS establishment procedure between two managers, with the LE CIS Established
event each side reports for the CIS. Between the steps of the procedure the managers may do
anything else that leaves the entry of the CIS alone. -/
structure Establishment where
  request : CisRequest
  cig : CigConfig
  cis : CisConfig
  /-- The link, seen from the Peripheral. -/
  link : UInt16
  req : CisReq
  requestEvent : LeCisRequest
  rsp : CisRsp
  ind : CisInd
  centralEvent : LeCisEstablishedV1
  peripheralEvent : LeCisEstablishedV1
  (env₁ env₂ env₃ env₄ env₅ : Env)
  /-- The Central takes the request from its queue and sends LL_CIS_REQ. -/
  (central₀ central₁ : IsoManager)
  next : central₀.cisConnectionRequests.getLast? = some request
  cigConfig : central₀.cigConfig[request.cigId]? = some cig
  cisConfig : central₀.cisConfig[(request.cigId, request.cisId)]? = some cis
  requested : central₀.dequeCisConnectionRequest env₁ =
    .ok (central₁, [.llcp request.aclConnectionHandle (.cisReq req)])
  /-- The Peripheral receives it and tells its host. -/
  (peripheral₀ peripheral₁ : IsoManager)
  received : Sends env₂ peripheral₀ (.llcp link (.cisReq req)) peripheral₁
    [.hci (.leCisRequest requestEvent)]
  /-- The host accepts, and the Peripheral sends LL_CIS_RSP. -/
  (peripheral₂ peripheral₃ : IsoManager)
  offered : peripheral₂.cisConnections[requestEvent.cisConnectionHandle]? =
    peripheral₁.cisConnections[requestEvent.cisConnectionHandle]?
  accepted : Sends env₃ peripheral₂ (.hci (.leAcceptCisRequest ⟨requestEvent.cisConnectionHandle⟩))
    peripheral₃ [.llcp link (.cisRsp rsp)]
  /-- The Central receives it, sends LL_CIS_IND and reports the CIS. -/
  (central₂ central₃ : IsoManager)
  waiting : central₂.cisConnections[request.cisConnectionHandle]? =
    central₁.cisConnections[request.cisConnectionHandle]?
  established : Sends env₄ central₂ (.llcp request.aclConnectionHandle (.cisRsp rsp)) central₃
    [.llcp request.aclConnectionHandle (.cisInd ind), .hci (.leCisEstablishedV1 centralEvent)]
  centralHandle : centralEvent.connectionHandle = request.cisConnectionHandle
  /-- The Peripheral receives it and reports the CIS. -/
  (peripheral₄ peripheral₅ : IsoManager)
  pending : peripheral₄.cisConnections[requestEvent.cisConnectionHandle]? =
    peripheral₃.cisConnections[requestEvent.cisConnectionHandle]?
  confirmed : Sends env₅ peripheral₄ (.llcp link (.cisInd ind)) peripheral₅
    [.hci (.leCisEstablishedV1 peripheralEvent)]
  peripheralHandle : peripheralEvent.connectionHandle = requestEvent.cisConnectionHandle

namespace Establishment

/-- The two sides report the same parameters, those the Central computed. -/
theorem reported_parameters (e : Establishment) : ∃ p, Computed e.cig e.cis p ∧
    establishedCentral e.env₄.overflowChecks e.request.cisConnectionHandle p = .ok e.centralEvent ∧
    establishedPeripheral e.env₅.overflowChecks e.requestEvent.cisConnectionHandle p =
      .ok e.peripheralEvent := by
  obtain ⟨p, c, hp, hreq, hc, hpar⟩ := deque_sends e.next e.cigConfig e.cisConfig e.requested
  -- the Central answers from the entry it stored with the request
  have hcen : e.central₂.cisConnections[e.centralEvent.connectionHandle]? = some c := by
    rw [e.centralHandle, e.waiting, hc]
  obtain ⟨hind, hevC⟩ := e.established.established hcen hpar
  -- the Peripheral stores the request, and keeps it through the acceptance
  have hoffered := e.received.requested
  rw [← e.offered] at hoffered
  have hacc := e.accepted.accepted hoffered
  rw [← e.pending, ← e.peripheralHandle, hreq] at hacc
  have hstored := requestedCis_parameters (a := e.link) (h := e.peripheralEvent.connectionHandle)
      hp e.request
  have hevP := e.confirmed.confirmed hacc hstored
  rw [hind, e.peripheralHandle] at hevP
  rw [e.centralHandle] at hevC
  exact ⟨p, hp, hevC, hevP⟩

/-- **The two sides report the CIS alike exactly when its configuration is the same in both
directions.** -/
theorem reports_agree_iff (e : Establishment) :
    report e.centralEvent = report e.peripheralEvent ↔ SameDirections e.cig e.cis := by
  obtain ⟨p, hp, hevC, hevP⟩ := e.reported_parameters
  rw [reports_agree hevC hevP, hp.ftCToP, hp.ftPToC, hp.maxPduCToP, hp.maxPduPToC,
    ← UInt8.toNat_inj, hp.bnCToP, hp.bnPToC]
  constructor
  · rintro ⟨hbn, hft, hpdu⟩
    exact ⟨hbn, hft, hpdu⟩
  · intro h
    exact ⟨h.bn, h.ft, h.maxPdu⟩

/-! ## Two directions that differ -/

/-- Configure one CIS with SDUs of 300 octets to the Peripheral and 100 octets back. -/
def configureAsymmetric : Env × Input :=
  (sampleEnv, .hci (.leSetCigParameters (sampleCig 1 [⟨1, 300, 100, 1, 1⟩])))

/-- The state some inputs lead to from the initial one. -/
def stateAfter (inputs : List (Env × Input)) : IsoManager :=
  match isoManager.exec new inputs with
  | .ok (_, s) => s
  | .error _ => new

/-- The link `0x40` comes up, with this side as Peripheral. -/
def peripheralLink : Env × Input := (sampleEnv, .addAclConnection 0x40 .peripheral)

/-- The host accepts the request of the first CIS. -/
def acceptCommand : Env × Input := (sampleEnv, .hci (.leAcceptCisRequest ⟨0xe00⟩))

def asymmetricReq : CisReq where
  cigId := 1
  cisId := 1
  phyCToP := 1
  phyPToC := 1
  framed := 0
  maxSduCToP := 300
  maxSduPToC := 100
  sduIntervalCToP := 10000
  sduIntervalPToC := 10000
  maxPduCToP := 251
  maxPduPToC := 251
  nse := 2
  subInterval := 5000
  bnCToP := 2
  bnPToC := 1
  ftCToP := 1
  ftPToC := 1
  isoInterval := 8
  cisOffsetMin := 0
  cisOffsetMax := 0
  connEventCount := 0

def asymmetricEvent (bnCToP bnPToC : UInt8) : LeCisEstablishedV1 where
  status := .success
  connectionHandle := 0xe00
  cigSyncDelay := 10000
  cisSyncDelay := 10000
  transportLatencyCToP := 10000
  transportLatencyPToC := 10000
  phyCToP := .le1m
  phyPToC := .le1m
  nse := 2
  bnCToP := bnCToP
  bnPToC := bnPToC
  ftCToP := 1
  ftPToC := 1
  maxPduCToP := 251
  maxPduPToC := 251
  isoInterval := 8

/-- The procedure for the asymmetric CIS, each state as the run of its manager leads to it. -/
def asymmetric : Establishment where
  request := ⟨1, 1, 0x40, 0xe00⟩
  cig := ⟨8, 10000, 10000, 1, 1, false, false⟩
  cis := ⟨300, 100, 1, 1, none, none, none, none, none⟩
  link := 0x40
  req := asymmetricReq
  requestEvent := ⟨0x40, 0xe00, 1, 1⟩
  rsp := ⟨0, 0xffffff, 0⟩
  ind := ⟨0, 0, 10000, 10000, 0⟩
  centralEvent := asymmetricEvent 2 1
  peripheralEvent := asymmetricEvent 1 2
  env₁ := sampleEnv
  env₂ := sampleEnv
  env₃ := sampleEnv
  env₄ := sampleEnv
  env₅ := sampleEnv
  central₀ := { stateAfter [linkUp, configureAsymmetric] with
    cigConfig := (stateAfter [linkUp, configureAsymmetric, createCommand [0xe00]]).cigConfig
    cisConnectionRequests := [⟨1, 1, 0x40, 0xe00⟩] }
  central₁ := stateAfter [linkUp, configureAsymmetric, createCommand [0xe00]]
  next := rfl
  cigConfig := by decide +kernel
  cisConfig := by decide +kernel
  requested := by decide +kernel
  peripheral₀ := stateAfter [peripheralLink]
  peripheral₁ := stateAfter [peripheralLink, (sampleEnv, .llcp 0x40 (.cisReq asymmetricReq))]
  received := ⟨[.hci (.leCisRequest ⟨0x40, 0xe00, 1, 1⟩)], by decide +kernel, by decide⟩
  peripheral₂ := stateAfter [peripheralLink, (sampleEnv, .llcp 0x40 (.cisReq asymmetricReq))]
  peripheral₃ := stateAfter [peripheralLink, (sampleEnv, .llcp 0x40 (.cisReq asymmetricReq)),
    acceptCommand]
  offered := rfl
  accepted := ⟨[.llcp 0x40 (.cisRsp ⟨0, 0xffffff, 0⟩),
    .hci (.leAcceptCisRequestStatus ⟨.success, 1⟩)], by decide +kernel, by decide⟩
  central₂ := stateAfter [linkUp, configureAsymmetric, createCommand [0xe00]]
  central₃ := stateAfter [linkUp, configureAsymmetric, createCommand [0xe00], responseReceived]
  waiting := rfl
  established := ⟨[.llcp 0x40 (.cisInd ⟨0, 0, 10000, 10000, 0⟩),
    .hci (.leCisEstablishedV1 (asymmetricEvent 2 1))], by decide +kernel, by decide⟩
  centralHandle := rfl
  peripheral₄ := stateAfter [peripheralLink, (sampleEnv, .llcp 0x40 (.cisReq asymmetricReq)),
    acceptCommand]
  peripheral₅ := stateAfter [peripheralLink, (sampleEnv, .llcp 0x40 (.cisReq asymmetricReq)),
    acceptCommand, (sampleEnv, .llcp 0x40 (.cisInd ⟨0, 0, 10000, 10000, 0⟩))]
  pending := rfl
  confirmed := ⟨[.hci (.leCisEstablishedV1 (asymmetricEvent 1 2))], by decide +kernel, by decide⟩
  peripheralHandle := rfl

/-- The Central reports BN 2 to the Peripheral and 1 back, the Peripheral the reverse. -/
theorem asymmetric_reports_differ :
    asymmetric.centralEvent.bnCToP = 2 ∧ asymmetric.peripheralEvent.bnCToP = 1 ∧
    report asymmetric.centralEvent ≠ report asymmetric.peripheralEvent := by
  decide

end Establishment

end RootCanal.Iso
