import RootCanal.Iso.Requests

/-!
# Arithmetic and packet widths of the CIS procedure

When an LE Create CIS command is accepted and the peer accepts its requests, the Central computes
the parameters of each CIS, encodes LL_CIS_REQ and LL_CIS_IND, and reports LE CIS Established.
Any of these can panic: a division by zero, an arithmetic overflow, a value too wide for its
field.

* `Computed` is what `CisParameters.new` computes, in exact arithmetic.
* `RequestFits` and `ReportFits` say when the two halves of the procedure go through, as
  conditions on the stored configurations only.
* `ConfigsValid` is what the CIG commands do check of a configuration, in every run.
* `deque_returns_iff`, `llCisRsp_eq_ok`: the handlers go through exactly when their half fits.
-/

namespace RootCanal.Iso

open Lib RootCanal.Hci RootCanal.Llcp

/-! ## What the parameters are -/

/-- The burst number used in a direction: the configured one, or as many PDUs of 251 octets as
one SDU takes. -/
def burstNumberUsed (bn : Option UInt8) (maxSdu : UInt16) : Nat :=
  match bn with
  | some bn => bn.toNat
  | none => (maxSdu.toNat + 250) / 251

namespace CisConfig

variable (cis : CisConfig)

/-- The burst number used from central to peripheral. -/
def bnUsedCToP : Nat := burstNumberUsed cis.bnCToP cis.maxSduCToP

/-- The burst number used from peripheral to central. -/
def bnUsedPToC : Nat := burstNumberUsed cis.bnPToC cis.maxSduPToC

/-- The number of subevents used: the configured one, or the larger of the burst numbers. -/
def nseUsed : Nat :=
  match cis.nse with
  | some nse => nse.toNat
  | none => max cis.bnUsedCToP cis.bnUsedPToC

/-- What the CIG commands check of a CIS: the SDUs are at most 4095 octets long, and the PHYs
are some of the three that exist. -/
structure Valid : Prop where
  maxSduCToP : cis.maxSduCToP.toNat < 2 ^ 12
  maxSduPToC : cis.maxSduPToC.toNat < 2 ^ 12
  phyCToP : Returns (selectPhy cis.phyCToP)
  phyPToC : Returns (selectPhy cis.phyPToC)

end CisConfig

/-- The ISO interval in microseconds. -/
def CigConfig.interval (cig : CigConfig) : Nat := cig.isoInterval.toNat * 1250

/-- The parameters of a CIS, in exact arithmetic. -/
structure Computed (cig : CigConfig) (cis : CisConfig) (p : CisParameters) : Prop where
  cigSyncDelay : p.cigSyncDelay.toNat = cig.interval
  cisSyncDelay : p.cisSyncDelay = p.cigSyncDelay
  phyCToP : selectPhy cis.phyCToP = .ok p.phyCToP
  phyPToC : selectPhy cis.phyPToC = .ok p.phyPToC
  nse : p.nse.toNat = cis.nseUsed
  nse_pos : cis.nseUsed ≠ 0
  bnCToP : p.bnCToP.toNat = cis.bnUsedCToP
  bnPToC : p.bnPToC.toNat = cis.bnUsedPToC
  ftCToP : p.ftCToP = cig.ftCToP
  ftPToC : p.ftPToC = cig.ftPToC
  maxPduCToP : p.maxPduCToP = cis.maxPduCToP.getD 251
  maxPduPToC : p.maxPduPToC = cis.maxPduPToC.getD 251
  maxSduCToP : p.maxSduCToP = cis.maxSduCToP
  maxSduPToC : p.maxSduPToC = cis.maxSduPToC
  sduIntervalCToP : p.sduIntervalCToP = cig.sduIntervalCToP
  sduIntervalPToC : p.sduIntervalPToC = cig.sduIntervalPToC
  isoInterval : p.isoInterval = cig.isoInterval
  subInterval : p.subInterval.toNat = cig.interval / cis.nseUsed
  framed : p.framed = cig.framed

section parameters

variable {chk : Bool} {cig : CigConfig} {cis : CisConfig} {p : CisParameters}

theorem burstNumber_eq_ok {maxSdu bn} (h : burstNumber maxSdu = .ok bn) :
    bn.toNat = (maxSdu.toNat + 250) / 251 := by
  simp only [burstNumber] at h
  split at h
  · rename_i hlt
    cases h
    exact UInt8.toNat_ofNat_of_lt hlt
  · cases h

theorem orElse_burstNumber_ok {o maxSdu bn} (h : orElse o (burstNumber maxSdu) = .ok bn) :
    bn.toNat = burstNumberUsed o maxSdu := by
  cases o with
  | some =>
    cases h
    rfl
  | none => exact burstNumber_eq_ok h

/-- Twelve bits of SDU size take at most 17 PDUs. -/
theorem orElse_burstNumber_returns {o maxSdu} (hsdu : maxSdu.toNat < 2 ^ 12) : Returns
    (orElse o (burstNumber maxSdu)) := by
  cases o with
  | some b => exact ⟨b, rfl⟩
  | none =>
    unfold orElse burstNumber
    rw [if_pos (by omega)]
    exact ⟨_, rfl⟩

theorem interval_ok {iso : UInt16} {n : UInt32} :
    Checked.mul chk iso.toUInt32 1250 = .ok n ↔ n.toNat = iso.toNat * 1250 := by
  have hiso := iso.toNat_lt
  have hval : iso.toUInt32.toNat * (1250 : UInt32).toNat = iso.toNat * 1250 := by simp
  cases chk with
  | true => rw [Checked.mul_isOk, hval]
  | false =>
    unfold Checked.mul
    simp only [Bool.false_and, Bool.false_eq_true, if_false, Except.ok.injEq]
    rw [← UInt32.toNat_inj, UInt32.toNat_mul, hval, Nat.mod_eq_of_lt (by omega)]
    exact eq_comm

theorem nse_toNat {bnC bnP} (hC : bnC.toNat = cis.bnUsedCToP) (hP : bnP.toNat = cis.bnUsedPToC) :
    (cis.nse.getD (max bnC bnP)).toNat = cis.nseUsed := by
  unfold CisConfig.nseUsed
  cases cis.nse with
  | some => rfl
  | none =>
    show (if bnC ≤ bnP then bnP else bnC).toNat = max _ _
    rw [← hC, ← hP]
    split
    · rename_i hle
      exact (max_eq_right (UInt8.le_iff_toNat_le.mp hle)).symm
    · rename_i hle
      rw [UInt8.le_iff_toNat_le, not_le] at hle
      exact (max_eq_left hle.le).symm

theorem new_computed (h : CisParameters.new chk cig cis = .ok p) : Computed cig cis p := by
  obtain ⟨bnC, hbnC, h⟩ := bind_eq_ok.mp h
  obtain ⟨bnP, hbnP, h⟩ := bind_eq_ok.mp h
  obtain ⟨interval, hint, h⟩ := bind_eq_ok.mp h
  obtain ⟨sub, hsub, h⟩ := bind_eq_ok.mp h
  obtain ⟨phyC, hphyC, h⟩ := bind_eq_ok.mp h
  obtain ⟨phyP, hphyP, h⟩ := bind_eq_ok.mp h
  cases h
  have hC : bnC.toNat = cis.bnUsedCToP := orElse_burstNumber_ok hbnC
  have hP : bnP.toNat = cis.bnUsedPToC := orElse_burstNumber_ok hbnP
  have hnse := nse_toNat hC hP
  have hsync : interval.toNat = cig.interval := interval_ok.mp hint
  obtain ⟨hpos, rfl⟩ := Checked.div_ok.mp hsub
  refine ⟨hsync, rfl, hphyC, hphyP, hnse, ?_, hC, hP, rfl, rfl, rfl, rfl, rfl, rfl, rfl, rfl,
    rfl, ?_, rfl⟩
  · intro hzero
    apply hpos
    rw [← UInt32.toNat_inj]
    simpa [hzero] using hnse
  · rw [UInt32.toNat_div, hsync]
    simp [hnse]

/-- `CisParameters.new` panics on a valid configuration only by dividing by zero. -/
theorem new_returns (hval : cis.Valid) :
    Returns (CisParameters.new chk cig cis) ↔ cis.nseUsed ≠ 0 := by
  constructor
  · rintro ⟨p, hp⟩
    exact (new_computed hp).nse_pos
  intro hpos
  obtain ⟨bnC, hbnC⟩ := orElse_burstNumber_returns (o := cis.bnCToP) hval.maxSduCToP
  obtain ⟨bnP, hbnP⟩ := orElse_burstNumber_returns (o := cis.bnPToC) hval.maxSduPToC
  obtain ⟨phyC, hphyC⟩ := hval.phyCToP
  obtain ⟨phyP, hphyP⟩ := hval.phyPToC
  have hnse := nse_toNat (orElse_burstNumber_ok hbnC) (orElse_burstNumber_ok hbnP)
  have hint : Checked.mul chk cig.isoInterval.toUInt32 1250 = .ok (UInt32.ofNat cig.interval) := by
    rw [interval_ok]
    have hiso := cig.isoInterval.toNat_lt
    exact UInt32.toNat_ofNat_of_lt' (by unfold CigConfig.interval UInt32.size; omega)
  have hne : widen (cis.nse.getD (max bnC bnP)) ≠ 0 := by
    intro hzero
    apply hpos
    rw [← hnse]
    simpa using congrArg UInt32.toNat hzero
  refine ⟨_, bind_eq_ok.mpr ⟨bnC, hbnC, bind_eq_ok.mpr ⟨bnP, hbnP, bind_eq_ok.mpr
    ⟨_, hint, bind_eq_ok.mpr ⟨_, Checked.div_ok.mpr ⟨hne, rfl⟩, bind_eq_ok.mpr
      ⟨phyC, hphyC, bind_eq_ok.mpr ⟨phyP, hphyP, rfl⟩⟩⟩⟩⟩⟩⟩

/-- A selected PHY is one that can be reported. -/
theorem phyType_of_selectPhy {mask phy} (h : selectPhy mask = .ok phy) : Returns (phyType phy) := by
  unfold selectPhy at h
  split_ifs at h <;> cases h
  · exact ⟨.le2m, rfl⟩
  · exact ⟨.le1m, rfl⟩
  · exact ⟨.leCoded, rfl⟩

end parameters

/-! ## When the two halves go through -/

/-- The transport latency of a direction is not negative and fits 24 bits. -/
def LatencyFits (cig : CigConfig) (ft : UInt8) (sduInterval : UInt32) : Prop :=
  let flushed := cig.interval + ft.toNat * cig.interval
  if cig.framed then flushed + sduInterval.toNat < 2 ^ 24
  else sduInterval.toNat ≤ flushed ∧ flushed - sduInterval.toNat < 2 ^ 24

instance (cig : CigConfig) (ft : UInt8) (sduInterval : UInt32) :
    Decidable (LatencyFits cig ft sduInterval) :=
  inferInstanceAs (Decidable (if cig.framed then _ else _))

/-- The parameters can be computed, and LL_CIS_REQ encoded. -/
structure RequestFits (cig : CigConfig) (cis : CisConfig) : Prop where
  nse : cis.nseUsed ≠ 0
  bnCToP : cis.bnUsedCToP < 2 ^ 4
  bnPToC : cis.bnUsedPToC < 2 ^ 4
  sduIntervalCToP : cig.sduIntervalCToP.toNat < 2 ^ 20
  sduIntervalPToC : cig.sduIntervalPToC.toNat < 2 ^ 20
  subInterval : cig.interval / cis.nseUsed < 2 ^ 24

/-- LL_CIS_IND can be encoded, and LE CIS Established reported. The event has a field of 8 bits for
each Max_PDU, which `CisParameters` has in 16: one of 256 or more is cut to 8 bits there, and
nothing fails. -/
structure ReportFits (cig : CigConfig) : Prop where
  syncDelay : cig.interval < 2 ^ 24
  latencyCToP : LatencyFits cig cig.ftCToP cig.sduIntervalCToP
  latencyPToC : LatencyFits cig cig.ftPToC cig.sduIntervalPToC

/-- The configuration of a CIS goes through the whole procedure. -/
structure ConfigFits (cig : CigConfig) (cis : CisConfig) : Prop where
  request : RequestFits cig cis
  report : ReportFits cig

instance (cig : CigConfig) (cis : CisConfig) : Decidable (RequestFits cig cis) :=
  decidable_of_iff (cis.nseUsed ≠ 0 ∧ cis.bnUsedCToP < 2 ^ 4 ∧ cis.bnUsedPToC < 2 ^ 4 ∧
      cig.sduIntervalCToP.toNat < 2 ^ 20 ∧ cig.sduIntervalPToC.toNat < 2 ^ 20 ∧
      cig.interval / cis.nseUsed < 2 ^ 24)
    ⟨fun ⟨h₁, h₂, h₃, h₄, h₅, h₆⟩ => ⟨h₁, h₂, h₃, h₄, h₅, h₆⟩,
      fun ⟨h₁, h₂, h₃, h₄, h₅, h₆⟩ => ⟨h₁, h₂, h₃, h₄, h₅, h₆⟩⟩

instance (cig : CigConfig) : Decidable (ReportFits cig) :=
  decidable_of_iff (cig.interval < 2 ^ 24 ∧ LatencyFits cig cig.ftCToP cig.sduIntervalCToP ∧
      LatencyFits cig cig.ftPToC cig.sduIntervalPToC)
    ⟨fun ⟨h₁, h₂, h₃⟩ => ⟨h₁, h₂, h₃⟩, fun ⟨h₁, h₂, h₃⟩ => ⟨h₁, h₂, h₃⟩⟩

instance (cig : CigConfig) (cis : CisConfig) : Decidable (ConfigFits cig cis) :=
  decidable_of_iff (RequestFits cig cis ∧ ReportFits cig)
    ⟨fun ⟨h₁, h₂⟩ => ⟨h₁, h₂⟩, fun ⟨h₁, h₂⟩ => ⟨h₁, h₂⟩⟩

section halves

variable {chk : Bool} {cig : CigConfig} {cis : CisConfig} {p : CisParameters}

/-- LL_CIS_REQ is encoded exactly when the burst numbers and the intervals are narrow enough;
the SDU sizes are, by what the CIG commands check. -/
theorem cisReq_fits (hp : Computed cig cis p) (hval : cis.Valid) (r : CisRequest) :
    (LlcpPacket.cisReq (IsoManager.cisReq r cig cis p)).fits = true ↔ RequestFits cig cis := by
  have hframed : ((if cig.framed then 1 else 0 : UInt8)).toNat < 2 := by
    split <;> decide
  show CisReq.fits _ = true ↔ _
  unfold CisReq.fits IsoManager.cisReq
  simp only [Bool.and_eq_true, decide_eq_true_eq, hp.bnCToP, hp.bnPToC, hp.subInterval]
  constructor
  · rintro ⟨⟨⟨⟨⟨⟨⟨-, hC⟩, hP⟩, hsub⟩, hbnP⟩, hbnC⟩, -⟩, -⟩
    exact ⟨hp.nse_pos, hbnC, hbnP, hC, hP, hsub⟩
  · intro h
    exact ⟨⟨⟨⟨⟨⟨⟨⟨⟨hframed, hval.maxSduCToP⟩, hval.maxSduPToC⟩, h.sduIntervalCToP⟩,
      h.sduIntervalPToC⟩, h.subInterval⟩, h.bnPToC⟩, h.bnCToP⟩, by decide⟩, by decide⟩

/-- The transport latency in exact arithmetic: it is returned when no step of it overflows. -/
theorem transportLatency_ok {delay : UInt32} {iso : UInt16} {ft : UInt8} {sduInterval n : UInt32}
    {framed : Bool}
    {interval : Nat} (hiso : iso.toNat * 1250 = interval) (hdelay : delay.toNat = interval) :
    transportLatency true delay iso ft sduInterval framed = .ok n ↔
      interval + ft.toNat * interval < 2 ^ 32 ∧
      if framed then n.toNat = interval + ft.toNat * interval + sduInterval.toNat
      else sduInterval.toNat ≤ interval + ft.toNat * interval ∧
        n.toNat = interval + ft.toNat * interval - sduInterval.toNat := by
  constructor
  · intro h
    obtain ⟨slots, hslots, h⟩ := bind_eq_ok.mp h
    obtain ⟨flushed, hfls, h⟩ := bind_eq_ok.mp h
    obtain ⟨total, htotal, h⟩ := bind_eq_ok.mp h
    have hval : total.toNat = interval + ft.toNat * interval := by
      rw [Checked.add_isOk.mp htotal, Checked.mul_isOk.mp hfls, interval_ok.mp hslots, hiso,
        hdelay, UInt8.toNat_toUInt32]
    refine ⟨hval ▸ total.toNat_lt, ?_⟩
    split at h
    · rw [if_pos (by assumption), ← hval]
      exact Checked.add_isOk.mp h
    · rw [if_neg (by assumption), ← hval]
      exact Checked.sub_isOk.mp h
  · rintro ⟨hlt, h⟩
    obtain ⟨slots, hslots⟩ := Checked.exists_toNat (show interval < 2 ^ 32 by omega)
    obtain ⟨flushed, hfls⟩ := Checked.exists_toNat ((Nat.le_add_left _ _).trans_lt hlt)
    obtain ⟨total, htotal⟩ := Checked.exists_toNat hlt
    refine bind_eq_ok.mpr
      ⟨slots, interval_ok.mpr (hslots.trans hiso.symm), bind_eq_ok.mpr
        ⟨flushed, Checked.mul_isOk.mpr ?_,
      bind_eq_ok.mpr ⟨total, Checked.add_isOk.mpr ?_, ?_⟩⟩⟩
    · rw [hfls, hslots, UInt8.toNat_toUInt32]
    · rw [htotal, hdelay, hfls]
    · rw [← htotal] at h
      split at h
      · rw [if_pos (by assumption)]
        exact Checked.add_isOk.mpr h
      · rw [if_neg (by assumption)]
        exact Checked.sub_isOk.mpr h

/-- It fits its field exactly when the exact latency is in range. -/
theorem transportLatency_fits {delay ft sduInterval}
    (hdelay : delay.toNat = cig.interval) (hsdu : sduInterval.toNat < 2 ^ 20) :
    (∃ n, transportLatency true delay cig.isoInterval ft sduInterval cig.framed = .ok n ∧
      n.toNat < 2 ^ 24) ↔ LatencyFits cig ft sduInterval := by
  have hint : cig.isoInterval.toNat * 1250 = cig.interval := rfl
  simp only [transportLatency_ok hint hdelay]
  unfold LatencyFits
  constructor
  · rintro ⟨n, ⟨-, hn⟩, hlt⟩
    split at hn
    · rw [if_pos (by assumption), ← hn]
      exact hlt
    · rw [if_neg (by assumption), ← hn.2]
      exact ⟨hn.1, hlt⟩
  · intro h
    split at h
    · obtain ⟨n, hn⟩ := Checked.exists_toNat (h.trans (by decide))
      exact ⟨n, ⟨by omega, by rw [if_pos (by assumption), hn]⟩, hn ▸ h⟩
    · obtain ⟨n, hn⟩ := Checked.exists_toNat (h.2.trans (by decide))
      exact ⟨n, ⟨by omega, by rw [if_neg (by assumption), hn]; exact ⟨h.1, rfl⟩⟩, hn ▸ h.2⟩

/-- LL_CIS_IND is encoded and LE CIS Established reported exactly when the delay and the
latencies are in range. -/
theorem report_fits (hp : Computed cig cis p) (hreq : RequestFits cig cis) {h}
    (hh : h.toNat < 2 ^ 12) :
    ((LlcpPacket.cisInd ⟨0, 0, p.cigSyncDelay, p.cisSyncDelay, 0⟩).fits = true ∧
      ∃ ev, IsoManager.establishedCentral true h p = .ok ev ∧ ev.fits = true) ↔
      ReportFits cig := by
  have hlatencyC : (∃ n, p.transportLatencyCToP true = .ok n ∧ n.toNat < 2 ^ 24) ↔
      LatencyFits cig cig.ftCToP cig.sduIntervalCToP := by
    unfold CisParameters.transportLatencyCToP
    rw [hp.isoInterval, hp.framed, hp.ftCToP, hp.sduIntervalCToP]
    exact transportLatency_fits hp.cigSyncDelay hreq.sduIntervalCToP
  have hlatencyP : (∃ n, p.transportLatencyPToC true = .ok n ∧ n.toNat < 2 ^ 24) ↔
      LatencyFits cig cig.ftPToC cig.sduIntervalPToC := by
    unfold CisParameters.transportLatencyPToC
    rw [hp.isoInterval, hp.framed, hp.ftPToC, hp.sduIntervalPToC]
    exact transportLatency_fits hp.cigSyncDelay hreq.sduIntervalPToC
  have hind : (LlcpPacket.cisInd ⟨0, 0, p.cigSyncDelay, p.cisSyncDelay, 0⟩).fits = true ↔
      cig.interval < 2 ^ 24 := by
    show CisInd.fits _ = true ↔ _
    simp [CisInd.fits, hp.cisSyncDelay, hp.cigSyncDelay]
  have hfits (ev : LeCisEstablishedV1) : ev.fits = true ↔ ev.connectionHandle.toNat < 2 ^ 12 ∧
      ev.cigSyncDelay.toNat < 2 ^ 24 ∧ ev.cisSyncDelay.toNat < 2 ^ 24 ∧
      ev.transportLatencyCToP.toNat < 2 ^ 24 ∧ ev.transportLatencyPToC.toNat < 2 ^ 24 ∧
      ev.bnCToP.toNat < 2 ^ 4 ∧ ev.bnPToC.toNat < 2 ^ 4 := by
    simp [LeCisEstablishedV1.fits, and_assoc]
  rw [hind]
  constructor
  · rintro ⟨hsync, ev, hev, hevFits⟩
    obtain ⟨latencyC, hC, hev⟩ := bind_eq_ok.mp hev
    obtain ⟨latencyP, hP, hev⟩ := bind_eq_ok.mp hev
    obtain ⟨phyC, -, hev⟩ := bind_eq_ok.mp hev
    obtain ⟨phyP, -, hev⟩ := bind_eq_ok.mp hev
    cases hev
    obtain ⟨-, -, -, hltC, hltP, -, -⟩ := (hfits _).mp hevFits
    exact ⟨hsync, hlatencyC.mp ⟨latencyC, hC, hltC⟩, hlatencyP.mp ⟨latencyP, hP, hltP⟩⟩
  · intro hrep
    obtain ⟨latencyC, hC, hltC⟩ := hlatencyC.mpr hrep.latencyCToP
    obtain ⟨latencyP, hP, hltP⟩ := hlatencyP.mpr hrep.latencyPToC
    obtain ⟨phyC, hphyC⟩ := phyType_of_selectPhy hp.phyCToP
    obtain ⟨phyP, hphyP⟩ := phyType_of_selectPhy hp.phyPToC
    refine ⟨hrep.syncDelay, _, bind_eq_ok.mpr ⟨latencyC, hC, bind_eq_ok.mpr ⟨latencyP, hP,
      bind_eq_ok.mpr ⟨phyC, hphyC, bind_eq_ok.mpr ⟨phyP, hphyP, rfl⟩⟩⟩⟩, (hfits _).mpr ?_⟩
    have hsync : p.cigSyncDelay.toNat < 2 ^ 24 := hp.cigSyncDelay ▸ hrep.syncDelay
    exact ⟨hh, hsync, hp.cisSyncDelay ▸ hsync, hltC, hltP, hp.bnCToP ▸ hreq.bnCToP,
      hp.bnPToC ▸ hreq.bnPToC⟩

end halves

/-! ## What the CIG commands check -/

namespace IsoManager

/-- Every stored configuration has passed the checks of a CIG command. -/
def ConfigsValid (s : IsoManager) : Prop :=
  ∀ (key : UInt8 × UInt8) cis, s.cisConfig[key]? = some cis → cis.Valid

section valid

variable {env : Env} {s s' : IsoManager} {out : List Output} {input : Input}

/-- LE 1M is always supported, and only the three PHYs can be. -/
theorem supportedPhys_le : env.supportedPhys.toNat ≤ 7 := by
  unfold Env.supportedPhys
  split <;> split <;> decide

/-- A mask without bits outside another is at most that one. -/
theorem toNat_le_of_and_not {x m : UInt8} (h : x &&& ~~~m = 0) : x.toNat ≤ m.toNat := by
  have hbits : x.toBitVec &&& m.toBitVec = x.toBitVec := by
    have hzero : x.toBitVec &&& ~~~m.toBitVec = 0 := congrArg UInt8.toBitVec h
    ext i hi
    have hbit := congrArg (fun b => b.getLsbD i) hzero
    simpa [hi] using hbit
  calc x.toNat = x.toNat &&& m.toNat := by simpa using (congrArg BitVec.toNat hbits).symm
    _ ≤ m.toNat := Nat.and_le_right

/-- A non-empty mask of supported PHYs has one to select. -/
theorem selectPhy_supported {phys : UInt8} (hpos : phys ≠ 0)
    (hsup : phys &&& ~~~env.supportedPhys = 0) : Returns (selectPhy phys) := by
  have hle : phys.toNat ≤ 7 := (toNat_le_of_and_not hsup).trans supportedPhys_le
  have hlt : 0 < phys.toNat := Nat.pos_of_ne_zero fun h => hpos (UInt8.toNat_inj.mp h)
  obtain ⟨n, hn⟩ : ∃ n, phys.toNat = n := ⟨_, rfl⟩
  rw [← UInt8.ofNat_toNat (x := phys), hn]
  rw [hn] at hle hlt
  interval_cases n <;> decide

/-- The checks made on a CIS leave a valid configuration. -/
theorem checkCisConfig_valid {g i cis} (h : s.checkCisConfig env g i cis = .ok ()) : cis.Valid := by
  obtain ⟨hphy, h⟩ := ite_error_eq_ok.mp h
  obtain ⟨hsup, h⟩ := ite_error_eq_ok.mp h
  obtain ⟨-, h⟩ := ite_error_eq_ok.mp h
  obtain ⟨-, h⟩ := ite_error_eq_ok.mp h
  obtain ⟨hsdu, -⟩ := ite_error_eq_ok.mp h
  push Not at hphy hsup hsdu
  have hsduC := UInt16.le_iff_toNat_le.mp (UInt16.not_lt.mp hsdu.1)
  have hsduP := UInt16.le_iff_toNat_le.mp (UInt16.not_lt.mp hsdu.2)
  exact ⟨Nat.lt_succ_of_le hsduC, Nat.lt_succ_of_le hsduP,
    selectPhy_supported hphy.1 hsup.1, selectPhy_supported hphy.2 hsup.2⟩

theorem checkCig_valid {g sduC sduP cises} (h : s.checkCig env g sduC sduP cises = .ok ()) {i cis}
    (hmem : (i, cis) ∈ cises) : cis.Valid := by
  obtain ⟨-, h⟩ := ite_error_eq_ok.mp h
  obtain ⟨_, hall, -⟩ := bind_eq_ok.mp h
  exact checkCisConfig_valid (forM_eq_ok.mp hall (i, cis) hmem)

theorem ConfigsValid.step (hs : ConfigsValid s) (he : Effect env s input s' out) :
    ConfigsValid s' := by
  intro key cis hkey
  cases he.configChange with
  | same _ hcis =>
    rw [hcis] at hkey
    exact hs key cis hkey
  | removed _ hs' =>
    rw [hs'] at hkey
    exact hs key cis (HashMap.mem_retain_iff.mp hkey).1
  | configured hchk hconf =>
    rcases (configureCig_spec hconf).cisNew key cis hkey with hkey | ⟨-, hmem⟩
    · exact hs key cis hkey
    · exact checkCig_valid hchk hmem

theorem configsValid_new : ConfigsValid new := by
  intro key cis hkey
  cases hkey

theorem run_configsValid {C tr} (h : isoManager.Run C new tr s) : ConfigsValid s :=
  h.invariant ConfigsValid configsValid_new fun _ _ _ _ hs _ hstep => hs.step (effect_of_step hstep)

end valid

/-! ## The handlers -/

section handlers

variable {env : Env} {s s' : IsoManager} {out : List Output}

/-- Taking the next request from the queue returns exactly when its configuration fits. -/
theorem deque_returns_iff {r rs cig cis} (hqu : s.cisConnectionRequests = rs ++ [r])
    (hcig : s.cigConfig[r.cigId]? = some cig) (hcis : s.cisConfig[(r.cigId, r.cisId)]? = some cis)
    (hval : cis.Valid)
    (hent : (s.cisConnections[r.cisConnectionHandle]?).isSome) :
    Returns (s.dequeCisConnectionRequest env) ↔ RequestFits cig cis := by
  unfold dequeCisConnectionRequest
  rw [hqu, List.getLast?_concat]
  constructor
  · rintro ⟨next, h⟩
    obtain ⟨cis', hcis', h⟩ := bind_eq_ok.mp h
    obtain ⟨cig', hcig', h⟩ := bind_eq_ok.mp h
    obtain ⟨p, hp, h⟩ := bind_eq_ok.mp h
    obtain ⟨o, ho, -⟩ := bind_eq_ok.mp h
    rw [unwrap_eq_ok, hcis] at hcis'
    rw [unwrap_eq_ok, hcig] at hcig'
    cases hcis'
    cases hcig'
    exact (cisReq_fits (new_computed hp) hval r).mp (sendLlcpPacket_eq_ok.mp ho).1
  · intro hfits
    have hnew : Returns (CisParameters.new env.overflowChecks cig cis) :=
        (new_returns hval).mpr hfits.nse
    obtain ⟨p, hp⟩ := hnew
    obtain ⟨c, hc⟩ := Option.isSome_iff_exists.mp hent
    have hsent := (cisReq_fits (new_computed hp) hval r).mpr hfits
    exact ⟨_, bind_eq_ok.mpr ⟨cis, unwrap_eq_ok.mpr hcis, bind_eq_ok.mpr ⟨cig,
      unwrap_eq_ok.mpr hcig, bind_eq_ok.mpr ⟨p, hp, bind_eq_ok.mpr ⟨_,
        sendLlcpPacket_eq_ok.mpr ⟨hsent, rfl⟩, bind_eq_ok.mpr ⟨c, unwrap_eq_ok.mpr hc, rfl⟩⟩⟩⟩⟩⟩

/-- The answer to the request of a CIS returns exactly when its parameters can be reported and
the next request can be taken. -/
theorem llCisRsp_eq_ok {a h q c p} (hfd : s.getCisConnectionHandle env (awaitsRsp a) = some h)
    (hc : s.cisConnections[h]? = some c) (hp : c.parameters = some p) :
    (∃ out, s.llCisRsp env a q = .ok (s', out)) ↔
      ((LlcpPacket.cisInd ⟨0, 0, p.cigSyncDelay, p.cisSyncDelay, 0⟩).fits = true ∧
        ∃ ev, establishedCentral env.overflowChecks h p = .ok ev ∧ ev.fits = true) ∧
      ∃ out, (s.modifyCis h fun c => { c with state := .connected }).dequeCisConnectionRequest env =
        .ok (s', out) := by
  have hmodified : (s.modifyCis h fun c => { c with state := .connected }).cisConnections[h]? =
      some { c with state := .connected } := by
    rw [modifyCis_getElem?, if_pos rfl, hc]
    rfl
  unfold llCisRsp
  rw [hfd]
  constructor
  · rintro ⟨out, heq⟩
    obtain ⟨c', hc', heq⟩ := bind_eq_ok.mp heq
    obtain ⟨p', hp', heq⟩ := bind_eq_ok.mp heq
    obtain ⟨ind, hind, heq⟩ := bind_eq_ok.mp heq
    obtain ⟨ev, hev, heq⟩ := bind_eq_ok.mp heq
    obtain ⟨o, ho, heq⟩ := bind_eq_ok.mp heq
    obtain ⟨⟨s₁, started⟩, hdq, heq⟩ := bind_eq_ok.mp heq
    cases heq
    rw [unwrap_eq_ok, hmodified] at hc'
    cases hc'
    rw [unwrap_eq_ok, hp] at hp'
    cases hp'
    exact ⟨⟨(sendLlcpPacket_eq_ok.mp hind).1, ev, hev, (sendHciEvent_eq_ok.mp ho).1⟩, started, hdq⟩
  · rintro ⟨⟨hind, ev, hev, hevFits⟩, started, hdq⟩
    exact ⟨_, bind_eq_ok.mpr ⟨_, unwrap_eq_ok.mpr hmodified, bind_eq_ok.mpr ⟨p,
      unwrap_eq_ok.mpr hp, bind_eq_ok.mpr ⟨_, sendLlcpPacket_eq_ok.mpr ⟨hind, rfl⟩,
        bind_eq_ok.mpr ⟨ev, hev, bind_eq_ok.mpr ⟨_, sendHciEvent_eq_ok.mpr ⟨hevFits, rfl⟩,
          bind_eq_ok.mpr ⟨_, hdq, rfl⟩⟩⟩⟩⟩⟩⟩

end handlers

end IsoManager

end RootCanal.Iso
