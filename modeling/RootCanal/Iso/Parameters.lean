import RootCanal.Packets.Hci
import RootCanal.Packets.Llcp

/-!
# CIG and CIS parameters

The configuration records of the ISO manager and the arithmetic on them: the ISO interval
derived from an LE Set CIG Parameters command (`isoInterval`), the full parameters of a CIS
evaluated when it is created (`CisParameters.new`), and the transport latency reported when it
is established (`transportLatency`).  Intervals are in microseconds except the ISO interval,
which is in units of 1.25 ms.

`chk` says whether the build traps arithmetic overflow.

Source: `rust/src/llcp/iso.rs`
-/

namespace RootCanal.Iso

open Lib RootCanal.Hci

/-- `x as u32`. -/
abbrev widen (x : UInt8) : UInt32 := x.toUInt32

/-- CIG configuration. -/
structure CigConfig where
  isoInterval : UInt16
  sduIntervalCToP : UInt32
  sduIntervalPToC : UInt32
  ftCToP : UInt8
  ftPToC : UInt8
  framed : Bool
  /-- True when the CIG can still be configured. -/
  configurable : Bool
deriving DecidableEq, Repr

/-- The CIG is initially configurable.
Source: `impl Default for CigConfig` -/
def CigConfig.default : CigConfig where
  isoInterval := 0
  sduIntervalCToP := 0
  sduIntervalPToC := 0
  ftCToP := 0
  ftPToC := 0
  framed := false
  configurable := true

/-- CIS configuration. -/
structure CisConfig where
  maxSduCToP : UInt16
  maxSduPToC : UInt16
  phyCToP : UInt8
  phyPToC : UInt8
  nse : Option UInt8
  bnCToP : Option UInt8
  bnPToC : Option UInt8
  maxPduCToP : Option UInt16
  maxPduPToC : Option UInt16
deriving DecidableEq, Repr

/-- Full CIS configuration parameters, evaluated when the CIS is created or established. -/
structure CisParameters where
  cigSyncDelay : UInt32
  cisSyncDelay : UInt32
  phyCToP : UInt8
  phyPToC : UInt8
  nse : UInt8
  bnCToP : UInt8
  bnPToC : UInt8
  ftCToP : UInt8
  ftPToC : UInt8
  maxPduCToP : UInt16
  maxPduPToC : UInt16
  maxSduCToP : UInt16
  maxSduPToC : UInt16
  sduIntervalCToP : UInt32
  sduIntervalPToC : UInt32
  isoInterval : UInt16
  subInterval : UInt32
  framed : Bool
deriving DecidableEq, Repr

/-! ## The parameters of a CIS -/

/-- `max_sdu.div_ceil(251).try_into().unwrap()`: the burst number that carries one SDU in PDUs
of 251 octets, as an octet. -/
def burstNumber (maxSdu : UInt16) : Except Panic UInt8 :=
  let bn := (maxSdu.toNat + 250) / 251
  if bn < 2 ^ 8 then .ok (UInt8.ofNat bn) else .error .unwrapErr

/-- Select one PHY in the enabled mask with the priority LE 2M > LE 1M > LE Coded.
Source: `CisParameters::new` `select_phy` -/
def selectPhy (phys : UInt8) : Except Panic UInt8 :=
  if phys = 0x2 ∨ phys = 0x3 ∨ phys = 0x6 ∨ phys = 0x7 then .ok 0x2
  else if phys = 0x1 ∨ phys = 0x5 then .ok 0x1
  else if phys = 0x4 then .ok 0x4
  else .error .explicit

/-- `unwrap_or_else`: a configured value, or the computed one. -/
def orElse {α : Type} (o : Option α) (x : Except Panic α) : Except Panic α :=
  match o with
  | some a => .ok a
  | none => x

/-- The parameters of a stream, from the configuration. -/
def CisParameters.new (chk : Bool) (cig : CigConfig) (cis : CisConfig) :
    Except Panic CisParameters := do
  let bnCToP ← orElse cis.bnCToP (burstNumber cis.maxSduCToP)
  let bnPToC ← orElse cis.bnPToC (burstNumber cis.maxSduPToC)
  let nse := cis.nse.getD (max bnCToP bnPToC)
  let maxPduCToP := cis.maxPduCToP.getD 251
  let maxPduPToC := cis.maxPduPToC.getD 251
  let interval ← Checked.mul chk cig.isoInterval.toUInt32 1250
  let subInterval ← Checked.div interval (widen nse)
  let phyCToP ← selectPhy cis.phyCToP
  let phyPToC ← selectPhy cis.phyPToC
  .ok {
    cigSyncDelay := interval
    cisSyncDelay := interval
    phyCToP := phyCToP
    phyPToC := phyPToC
    nse := nse
    bnCToP := bnCToP
    bnPToC := bnPToC
    ftCToP := cig.ftCToP
    ftPToC := cig.ftPToC
    maxPduCToP := maxPduCToP
    maxPduPToC := maxPduPToC
    maxSduCToP := cis.maxSduCToP
    maxSduPToC := cis.maxSduPToC
    sduIntervalCToP := cig.sduIntervalCToP
    sduIntervalPToC := cig.sduIntervalPToC
    isoInterval := cig.isoInterval
    subInterval := subInterval
    framed := cig.framed }

/-- The PHY a parameter octet stands for.
Source: `CisParameters::phy_c_to_p`, `CisParameters::phy_p_to_c` -/
def phyType (phy : UInt8) : Except Panic SecondaryPhyType :=
  if phy = 0x1 then .ok .le1m
  else if phy = 0x2 then .ok .le2m
  else if phy = 0x4 then .ok .leCoded
  else .error .explicit

/-- Compute the transport latency for a CIG based on the configuration parameters. -/
def transportLatency (chk : Bool) (cigSyncDelay : UInt32) (isoInterval : UInt16) (ft : UInt8)
    (sduInterval : UInt32) (framed : Bool) : Except Panic UInt32 := do
  let interval ← Checked.mul chk isoInterval.toUInt32 1250
  let flushed ← Checked.mul chk (widen ft) interval
  let delay ← Checked.add chk cigSyncDelay flushed
  if framed then Checked.add chk delay sduInterval else Checked.sub chk delay sduInterval

/-- The latency from central to peripheral. -/
def CisParameters.transportLatencyCToP (chk : Bool) (p : CisParameters) : Except Panic UInt32 :=
  transportLatency chk p.cigSyncDelay p.isoInterval p.ftCToP p.sduIntervalCToP p.framed

/-- The latency from peripheral to central. -/
def CisParameters.transportLatencyPToC (chk : Bool) (p : CisParameters) : Except Panic UInt32 :=
  transportLatency chk p.cigSyncDelay p.isoInterval p.ftPToC p.sduIntervalPToC p.framed

/-! ## The ISO interval of a CIG -/

/-- Derive a valid ISO_Interval for a CIG based on the LE Set Cig Parameters command input.
SDU_Interval and Max_Transport_Latency are in microseconds; `lcm` is that of the `num_integer`
crate, without a result where it overflows. -/
def isoInterval (chk : Bool) (lcm : UInt32 → UInt32 → Option UInt32)
    (sduIntervalCToP sduIntervalPToC : UInt32) (framed : Bool)
    (maxTransportLatencyCToP maxTransportLatencyPToC : UInt32) :
    Except Panic (Option UInt16) := do
  if framed then
    let interval := max sduIntervalCToP sduIntervalPToC
    -- `div_ceil`, then the truncating cast to `u16`
    .ok (some (UInt16.ofNat ((interval.toNat + 1249) / 1250)))
  else
    let sduInterval ←
      if sduIntervalCToP = 0 ∧ sduIntervalPToC = 0 then .error .explicit
      else if sduIntervalCToP = 0 then .ok sduIntervalPToC
      else if sduIntervalPToC = 0 then .ok sduIntervalCToP
      else Checked.trapped (lcm sduIntervalCToP sduIntervalPToC)
    let interval ← Checked.trapped (lcm 1250 sduInterval)
    let twice ← Checked.mul chk 2 interval
    let minTransportLatencyCToP ← Checked.sub chk twice sduIntervalCToP
    let minTransportLatencyPToC ← Checked.sub chk twice sduIntervalPToC
    if interval / 1250 ≤ 0xffff ∧
        (sduIntervalCToP = 0 ∨ minTransportLatencyCToP ≤ maxTransportLatencyCToP) ∧
        (sduIntervalPToC = 0 ∨ minTransportLatencyPToC ≤ maxTransportLatencyPToC) then
      .ok (some (interval / 1250).toUInt16)
    else
      .ok none

/-- The unit test of the source: 30 ms in both directions, in one direction, and a latency
budget too small for it.
Source: `test_iso_interval` -/
example : let lcm (a b : UInt32) := some (UInt32.ofNat (Nat.lcm a.toNat b.toNat))
    isoInterval true lcm 0x7530 0x7530 false 0x7530 0x7530 = .ok (some 24) ∧
    isoInterval true lcm 0x7530 0 false 0x7530 0x7530 = .ok (some 24) ∧
    isoInterval true lcm 0x7530 0x7530 false 0x7000 0x7000 = .ok none := by
  decide

end RootCanal.Iso
