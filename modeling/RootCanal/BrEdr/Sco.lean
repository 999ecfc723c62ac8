import RootCanal.Packets.LinkLayer

/-!
# Synchronous connections

The parameters a host asks of a synchronous connection, the link parameters that satisfy them, and
the negotiation between what the initiator and the acceptor ask.

What a link has to meet (`Meets`) is said of the link itself: the packets carry the bandwidths, the
window fits the interval and the latency.  Of all the links that meet it, with any pair of packets
and any interval, the nested loops choose one with the smallest share of the slots
(**`link_of_smallest_share`**).  The source compares the shares as floating point numbers; they are
fractions of whole numbers below 256, which the products here order in the same way.

Source: `sco_connection.cc`, `sco_connection.h`
-/

namespace RootCanal.BrEdr

/-! ## Parameters -/

/-- The negotiated parameters of a link. -/
structure ScoLinkParameters where
  transmissionInterval : UInt8
  retransmissionWindow : UInt8
  rxPacketLength : UInt16
  txPacketLength : UInt16
  airMode : UInt8
  extended : Bool
deriving DecidableEq, Repr

/-- The parameters of a link that was not established. -/
def ScoLinkParameters.zero : ScoLinkParameters := ⟨0, 0, 0, 0, 0, false⟩

/-- What a host asks for. -/
structure ScoConnectionParameters where
  transmitBandwidth : UInt32
  receiveBandwidth : UInt32
  maxLatency : UInt16
  voiceSetting : UInt16
  retransmissionEffort : UInt8
  packetType : UInt16
deriving DecidableEq, Repr

/-! Source: `hci_packets.pdl` `SynchronousPacketTypeBits`, `RetransmissionEffort` -/

namespace SynchronousPacketTypeBits

def hv1Allowed : UInt16 := 0x0001
def hv2Allowed : UInt16 := 0x0002
def hv3Allowed : UInt16 := 0x0004
def ev3Allowed : UInt16 := 0x0008
def ev4Allowed : UInt16 := 0x0010
def ev5Allowed : UInt16 := 0x0020
def no2Ev3Allowed : UInt16 := 0x0040
def no3Ev3Allowed : UInt16 := 0x0080
def no2Ev5Allowed : UInt16 := 0x0100
def no3Ev5Allowed : UInt16 := 0x0200

end SynchronousPacketTypeBits

namespace RetransmissionEffort

def noRetransmission : UInt8 := 0x00
def optimizedForPower : UInt8 := 0x01
def optimizedForLinkQuality : UInt8 := 0x02
def doNotCare : UInt8 := 0xff

end RetransmissionEffort

open SynchronousPacketTypeBits RetransmissionEffort

namespace ScoConnectionParameters

/-- The packet types include extended SCO packets. -/
def isExtended (p : ScoConnectionParameters) : Bool :=
  let legacy := hv1Allowed ||| hv2Allowed ||| hv3Allowed
  let edr := no2Ev3Allowed ||| no3Ev3Allowed ||| no2Ev5Allowed ||| no3Ev5Allowed
  (p.packetType ^^^ edr) &&& ~~~legacy ≠ 0

/-! ## The link for some parameters -/

/-- A packet of a synchronous link: its length in octets and in slots. -/
structure Packet where
  length : Nat
  slots : Nat
deriving DecidableEq, Repr

/-- The packets of an extended link that the packet types allow. POLL and NULL packets, of length
zero, are never chosen. -/
def acceptedPackets (packetType : UInt16) : List Packet :=
  (if packetType &&& ev3Allowed ≠ 0 then [⟨30, 1⟩] else []) ++
  (if packetType &&& ev4Allowed ≠ 0 then [⟨120, 3⟩] else []) ++
  (if packetType &&& ev5Allowed ≠ 0 then [⟨180, 3⟩] else []) ++
  (if packetType &&& no2Ev3Allowed = 0 then [⟨60, 1⟩] else []) ++
  (if packetType &&& no3Ev3Allowed = 0 then [⟨360, 3⟩] else []) ++
  (if packetType &&& no2Ev5Allowed = 0 then [⟨90, 1⟩] else []) ++
  (if packetType &&& no3Ev5Allowed = 0 then [⟨540, 3⟩] else [])

/-- Source: `GetLinkParameters`,
`air_coding_to_air_mode` -/
def airMode (voiceSetting : UInt16) : UInt8 :=
  match (voiceSetting &&& 0x3).toNat with
  | 0 => 0x02
  | 1 => 0x00
  | 2 => 0x01
  | _ => 0x03

/-- The best choice so far: its transmission window and interval, whose ratio is the share of the
slots it takes, and its parameters. -/
structure Choice where
  window : Nat
  interval : Nat
  parameters : Option ScoLinkParameters
deriving DecidableEq, Repr

/-- Try a transmit and a receive packet.
Source: `GetLinkParameters`, the body of the loops -/
def tryPackets (p : ScoConnectionParameters) (best : Choice) (tx rx : Packet) : Choice :=
  let txMaxInterval := 1600 * tx.length / p.transmitBandwidth.toNat
  let rxMaxInterval := 1600 * rx.length / p.receiveBandwidth.toNat
  let interval := min txMaxInterval rxMaxInterval
  let interval := min (interval - interval % 2) 254
  let retransmissionWindow :=
    if p.retransmissionEffort = optimizedForPower then rx.slots + tx.slots
    else if p.retransmissionEffort = optimizedForLinkQuality then 2 * (rx.slots + tx.slots)
    else 0
  let window := tx.slots + rx.slots + retransmissionWindow
  if window > interval then best
  else if window * 1250 / 2 > 1000 * p.maxLatency.toNat then best
  else if window * best.interval ≤ best.window * interval then
    { window := window
      interval := interval
      parameters := some {
        transmissionInterval := UInt8.ofNat interval
        retransmissionWindow := UInt8.ofNat retransmissionWindow
        rxPacketLength := UInt16.ofNat ((p.receiveBandwidth.toNat * interval + 1600 - 1) / 1600)
        txPacketLength := UInt16.ofNat ((p.transmitBandwidth.toNat * interval + 1600 - 1) / 1600)
        airMode := airMode p.voiceSetting
        extended := true } }
  else best

/-- The link parameters of an SCO connection, which has one of the HV packets. -/
def scoLinkParameters (p : ScoConnectionParameters) : Option ScoLinkParameters :=
  let link (interval : UInt8) (length : UInt16) : ScoLinkParameters :=
    ⟨interval, 0, length, length, airMode p.voiceSetting, false⟩
  if p.retransmissionEffort = optimizedForPower ∨
    p.retransmissionEffort = optimizedForLinkQuality then none
  else if p.packetType &&& hv3Allowed ≠ 0 then some (link 6 30)
  else if p.packetType &&& hv2Allowed ≠ 0 then some (link 4 20)
  else if p.packetType &&& hv1Allowed ≠ 0 then some (link 2 10)
  else none

/-- The link for these parameters: eSCO first, then SCO. -/
def getLinkParameters (p : ScoConnectionParameters) : Option ScoLinkParameters :=
  if p.transmitBandwidth = 0 ∨ p.receiveBandwidth = 0 then none
  else
    let packets := acceptedPackets p.packetType
    let best := packets.foldl
      (fun best tx => packets.foldl (fun best rx => p.tryPackets best tx rx) best) ⟨1, 1, none⟩
    best.parameters.or p.scoLinkParameters

/-! ## The link that is chosen -/

/-- How often the packets may be sent again within the retransmission window. -/
def retransmissions (p : ScoConnectionParameters) : Nat :=
  if p.retransmissionEffort = optimizedForPower then 1
  else if p.retransmissionEffort = optimizedForLinkQuality then 2
  else 0

/-- The slots of an interval that a link takes. -/
def window (tx rx : Packet) (link : ScoLinkParameters) : Nat :=
  tx.slots + rx.slots + link.retransmissionWindow.toNat

/-- The share of the slots that a link takes. -/
def share (tx rx : Packet) (link : ScoLinkParameters) : ℚ :=
  window tx rx link / link.transmissionInterval.toNat

/-- The link meets the requirements with one packet each way in an interval.  There are 1600 slots
in a second, and a slot is 625 microseconds long. -/
structure Meets (p : ScoConnectionParameters) (tx rx : Packet) (link : ScoLinkParameters) :
    Prop where
  even : link.transmissionInterval.toNat % 2 = 0
  /-- The packets are just long enough for the bandwidths. -/
  transmits : IsLeast {n | p.transmitBandwidth.toNat * link.transmissionInterval.toNat ≤ 1600 * n}
    link.txPacketLength.toNat
  receives : IsLeast {n | p.receiveBandwidth.toNat * link.transmissionInterval.toNat ≤ 1600 * n}
    link.rxPacketLength.toNat
  transmits_le : link.txPacketLength.toNat ≤ tx.length
  receives_le : link.rxPacketLength.toNat ≤ rx.length
  retransmits : link.retransmissionWindow.toNat = p.retransmissions * (tx.slots + rx.slots)
  window_le : window tx rx link ≤ link.transmissionInterval.toNat
  latency : 625 * window tx rx link ≤ 1000 * p.maxLatency.toNat
  airMode : link.airMode = airMode p.voiceSetting
  extended : link.extended = true

/-- A packet of some type. -/
structure Packet.Valid (packet : Packet) : Prop where
  slots_pos : 0 < packet.slots
  length_le : packet.length ≤ 540

/-- The packets of the table are valid. -/
theorem valid_of_accepted {packetType : UInt16} {packet : Packet}
    (h : packet ∈ acceptedPackets packetType) : packet.Valid := by
  simp only [acceptedPackets, List.mem_append] at h
  rcases h with (((((h | h) | h) | h) | h) | h) | h
  all_goals
    split at h <;> simp at h
    subst h
    exact ⟨by decide, by decide⟩

variable {p : ScoConnectionParameters} {pairs : List (Packet × Packet)} {x : Packet × Packet}
  {tx rx : Packet}
  {link : ScoLinkParameters} {best : Choice}

/-- The interval of a link is not zero. -/
theorem Meets.interval_pos (h : p.Meets tx rx link) (htx : tx.Valid) :
    0 < link.transmissionInterval.toNat := by
  have hle := h.window_le
  have hpos := htx.slots_pos
  unfold window at hle
  omega

/-- The length of the packets that carry a bandwidth is the least one that suffices. -/
theorem isLeast_length {bandwidth : UInt32} {interval length : Nat}
    (h : bandwidth.toNat * interval ≤ 1600 * length) (hlength : length ≤ 540) :
    IsLeast {n | bandwidth.toNat * interval ≤ 1600 * n}
      (UInt16.ofNat ((bandwidth.toNat * interval + 1600 - 1) / 1600)).toNat ∧
    (UInt16.ofNat ((bandwidth.toNat * interval + 1600 - 1) / 1600)).toNat ≤ length := by
  have hfits : (bandwidth.toNat * interval + 1600 - 1) / 1600 < 2 ^ 16 := by omega
  rw [UInt16.toNat_ofNat_of_lt' hfits]
  refine ⟨⟨?_, ?_⟩, ?_⟩
  · simp only [Set.mem_ofPred_eq]
    omega
  · intro n hn
    simp only [Set.mem_ofPred_eq] at hn
    omega
  · omega

/-- The interval of a link is not longer than its packets allow. -/
theorem Meets.interval_le (h : p.Meets tx rx link)
    (hp : 0 < p.transmitBandwidth.toNat ∧ 0 < p.receiveBandwidth.toNat) :
    link.transmissionInterval.toNat ≤
      min (1600 * tx.length / p.transmitBandwidth.toNat)
        (1600 * rx.length / p.receiveBandwidth.toNat) := by
  refine le_min ?_ ?_
  · rw [Nat.le_div_iff_mul_le hp.1, Nat.mul_comm]
    exact le_trans h.transmits.1 (Nat.mul_le_mul_left _ h.transmits_le)
  · rw [Nat.le_div_iff_mul_le hp.2, Nat.mul_comm]
    exact le_trans h.receives.1 (Nat.mul_le_mul_left _ h.receives_le)

/-- The share of the slots is no larger. -/
def Choice.le (a b : Choice) : Prop := a.window * b.interval ≤ b.window * a.interval

/-- The order of choices is transitive. -/
theorem Choice.le.trans {a b c : Choice} (hab : a.le b) (hbc : b.le c) (hpos : 0 < b.interval) :
    a.le c := by
  refine Nat.le_of_mul_le_mul_left ?_ hpos
  calc b.interval * (a.window * c.interval) = a.window * b.interval * c.interval := by ring
    _ ≤ b.window * a.interval * c.interval := Nat.mul_le_mul_right _ hab
    _ = b.window * c.interval * a.interval := by ring
    _ ≤ c.window * b.interval * a.interval := Nat.mul_le_mul_right _ hbc
    _ = b.interval * (c.window * a.interval) := by ring

/-- What the loops keep of a link. -/
def choice (x : Packet × Packet) (link : ScoLinkParameters) : Choice :=
  ⟨window x.1 x.2 link, link.transmissionInterval.toNat, some link⟩

/-- Of two links with the same packets, the one with the longer interval takes the smaller share. -/
theorem Meets.le_of_interval {link' : ScoLinkParameters} (h : p.Meets x.1 x.2 link)
    (h' : p.Meets x.1 x.2 link')
    (hle : link'.transmissionInterval.toNat ≤ link.transmissionInterval.toNat) :
    (choice x link).le (choice x link') := by
  have hwindow : window x.1 x.2 link = window x.1 x.2 link' := by
    rw [window, window, h.retransmits, h'.retransmits]
  show window x.1 x.2 link * _ ≤ window x.1 x.2 link' * _
  rw [hwindow]
  exact Nat.mul_le_mul_left _ hle

/-- One pair of packets: it has no link that meets the requirements and changes nothing, or it has
one with the longest interval, which is taken if its share is not larger than the best so far. -/
theorem tryPackets_cases (hp : 0 < p.transmitBandwidth.toNat ∧ 0 < p.receiveBandwidth.toNat)
    (htx : x.1.Valid) (hrx : x.2.Valid) (best : Choice) :
    ((∀ link, ¬ p.Meets x.1 x.2 link) ∧ p.tryPackets best x.1 x.2 = best) ∨
    ∃ link, p.Meets x.1 x.2 link ∧
      (∀ link', p.Meets x.1 x.2 link' → (choice x link).le (choice x link')) ∧
      ((choice x link).le best ∧ p.tryPackets best x.1 x.2 = choice x link ∨
        ¬ (choice x link).le best ∧ p.tryPackets best x.1 x.2 = best) := by
  unfold tryPackets
  extract_lets txMaxInterval rxMaxInterval shorter interval retransmissionWindow slots
  have hretransmission : retransmissionWindow = p.retransmissions * (x.1.slots + x.2.slots) := by
    unfold retransmissionWindow retransmissions
    split_ifs <;> omega
  have hinterval : interval ≤ 254 := Nat.min_le_right ..
  have hshorter : interval ≤ shorter := le_trans (Nat.min_le_left ..) (Nat.sub_le ..)
  have hlongest : ∀ link, p.Meets x.1 x.2 link → link.transmissionInterval.toNat ≤ interval := by
    intro link h
    have hle : link.transmissionInterval.toNat ≤ shorter := h.interval_le hp
    have heven := h.even
    have hoctet := link.transmissionInterval.toNat_lt
    unfold interval
    omega
  have hslots : ∀ link, p.Meets x.1 x.2 link → window x.1 x.2 link = slots := by
    intro link h
    rw [window, h.retransmits, ← hretransmission]
  by_cases hwindow : slots > interval
  · refine .inl ⟨fun link h => ?_, if_pos hwindow⟩
    have hfits := h.window_le
    rw [hslots link h] at hfits
    have hshort := hlongest link h
    omega
  rw [if_neg hwindow]
  by_cases hlatency : slots * 1250 / 2 > 1000 * p.maxLatency.toNat
  · refine .inl ⟨fun link h => ?_, if_pos hlatency⟩
    have hlate := h.latency
    rw [hslots link h] at hlate
    omega
  rw [if_neg hlatency]
  -- the pair has a link, with the interval that was computed
  have hsent : p.transmitBandwidth.toNat * interval ≤ 1600 * x.1.length := by
    rw [Nat.mul_comm, ← Nat.le_div_iff_mul_le hp.1]
    exact le_trans hshorter (Nat.min_le_left ..)
  have hreceived : p.receiveBandwidth.toNat * interval ≤ 1600 * x.2.length := by
    rw [Nat.mul_comm, ← Nat.le_div_iff_mul_le hp.2]
    exact le_trans hshorter (Nat.min_le_right ..)
  have hoctet : (UInt8.ofNat interval).toNat = interval :=
    UInt8.toNat_ofNat_of_lt' (Nat.lt_of_le_of_lt hinterval (by decide))
  have hagain : (UInt8.ofNat retransmissionWindow).toNat = retransmissionWindow :=
    UInt8.toNat_ofNat_of_lt' (Nat.lt_of_le_of_lt (m := 254) (by omega) (by decide))
  obtain ⟨htransmits, htransmits_le⟩ := isLeast_length hsent htx.length_le
  obtain ⟨hreceives, hreceives_le⟩ := isLeast_length hreceived hrx.length_le
  have hmeets : p.Meets x.1 x.2 ⟨UInt8.ofNat interval, UInt8.ofNat retransmissionWindow,
      UInt16.ofNat ((p.receiveBandwidth.toNat * interval + 1600 - 1) / 1600),
      UInt16.ofNat ((p.transmitBandwidth.toNat * interval + 1600 - 1) / 1600),
        airMode p.voiceSetting, true⟩ := by
    constructor <;> simp only [window, hoctet, hagain]
    case transmits => exact htransmits
    case receives => exact hreceives
    case transmits_le => exact htransmits_le
    case receives_le => exact hreceives_le
    case retransmits => exact hretransmission
    all_goals omega
  refine .inr ⟨_, hmeets, fun link' h' => hmeets.le_of_interval h' ?_, ?_⟩
  · rw [hoctet]
    exact hlongest link' h'
  · have hchoice := hslots _ hmeets
    simp only [Choice.le, choice, hchoice, hoctet]
    split_ifs with hle
    · exact .inl ⟨hle, rfl⟩
    · exact .inr ⟨hle, rfl⟩

/-- The choice is the best link of the pairs, or no pair has a link. -/
def Best (p : ScoConnectionParameters) (pairs : List (Packet × Packet)) (best : Choice) : Prop :=
  (best = ⟨1, 1, none⟩ ∧ ∀ y ∈ pairs, ∀ link, ¬ p.Meets y.1 y.2 link) ∨
    ∃ x ∈ pairs, ∃ link, best = choice x link ∧ p.Meets x.1 x.2 link ∧
      ∀ y ∈ pairs, ∀ link', p.Meets y.1 y.2 link' → (choice x link).le (choice y link')

/-- One more pair. -/
theorem Best.snoc (h : p.Best pairs best)
    (hp : 0 < p.transmitBandwidth.toNat ∧ 0 < p.receiveBandwidth.toNat)
    (hpairs : ∀ y ∈ pairs, y.1.Valid) (htx : x.1.Valid) (hrx : x.2.Valid) :
    p.Best (pairs ++ [x]) (p.tryPackets best x.1 x.2) := by
  simp only [Best, List.forall_mem_append, List.forall_mem_singleton]
  rcases tryPackets_cases hp htx hrx best
    with ⟨hno, heq⟩ | ⟨link, hlink, hown, ⟨hle, heq⟩ | ⟨hle, heq⟩⟩ <;> rw [heq]
  · -- the pair has no link
    rcases h with ⟨hbest, hnone⟩ | ⟨z, hz, link, hbest, hmeets, hleast⟩
    · exact .inl ⟨hbest, hnone, hno⟩
    · exact .inr
        ⟨z, by simp [hz], link, hbest, hmeets, hleast, fun link' h' => absurd h' (hno link')⟩
  · -- its link is the new best
    refine .inr ⟨x, by simp, link, rfl, hlink, fun y hy link' h' => ?_, hown⟩
    rcases h with ⟨-, hnone⟩ | ⟨z, hz, link₀, rfl, hmeets, hleast⟩
    · exact absurd h' (hnone y hy link')
    · exact hle.trans (hleast y hy link' h') (hmeets.interval_pos (hpairs z hz))
  · -- its link takes a larger share
    rcases h with ⟨rfl, hnone⟩ | ⟨z, hz, link₀, rfl, hmeets, hleast⟩
    · refine absurd ?_ hle
      have hwindow := hlink.window_le
      simpa [Choice.le, choice] using hwindow
    · refine .inr ⟨z, by simp [hz], link₀, rfl, hmeets, hleast, fun link' h' => ?_⟩
      have hless : (choice z link₀).le (choice x link) := Nat.le_of_not_le hle
      exact hless.trans (hown link' h') (hlink.interval_pos htx)

/-- The fold over the pairs. By induction on their end. -/
theorem best_foldl (hp : 0 < p.transmitBandwidth.toNat ∧ 0 < p.receiveBandwidth.toNat)
    (hpairs : ∀ y ∈ pairs, y.1.Valid ∧ y.2.Valid) :
    p.Best pairs (pairs.foldl (fun best x => p.tryPackets best x.1 x.2) ⟨1, 1, none⟩) := by
  induction pairs using List.reverseRecOn with
  | nil => exact .inl ⟨rfl, nofun⟩
  | append_singleton l x ih =>
    rw [List.foldl_append]
    obtain ⟨hl, hx⟩ := List.forall_mem_append.mp hpairs
    obtain ⟨htx, hrx⟩ := hx x (by simp)
    exact (ih hl).snoc hp (fun y hy => (hl y hy).1) htx hrx

/-- The products compare the shares. -/
theorem share_le {y : Packet × Packet} {link' : ScoLinkParameters}
    (h : (choice x link).le (choice y link'))
    (hpos : 0 < link.transmissionInterval.toNat) (hpos' : 0 < link'.transmissionInterval.toNat) :
    share x.1 x.2 link ≤ share y.1 y.2 link' := by
  unfold share
  rw [div_le_div_iff₀ (by exact_mod_cast hpos) (by exact_mod_cast hpos')]
  exact_mod_cast h

/-- **The link takes the smallest share of the slots** of all links that meet the requirements, with
any pair of accepted packets.  The link is one of an SCO connection exactly if there is no such
link. -/
theorem link_of_smallest_share (p : ScoConnectionParameters) (htx : p.transmitBandwidth ≠ 0)
    (hrx : p.receiveBandwidth ≠ 0) :
    (∃ tx ∈ acceptedPackets p.packetType, ∃ rx ∈ acceptedPackets p.packetType, ∃ link,
      p.getLinkParameters = some link ∧ p.Meets tx rx link ∧
      ∀ tx' ∈ acceptedPackets p.packetType, ∀ rx' ∈ acceptedPackets p.packetType, ∀ link',
        p.Meets tx' rx' link' → share tx rx link ≤ share tx' rx' link') ∨
    (p.getLinkParameters = p.scoLinkParameters ∧
      ∀ tx ∈ acceptedPackets p.packetType, ∀ rx ∈ acceptedPackets p.packetType, ∀ link,
        ¬ p.Meets tx rx link) := by
  have hpos : 0 < p.transmitBandwidth.toNat ∧ 0 < p.receiveBandwidth.toNat :=
    ⟨UInt32.pos_iff_ne_zero.mpr htx, UInt32.pos_iff_ne_zero.mpr hrx⟩
  have hvalid : ∀ y ∈ acceptedPackets p.packetType ×ˢ acceptedPackets p.packetType,
      y.1.Valid ∧ y.2.Valid := by
    intro y hy
    obtain ⟨htx, hrx⟩ := List.mem_product.mp hy
    exact ⟨valid_of_accepted htx, valid_of_accepted hrx⟩
  have hbest := best_foldl hpos hvalid
  -- the two loops go through the pairs
  have hlink : p.getLinkParameters =
      ((acceptedPackets p.packetType ×ˢ acceptedPackets p.packetType).foldl
      (fun best x => p.tryPackets best x.1 x.2) ⟨1, 1, none⟩).parameters.or
        p.scoLinkParameters := by
    rw [getLinkParameters, if_neg (by simp [htx, hrx])]
    simp [SProd.sprod, List.product, List.foldl_flatMap, List.foldl_map]
  rcases hbest with ⟨heq, hnone⟩ | ⟨x, hx, link, heq, hmeets, hleast⟩ <;> rw [heq] at hlink
  · exact .inr ⟨hlink, fun tx ht rx hr => hnone (tx, rx) (List.mem_product.mpr ⟨ht, hr⟩)⟩
  · obtain ⟨hxt, hxr⟩ := List.mem_product.mp hx
    refine .inl ⟨x.1, hxt, x.2, hxr, link, hlink, hmeets, fun tx' ht' rx' hr' link' h' => ?_⟩
    exact share_le (x := x) (y := (tx', rx'))
      (hleast (tx', rx') (List.mem_product.mpr ⟨ht', hr'⟩) link' h')
      (hmeets.interval_pos (valid_of_accepted hxt)) (h'.interval_pos (valid_of_accepted ht'))

theorem link_of_smallest_share_wideband :
    let p : ScoConnectionParameters := ⟨8000, 8000, 13, 0x63, 2, 0x380⟩
    ∃ tx ∈ acceptedPackets p.packetType, ∃ rx ∈ acceptedPackets p.packetType,
      p.Meets tx rx ⟨12, 4, 60, 60, 3, true⟩ ∧
      ∀ tx' ∈ acceptedPackets p.packetType, ∀ rx' ∈ acceptedPackets p.packetType, ∀ link',
        p.Meets tx' rx' link' → share tx rx ⟨12, 4, 60, 60, 3, true⟩ ≤ share tx' rx' link' := by
  intro p
  have hlink : p.getLinkParameters = some ⟨12, 4, 60, 60, 3, true⟩ := by decide
  rcases link_of_smallest_share p (by decide) (by decide)
    with ⟨tx, htx, rx, hrx, link, heq, hmeets, hleast⟩ | ⟨heq, -⟩
  · rw [hlink, Option.some_inj] at heq
    subst heq
    exact ⟨tx, htx, rx, hrx, hmeets, hleast⟩
  · rw [hlink] at heq
    exact absurd heq (by decide)

end ScoConnectionParameters

/-! ## Connections -/

/-- How far a synchronous connection is. -/
inductive ScoState
  | closed
  | pending
  | sentEscoConnectionRequest
  | sentScoConnectionRequest
  | opened
deriving DecidableEq, Repr

/-- Where the data of a synchronous connection goes. -/
inductive ScoDatapath
  | normal
  | spoofed
deriving DecidableEq, Repr

/-- A synchronous connection. -/
structure ScoConnection where
  address : Address
  parameters : ScoConnectionParameters
  linkParameters : ScoLinkParameters
  state : ScoState
  datapath : ScoDatapath
  legacy : Bool
  /-- A periodic task sends spoofed data: `stream_handle_` has a value. -/
  streaming : Bool
deriving DecidableEq, Repr

namespace ScoConnection

/-- The parameters both ends agree on, before the link parameters are derived from them. -/
def negotiatedParameters (c : ScoConnection) (peer : ScoConnectionParameters) :
    Option ScoConnectionParameters :=
  let own := c.parameters
  let packetType := (peer.packetType &&& own.packetType &&& 0x3f) |||
    ((peer.packetType ||| own.packetType) &&& 0x3c0)
  let maxLatency :=
    if peer.maxLatency = 0xffff then own.maxLatency
    else if own.maxLatency = 0xffff then peer.maxLatency
    else min peer.maxLatency own.maxLatency
  let effort : Option UInt8 :=
    if c.state = .sentScoConnectionRequest then some noRetransmission
    else if peer.retransmissionEffort = own.retransmissionEffort ∨
        peer.retransmissionEffort = doNotCare then some own.retransmissionEffort
    else if own.retransmissionEffort = doNotCare then some peer.retransmissionEffort
    else if peer.retransmissionEffort = noRetransmission ∨
        own.retransmissionEffort = noRetransmission then none
    else some optimizedForPower
  if peer.transmitBandwidth ≠ 0xffff ∧ peer.transmitBandwidth ≠ own.receiveBandwidth then none
  else if c.state = .sentEscoConnectionRequest ∧ peer.receiveBandwidth ≠ 0xffff ∧
      peer.receiveBandwidth ≠ own.transmitBandwidth then none
  else if peer.voiceSetting &&& ~~~0x3 ≠ own.voiceSetting &&& ~~~0x3 then none
  else if packetType = 0x3c0 then none
  else effort.map fun effort =>
    ⟨own.transmitBandwidth, own.receiveBandwidth, maxLatency, own.voiceSetting, effort, packetType⟩

/-- The link parameters for what the peer asks, if the requirements of both can be met. -/
def negotiateLinkParameters (c : ScoConnection) (peer : ScoConnectionParameters) :
    Option ScoLinkParameters := do
  let negotiated ← c.negotiatedParameters peer
  negotiated.getLinkParameters

/-- Neither end has opened the connection.
Source: `HasPendingScoConnection` -/
def isPending (c : ScoConnection) : Bool :=
  c.state = .pending ∨ c.state = .sentEscoConnectionRequest ∨ c.state = .sentScoConnectionRequest

end ScoConnection

end RootCanal.BrEdr
