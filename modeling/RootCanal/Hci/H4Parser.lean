import RootCanal.Lib.Framing

/-!
# The H4 parser

HCI packets of five types share one octet stream: a type octet, a preamble whose size depends on the
type and which ends in the length of the payload, and the payload.  `H4Parser` is fed the stream in
pieces of at most `bytesRequested` octets.

* `Frame`: what the parser takes for one packet.  The parser is a `Lib.Framing` of frames
  (`framing`).
* `H4Packet`: a packet as `hci_packets.pdl` lays it out.  It is a frame unless the parser reads
  another length than the packet has, which for ISO data it does: the length has 14 bits, of which
  the parser reads 12 (`H4Packet.parsedLength`).
* **`parses_iff`: the packets of a stream are given out as they were sent, however the stream is
  cut, exactly when every ISO packet is shorter than 4096 octets.**

Source: `model/hci/h4_parser.cc`, `model/hci/h4_parser.h`
-/

namespace RootCanal.H4

open Lib

/-! ## The parser -/

/-- The packets of the H4 transport. -/
inductive PacketType
  | unknown
  | command
  | acl
  | sco
  | event
  | iso
deriving DecidableEq, Repr

namespace PacketType

/-- The octet of a packet type. -/
def toOctet : PacketType → UInt8
  | unknown => 0
  | command => 1
  | acl => 2
  | sco => 3
  | event => 4
  | iso => 5

/-- The type of a packet that starts with the octet. -/
def ofOctet (octet : UInt8) : Option PacketType :=
  [command, acl, sco, event, iso].find? fun type => type.toOctet = octet

variable {type : PacketType}

/-- Every known type is read back. -/
theorem ofOctet_toOctet (h : type ≠ unknown) : ofOctet type.toOctet = some type := by
  cases type with
  | unknown => exact absurd rfl h
  | command | acl | sco | event | iso => rfl

theorem ofOctet_ne_unknown {octet} (h : ofOctet octet = some type) : type ≠ unknown := by
  rintro rfl
  exact absurd (List.mem_of_find?_eq_some h) (by decide)

/-- Source: `COMMAND_PREAMBLE_SIZE` .. `ISO_PREAMBLE_SIZE` -/
def preambleSize : PacketType → Nat
  | unknown => 0
  | command => 3
  | acl => 4
  | sco => 3
  | event => 2
  | iso => 4

/-- Source: `COMMAND_LENGTH_OFFSET` .. `ISO_LENGTH_OFFSET` -/
def lengthOffset : PacketType → Nat
  | unknown => 0
  | command => 2
  | acl => 2
  | sco => 2
  | event => 1
  | iso => 2

/-- Every known type has a preamble. -/
theorem preambleSize_pos (h : type ≠ unknown) : 0 < type.preambleSize := by
  cases type with
  | unknown => exact absurd rfl h
  | command | acl | sco | event | iso => decide

end PacketType

/-- The payload's length, from the preamble. -/
def hciGetPacketLengthForType (type : PacketType) (preamble : List UInt8) : Nat :=
  let offset := type.lengthOffset
  let size := (preamble.getD offset 0).toNat
  let next := (preamble.getD (offset + 1) 0).toNat
  match type with
  | .acl => size ||| next <<< 8
  | .iso => size ||| (next &&& 0x0f) <<< 8
  | _ => size

/-- Which part of a packet is read. -/
inductive State
  | hciType
  | hciPreamble
  | hciPayload
  | hciRecovery
deriving DecidableEq, Repr

/-- A call of the callback of the type, with the octets of the packet. -/
structure Callback where
  type : PacketType
  packet : List UInt8
deriving DecidableEq, Repr

/-- The parser between two reads. -/
structure H4Parser where
  hciPacketType : PacketType
  state : State
  packetType : UInt8
  packet : List UInt8
  bytesWanted : Nat
  enableRecoveryState : Bool
deriving DecidableEq, Repr

namespace H4Parser

/-- Source: `H4Parser::H4Parser` -/
def new (enableRecoveryState : Bool) : H4Parser where
  hciPacketType := .unknown
  state := .hciType
  packetType := 0
  packet := []
  bytesWanted := 0
  enableRecoveryState := enableRecoveryState

/-- How many octets the next read may take. -/
def bytesRequested (s : H4Parser) : Nat :=
  match s.state with
  | .hciType | .hciRecovery => 1
  | .hciPreamble | .hciPayload => s.bytesWanted

/-- The callback of the packet's type is called. -/
def onPacketReady (s : H4Parser) : Except Panic (H4Parser × List Callback) :=
  if s.hciPacketType = .unknown then .error .assertion
  else .ok ({ s with hciPacketType := .unknown }, [⟨s.hciPacketType, s.packet⟩])

/-- The reset command that recovery looks for. -/
def resetCommand : List UInt8 := [0x01, 0x03, 0x0c, 0x00]

/-- An octet received in the recovery state, which ends with the HCI Reset command. -/
def recover (s : H4Parser) (octet : UInt8) : H4Parser :=
  let packet :=
    if resetCommand[s.packet.length]? = some octet then s.packet ++ [octet]
    -- the mismatched octet can also be the first of the sequence
    else if resetCommand.head? = some octet then [octet] else []
  if packet.length = resetCommand.length then
    { s with packet := packet.tail, bytesWanted := 0 }
  else { s with packet := packet }

/-- The octets are stored, as the state has it.
Source: `Consume`, the first switch -/
def store (s : H4Parser) (octet : UInt8) (buffer : List UInt8) : H4Parser :=
  match s.state with
  | .hciType => { s with packetType := octet, packet := [] }
  | .hciRecovery => s.recover octet
  | .hciPreamble | .hciPayload =>
    { s with
      packet := s.packet ++ buffer
      bytesWanted := s.bytesWanted - buffer.length }

/-- The packet is complete.
Source: `Consume`, the second switch -/
def finish (s : H4Parser) : Except Panic (H4Parser × List Callback) := do
  let (s, callbacks) ← s.onPacketReady
  return ({ s with state := .hciType }, callbacks)

/-- The parser moves on to the next part of the packet.
Source: `Consume`, the second switch -/
def advance (s : H4Parser) : Except Panic (H4Parser × List Callback) :=
  match s.state with
  | .hciType =>
    match PacketType.ofOctet s.packetType with
    | none =>
      if ¬ s.enableRecoveryState then .error .assertion
      else .ok ({ s with
        state := .hciRecovery
        hciPacketType := .command
        bytesWanted := 1 }, [])
    | some type => .ok ({ s with
        hciPacketType := type
        state := .hciPreamble
        bytesWanted := type.preambleSize }, [])
  | .hciPreamble =>
    if s.bytesWanted = 0 then
      let payloadSize := hciGetPacketLengthForType s.hciPacketType s.packet
      if payloadSize = 0 then s.finish
      else .ok ({ s with bytesWanted := payloadSize, state := .hciPayload }, [])
    else .ok (s, [])
  | .hciRecovery | .hciPayload => if s.bytesWanted = 0 then s.finish else .ok (s, [])

/-- Take octets; `false` when there are none. -/
def consume (s : H4Parser) : List UInt8 → Except Panic (Bool × H4Parser × List Callback)
  | [] => .ok (false, s, [])
  | octet :: buffer =>
    if (octet :: buffer).length > s.bytesRequested then .error .assertion
    else do
      let r ← (s.store octet (octet :: buffer)).advance
      return (true, r)

end H4Parser

/-- The parser as a machine that takes pieces of the stream and calls back. -/
def h4Parser : Machine H4Parser (List UInt8) Callback where
  step s buffer := do
    let (_, r) ← s.consume buffer
    return r

namespace H4Parser

variable {s : H4Parser} {buffer : List UInt8}

/-! ## One call of `consume` -/

/-- A step stores the octets and moves on. -/
theorem step_eq (h : Fits bytesRequested s buffer) :
    ∃ octet, h4Parser.step s buffer = (s.store octet buffer).advance ∧
      buffer.head? = some octet := by
  obtain ⟨hne, hlen⟩ := h
  cases buffer with
  | nil => exact absurd rfl hne
  | cons octet buffer =>
    refine ⟨octet, ?_, rfl⟩
    change (consume s (octet :: buffer) >>= fun r => pure r.2) = _
    rw [consume, if_neg (Nat.not_lt.mpr hlen)]
    cases (s.store octet (octet :: buffer)).advance <;> rfl

/-- An octet that is awaited alone. -/
theorem step_octet {octet} (hst : s.state = .hciType ∨ s.state = .hciRecovery) :
    h4Parser.step s [octet] = (s.store octet [octet]).advance := by
  have hfits : Fits bytesRequested s [octet] := by
    refine ⟨List.cons_ne_nil _ _, ?_⟩
    rcases hst with hst | hst <;> simp [bytesRequested, hst]
  obtain ⟨_, hstep, ⟨⟩⟩ := step_eq hfits
  exact hstep

/-- The type octet is read. -/
theorem step_type {octet} {type : PacketType} (hst : s.state = .hciType)
    (htype : PacketType.ofOctet octet = some type) :
    h4Parser.step s [octet] = .ok ({ s with
      packetType := octet
      packet := []
      hciPacketType := type
      state := .hciPreamble
      bytesWanted := type.preambleSize }, []) := by
  rw [step_octet (.inl hst), store, hst, advance]
  simp only [htype]

/-- Octets of the part of the packet that is awaited. -/
theorem step_stores (hst : s.state = .hciPreamble ∨ s.state = .hciPayload) (hne : buffer ≠ [])
    (hlen : buffer.length ≤ s.bytesWanted) :
    h4Parser.step s buffer = advance { s with
      packet := s.packet ++ buffer
      bytesWanted := s.bytesWanted - buffer.length } := by
  rcases hst with hst | hst
  all_goals
    have hfits : Fits bytesRequested s buffer := ⟨hne, by simpa [bytesRequested, hst] using hlen⟩
    obtain ⟨octet, hstep, -⟩ := step_eq hfits
    rw [hstep, store, hst]

/-- Octets that do not complete the part of the packet that is awaited. -/
theorem step_part (hst : s.state = .hciPreamble ∨ s.state = .hciPayload) (hne : buffer ≠ [])
    (hlen : buffer.length < s.bytesWanted) :
    h4Parser.step s buffer = .ok ({ s with
      packet := s.packet ++ buffer
      bytesWanted := s.bytesWanted - buffer.length }, []) := by
  have hwant : s.bytesWanted - buffer.length ≠ 0 := by omega
  rw [step_stores hst hne hlen.le, advance]
  rcases hst with hst | hst <;> simp only [hst, if_neg hwant]

/-- The end of a preamble that announces a payload. -/
theorem step_preamble {size : Nat} (hst : s.state = .hciPreamble) (hne : buffer ≠ [])
    (hlen : buffer.length = s.bytesWanted)
    (hsize : hciGetPacketLengthForType s.hciPacketType (s.packet ++ buffer) = size)
    (hpos : size ≠ 0) :
    h4Parser.step s buffer = .ok ({ s with
      packet := s.packet ++ buffer
      bytesWanted := size
      state := .hciPayload }, []) := by
  rw [step_stores (.inl hst) hne hlen.le, advance]
  simp only [hst, hlen, Nat.sub_self, if_true, hsize, if_neg hpos]

/-- The last octets of a packet are read. -/
theorem step_end (hst : s.state = .hciPayload ∨ s.state = .hciPreamble ∧
      hciGetPacketLengthForType s.hciPacketType (s.packet ++ buffer) = 0) (hne : buffer ≠ [])
    (hlen : buffer.length = s.bytesWanted) (hkn : s.hciPacketType ≠ .unknown) :
    ∃ s', h4Parser.step s buffer = .ok (s', [⟨s.hciPacketType, s.packet ++ buffer⟩]) ∧
      s'.state = .hciType := by
  rcases hst with hst | ⟨hst, hsize⟩
  · rw [step_stores (.inr hst) hne hlen.le, advance]
    simp only [hst, hlen, Nat.sub_self, if_true, finish, onPacketReady, if_neg hkn]
    exact ⟨_, rfl, rfl⟩
  · rw [step_stores (.inl hst) hne hlen.le, advance]
    simp only [hst, hlen, Nat.sub_self, if_true, hsize, finish, onPacketReady, if_neg hkn]
    exact ⟨_, rfl, rfl⟩

end H4Parser

/-! ## Frames -/

/-- What the parser takes for one packet: a type, a preamble of the size of the type, and a payload
of the length that the parser reads in the preamble. -/
structure Frame where
  type : PacketType
  preamble : List UInt8
  payload : List UInt8
  known : type ≠ .unknown
  preamble_length : preamble.length = type.preambleSize
  payload_length : payload.length = hciGetPacketLengthForType type preamble

namespace Frame

/-- The octets of a frame. -/
def octets (f : Frame) : List UInt8 := f.type.toOctet :: (f.preamble ++ f.payload)

/-- The callback of a frame. -/
def callback (f : Frame) : Callback := ⟨f.type, f.preamble ++ f.payload⟩

/-- The state of the parser once the octets of the frame have been taken. -/
def Taken (f : Frame) : List UInt8 → H4Parser → Prop
  | [], s => s.state = .hciType
  | _ :: packet, s => s.hciPacketType = f.type ∧ s.packet = packet ∧
      if packet.length < f.preamble.length then
        s.state = .hciPreamble ∧ packet.length + s.bytesWanted = f.preamble.length
      else s.state = .hciPayload ∧
        packet.length + s.bytesWanted = f.preamble.length + f.payload.length

variable {f : Frame} {s : H4Parser} {packet q c : List UInt8}

variable {octet : UInt8}

/-- Inside the preamble. -/
theorem Taken.inPreamble (htype : s.hciPacketType = f.type) (hpkt : s.packet = packet)
    (hst : s.state = .hciPreamble) (hlt : packet.length < f.preamble.length)
    (hwant : packet.length + s.bytesWanted = f.preamble.length) : f.Taken (octet :: packet) s := by
  refine ⟨htype, hpkt, ?_⟩
  rw [if_pos hlt]
  exact ⟨hst, hwant⟩

/-- Past the preamble. -/
theorem Taken.inPayload (htype : s.hciPacketType = f.type) (hpkt : s.packet = packet)
    (hst : s.state = .hciPayload) (hle : f.preamble.length ≤ packet.length)
    (hwant : packet.length + s.bytesWanted = f.preamble.length + f.payload.length) :
    f.Taken (octet :: packet) s := by
  refine ⟨htype, hpkt, ?_⟩
  rw [if_neg (Nat.not_lt.mpr hle)]
  exact ⟨hst, hwant⟩

/-- Past the type octet, what is awaited is what is missing of the preamble or of the payload. -/
theorem Taken.wanted (h : f.Taken (octet :: packet) s) :
    (s.state = .hciPreamble ∨ s.state = .hciPayload) ∧ s.bytesRequested = s.bytesWanted := by
  obtain ⟨-, -, h⟩ := h
  split at h
  · exact ⟨.inl h.1, by rw [H4Parser.bytesRequested, h.1]⟩
  · exact ⟨.inr h.1, by rw [H4Parser.bytesRequested, h.1]⟩

theorem length_eq_of_octets (h : f.octets = octet :: packet ++ q) :
    packet.length + q.length = f.preamble.length + f.payload.length := by
  have := congrArg List.length (List.cons.inj h).2
  simpa using this.symm

/-- The parser asks for octets of the frame only. -/
theorem Taken.wants {p} (h : f.Taken p s) (hoct : f.octets = p ++ q) (hq : q ≠ []) :
    0 < s.bytesRequested ∧ s.bytesRequested ≤ q.length := by
  have hpos := List.length_pos_iff.mpr hq
  cases p with
  | nil =>
    have hone : s.bytesRequested = 1 := by rw [H4Parser.bytesRequested, show s.state = _ from h]
    omega
  | cons =>
    have hlen := length_eq_of_octets hoct
    rw [h.wanted.2]
    obtain ⟨-, -, h⟩ := h
    split at h <;> omega

/-- The type octet begins a frame. -/
theorem Taken.begin (h : s.state = .hciType) :
    ∃ s', h4Parser.step s [f.type.toOctet] = .ok (s', []) ∧ f.Taken [f.type.toOctet] s' := by
  have hpos := PacketType.preambleSize_pos f.known
  rw [← f.preamble_length] at hpos
  refine ⟨_, H4Parser.step_type h (PacketType.ofOctet_toOctet f.known),
    Taken.inPreamble rfl rfl rfl hpos ?_⟩
  rw [f.preamble_length]
  exact Nat.zero_add _

/-- Octets that do not end the frame. -/
theorem Taken.more {p} (h : f.Taken p s) (hoct : f.octets = p ++ (c ++ q))
    (hq : q ≠ []) (hfits : Fits H4Parser.bytesRequested s c) :
    ∃ s', h4Parser.step s c = .ok (s', []) ∧ f.Taken (p ++ c) s' := by
  cases p with
  | nil =>
    have hlen : c.length = 1 := by
      have hone : s.bytesRequested = 1 := by rw [H4Parser.bytesRequested, show s.state = _ from h]
      have := List.length_pos_iff.mpr hfits.1
      have := hfits.2
      omega
    obtain ⟨octet, rfl⟩ := List.length_eq_one_iff.mp hlen
    cases (List.cons.inj hoct).1
    exact Taken.begin h
  | cons _ packet =>
    obtain ⟨hst, hwant⟩ := h.wanted
    obtain ⟨htype, hpkt, h⟩ := h
    have hlen := length_eq_of_octets hoct
    rw [List.length_append] at hlen
    have hpos := List.length_pos_iff.mpr hq
    have hle := hfits.2
    rw [hwant] at hle
    rcases hle.lt_or_eq with hlt | heq
    · refine ⟨_, H4Parser.step_part hst hfits.1 hlt, ?_⟩
      rw [List.cons_append]
      have happend : (packet ++ c).length = packet.length + c.length := List.length_append
      split at h
      · refine Taken.inPreamble htype (by rw [hpkt]) h.1 (by omega) ?_
        dsimp only
        omega
      · refine Taken.inPayload htype (by rw [hpkt]) h.1 (by omega) ?_
        dsimp only
        omega
    · -- only the preamble can end before the frame does
      split at h
      · have hpreamble : s.packet ++ c = f.preamble := by
          have hwhole : (packet ++ c) ++ q = f.preamble ++ f.payload := by
            rw [List.append_assoc]
            exact (List.cons.inj hoct).2.symm
          rw [hpkt]
          refine (List.append_inj hwhole ?_).1
          rw [List.length_append]
          omega
        have hsize : hciGetPacketLengthForType s.hciPacketType (s.packet ++ c) =
            f.payload.length := by
          rw [htype, hpreamble, f.payload_length]
        refine ⟨_, H4Parser.step_preamble h.1 hfits.1 heq hsize (by omega), ?_⟩
        rw [List.cons_append, ← hpkt, hpreamble]
        exact Taken.inPayload htype rfl rfl le_rfl rfl
      · omega

/-- The octets that end the frame. -/
theorem Taken.done {p} (h : f.Taken p s) (hoct : f.octets = p ++ c)
    (hfits : Fits H4Parser.bytesRequested s c) :
    ∃ s', h4Parser.step s c = .ok (s', [f.callback]) ∧ s'.state = .hciType := by
  have hle := (h.wants hoct hfits.1).2
  have heq : c.length = s.bytesRequested := Nat.le_antisymm hfits.2 hle
  cases p with
  | nil =>
    have hone : s.bytesRequested = 1 := by rw [H4Parser.bytesRequested, show s.state = _ from h]
    have hpos := PacketType.preambleSize_pos f.known
    have hlen : f.octets.length = 1 := by rw [hoct, List.nil_append, heq, hone]
    rw [octets, List.length_cons, List.length_append, f.preamble_length] at hlen
    omega
  | cons _ packet =>
    have hwant := h.wanted.2
    obtain ⟨htype, hpkt, h⟩ := h
    have hlen := length_eq_of_octets hoct
    have hwhole : s.packet ++ c = f.preamble ++ f.payload := by
      rw [hpkt]
      exact (List.cons.inj hoct).2.symm
    rw [callback, ← htype, ← hwhole]
    refine H4Parser.step_end ?_ hfits.1 (heq.trans hwant) (htype ▸ f.known)
    split at h
    · -- the frame ends with its preamble: it has no payload
      have hnil : f.payload = [] := List.length_eq_zero_iff.mp (by omega)
      rw [hnil, List.append_nil] at hwhole
      exact .inr ⟨h.1, by rw [hwhole, htype, ← f.payload_length, hnil, List.length_nil]⟩
    · exact .inl h.1

end Frame

/-- The parser takes frames. -/
def framing : Framing h4Parser H4Parser.bytesRequested Frame.octets Frame.callback where
  Idle s := s.state = .hciType
  Taken := Frame.Taken
  octets_ne_nil _ := List.cons_ne_nil _ _
  idle_wants h := by
    rw [H4Parser.bytesRequested, h]
    exact Nat.one_pos
  start _ h := h
  taken_wants := Frame.Taken.wants
  more := Frame.Taken.more
  done := Frame.Taken.done

/-! ## Packets -/

/-- The bits of the length of the payload.
Source: `hci_packets.pdl` `Command`, `Acl`, `Sco`, `Event`, `Iso` -/
def PacketType.lengthWidth : PacketType → Nat
  | unknown => 0
  | command => 8
  | acl => 16
  | sco => 8
  | event => 8
  | iso => 14

/-- The length of the payload, the low octet first. -/
def PacketType.lengthOctets (type : PacketType) (length : Nat) : List UInt8 :=
  if type.lengthWidth ≤ 8 then [UInt8.ofNat length]
  else [UInt8.ofNat length, UInt8.ofNat (length / 256)]

/-- A well formed packet: what comes before the length, and a payload whose length fits its
field. -/
structure H4Packet where
  type : PacketType
  header : List UInt8
  payload : List UInt8
  known : type ≠ .unknown
  header_length : header.length = type.lengthOffset
  payload_length : payload.length < 2 ^ type.lengthWidth

namespace H4Packet

/-- The preamble of a packet. -/
def preamble (p : H4Packet) : List UInt8 := p.header ++ p.type.lengthOctets p.payload.length

/-- The octets of a packet. -/
def octets (p : H4Packet) : List UInt8 := p.type.toOctet :: (p.preamble ++ p.payload)

/-- The callback of a packet. -/
def callback (p : H4Packet) : Callback := ⟨p.type, p.preamble ++ p.payload⟩

/-- The length of the payload as the parser reads it. -/
def parsedLength (p : H4Packet) : Nat :=
  if p.type = .iso then p.payload.length % 4096 else p.payload.length

/-- The preamble has the size of its type. -/
theorem preamble_length (p : H4Packet) : p.preamble.length = p.type.preambleSize := by
  rw [preamble, List.length_append, p.header_length]
  have hkn := p.known
  cases htype : p.type with
  | unknown => exact absurd htype hkn
  | command | acl | sco | event | iso => rfl

/-- Two octets are joined by shift and or. -/
theorem or_shiftLeft_eight {low high : Nat} (h : low < 256) :
    low ||| high <<< 8 = low + 256 * high := by
  rw [Nat.or_comm, ← Nat.shiftLeft_add_eq_or_of_lt h, Nat.shiftLeft_eq]
  omega

/-- The octets of the length stand after the header. -/
theorem getD_preamble (p : H4Packet) (i : Nat) : p.preamble.getD (p.type.lengthOffset + i) 0 =
      (p.type.lengthOctets p.payload.length).getD i 0 := by
  rw [preamble, ← p.header_length, List.getD_append_right _ _ _ _ (Nat.le_add_right ..),
    Nat.add_sub_cancel_left]

theorem toNat_ofNat (n : Nat) : (UInt8.ofNat n).toNat = n % 256 := UInt8.toNat_ofNat'

/-- The length that is read from a preamble. -/
theorem hciGetPacketLengthForType_preamble (p : H4Packet) :
    hciGetPacketLengthForType p.type p.preamble = p.parsedLength := by
  have h1 := p.getD_preamble 0
  have h2 := p.getD_preamble 1
  have hlen := p.payload_length
  unfold hciGetPacketLengthForType parsedLength
  rw [Nat.add_zero] at h1
  dsimp only
  rw [h1, h2]
  have hkn := p.known
  cases htype : p.type with
  | unknown => exact absurd htype hkn
  | command | sco | event =>
    rw [htype] at hlen
    exact (toNat_ofNat _).trans (Nat.mod_eq_of_lt hlen)
  | acl =>
    rw [htype] at hlen
    change (UInt8.ofNat p.payload.length).toNat |||
      (UInt8.ofNat (p.payload.length / 256)).toNat <<< 8 = _
    have hlt : p.payload.length < 65536 := hlen
    rw [toNat_ofNat, toNat_ofNat, or_shiftLeft_eight (Nat.mod_lt _ (by decide)), if_neg (by decide)]
    omega
  | iso =>
    change (UInt8.ofNat p.payload.length).toNat |||
      ((UInt8.ofNat (p.payload.length / 256)).toNat &&& (2 ^ 4 - 1)) <<< 8 = _
    rw [toNat_ofNat, toNat_ofNat, Nat.and_two_pow_sub_one_eq_mod,
      or_shiftLeft_eight (Nat.mod_lt _ (by decide)), if_pos rfl]
    omega

/-- The length read is never too long. -/
theorem parsedLength_le (p : H4Packet) : p.parsedLength ≤ p.payload.length := by
  unfold parsedLength
  split
  · exact Nat.mod_le ..
  · exact le_rfl

/-- What the parser takes for the packet. -/
def frame (p : H4Packet) : Frame where
  type := p.type
  preamble := p.preamble
  payload := p.payload.take p.parsedLength
  known := p.known
  preamble_length := p.preamble_length
  payload_length := by
    rw [hciGetPacketLengthForType_preamble, List.length_take_of_le p.parsedLength_le]

/-- The parser reads the length of the packet. -/
def Measured (p : H4Packet) : Prop := p.type = .iso → p.payload.length < 4096

/-- The length read is right exactly if the length field holds it. -/
theorem parsedLength_eq_iff (p : H4Packet) : p.parsedLength = p.payload.length ↔ p.Measured := by
  unfold parsedLength Measured
  split
  · next h =>
      constructor
      · intro heq _
        rw [← heq]
        exact Nat.mod_lt _ (by decide)
      · intro hlt
        exact Nat.mod_eq_of_lt (hlt h)
  · next h => exact iff_of_true rfl fun hiso => absurd hiso h

variable {p : H4Packet}

/-- A packet whose length the parser reads is its frame. -/
theorem Measured.payload (h : p.Measured) : p.frame.payload = p.payload :=
  List.take_of_length_le (p.parsedLength_eq_iff.mpr h).ge

theorem Measured.octets (h : p.Measured) : p.frame.octets = p.octets := by
  rw [Frame.octets, h.payload]
  rfl

theorem Measured.callback (h : p.Measured) : p.frame.callback = p.callback := by
  rw [Frame.callback, h.payload]
  rfl

/-- The octets of any packet start with those of its frame. -/
theorem frame_octets (p : H4Packet) :
    p.octets = p.frame.octets ++ p.payload.drop p.parsedLength := by
  rw [Frame.octets, List.cons_append, List.append_assoc]
  change _ = p.type.toOctet :: (p.preamble ++ (p.payload.take p.parsedLength ++ _))
  rw [List.take_append_drop]
  rfl

/-- Only a packet whose length the parser reads is given out as it is. -/
theorem measured_of_callback (h : p.frame.callback = p.callback) : p.Measured := by
  have hpayload : p.payload.take p.parsedLength = p.payload :=
      List.append_cancel_left (congrArg Callback.packet h)
  rw [← p.parsedLength_eq_iff, ← List.length_take_of_le p.parsedLength_le, hpayload]

end H4Packet

/-! ## Streams cut into single octets -/

namespace H4Parser

/-- After a packet the parser waits for a type. -/
theorem finish_state {s s' : H4Parser} {out : List Callback} (h : s.finish = .ok (s', out)) :
    s'.state = .hciType := by
  obtain ⟨r, -, h⟩ := bind_eq_ok.mp h
  cases h
  rfl

/-- The parser asks for something if octets are wanted. -/
theorem bytesRequested_pos_of_wanted {s : H4Parser} (h : s.bytesWanted ≠ 0) :
    0 < s.bytesRequested := by
  unfold bytesRequested
  split <;> omega

/-- The parser asks for the type. -/
theorem bytesRequested_pos_of_type {s : H4Parser} (h : s.state = .hciType) :
    0 < s.bytesRequested := by
  rw [bytesRequested, h]
  exact Nat.one_pos

/-- Whatever was received, the parser takes at least one octet next. -/
theorem advance_bytesRequested {s s' : H4Parser} {out : List Callback}
    (h : s.advance = .ok (s', out)) : 0 < s'.bytesRequested := by
  unfold advance at h
  split at h
  · split at h
    · split at h
      · cases h
      · cases h
        exact Nat.one_pos
    · next type htype =>
        cases h
        exact PacketType.preambleSize_pos (PacketType.ofOctet_ne_unknown htype)
  · split at h
    · dsimp only at h
      split at h
      · exact bytesRequested_pos_of_type (finish_state h)
      · next hsize =>
          cases h
          exact Nat.pos_of_ne_zero hsize
    · next hwant =>
        cases h
        exact bytesRequested_pos_of_wanted hwant
  all_goals
    split at h
    · exact bytesRequested_pos_of_type (finish_state h)
    · next hwant =>
        cases h
        exact bytesRequested_pos_of_wanted hwant

/-- A stream cut into single octets. -/
def singles (octets : List UInt8) : List (List UInt8) := octets.map fun octet => [octet]

theorem flatten_singles (octets : List UInt8) : (singles octets).flatten = octets := by
  rw [singles, ← List.flatMap_def, List.flatMap_singleton']

/-- A stream can always be taken one octet at a time. -/
theorem meets_singles {s : H4Parser} (hs : 0 < s.bytesRequested) (octets : List UInt8) :
    h4Parser.Meets (Fits bytesRequested) s (singles octets) := by
  induction octets generalizing s with
  | nil => exact trivial
  | cons octet _ ih =>
    have hfits : Fits bytesRequested s [octet] := ⟨List.cons_ne_nil _ _, hs⟩
    refine ⟨hfits, ?_⟩
    obtain ⟨octet', hstep, -⟩ := step_eq hfits
    rw [hstep]
    cases hadvance : (s.store octet' [octet]).advance with
    | error => exact trivial
    | ok => exact ih (advance_bytesRequested hadvance)

end H4Parser

/-! ## Every packet is parsed -/

/-- However the stream of the packets is cut, a fresh parser calls back for each packet once, with
its type and its octets and in order, always takes more, and ends where the next packet can
begin. -/
structure Parses (enableRecoveryState : Bool) (packets : List H4Packet) : Prop where
  requests : ∀ pieces : List (List UInt8), pieces.flatten <+: packets.flatMap H4Packet.octets →
    h4Parser.Meets (Fits H4Parser.bytesRequested) (.new enableRecoveryState) pieces →
      ∃ tr s, h4Parser.exec (.new enableRecoveryState) pieces = .ok (tr, s) ∧ 1 ≤ s.bytesRequested
  callbacks : ∀ pieces : List (List UInt8), pieces.flatten = packets.flatMap H4Packet.octets →
    h4Parser.Meets (Fits H4Parser.bytesRequested) (.new enableRecoveryState) pieces →
      ∃ tr s, h4Parser.exec (.new enableRecoveryState) pieces = .ok (tr, s) ∧
        tr.flatMap Prod.snd = packets.map H4Packet.callback ∧ s.state = .hciType

variable {enableRecoveryState : Bool} {packets : List H4Packet}

theorem framing_idle_new : framing.Idle (.new enableRecoveryState) := rfl

theorem flatMap_frame_octets (h : ∀ p ∈ packets, p.Measured) :
    (packets.map H4Packet.frame).flatMap Frame.octets = packets.flatMap H4Packet.octets := by
  rw [List.flatMap_map]
  exact List.flatMap_congr fun p hp => (h p hp).octets

theorem map_frame_callback (h : ∀ p ∈ packets, p.Measured) :
    (packets.map H4Packet.frame).map Frame.callback = packets.map H4Packet.callback := by
  rw [List.map_map]
  exact List.map_congr_left fun p hp => (h p hp).callback

/-- Packets whose length the parser reads are parsed. -/
theorem parses_of_measured (h : ∀ p ∈ packets, p.Measured) :
    Parses enableRecoveryState packets where
  requests := by
    rintro pieces ⟨rest, hrs⟩ hfits
    have hpos : framing.Position (packets.map H4Packet.frame) (pieces.flatten ++ rest)
        (.new enableRecoveryState) := by
      rw [hrs, ← flatMap_frame_octets h]
      exact .idle rfl
    obtain ⟨tr, s, _, hx, hpos', -⟩ := hpos.exec hfits
    exact ⟨tr, s, hx, hpos'.wants_pos⟩
  callbacks := by
    intro pieces hpieces hfits
    rw [← flatMap_frame_octets h] at hpieces
    obtain ⟨tr, s, hx, hidle, hout⟩ := framing.exec_all framing_idle_new hpieces hfits
    exact ⟨tr, s, hx, hout.trans (map_frame_callback h), hidle⟩

/-- Packets after which the parser reads the length of one more wrongly are not parsed: the callback
of that one has other octets. -/
theorem Parses.measured_next {good rest p}
    (h : Parses enableRecoveryState (good ++ p :: rest)) (hgood : ∀ p ∈ good, p.Measured) :
    p.Measured := by
  -- the stream starts with the frames of these packets
  have hstream : (good ++ p :: rest).flatMap H4Packet.octets =
      ((good ++ [p]).map H4Packet.frame).flatMap Frame.octets ++
        (p.payload.drop p.parsedLength ++ rest.flatMap H4Packet.octets) := by
    rw [List.flatMap_append, List.flatMap_cons, p.frame_octets, ← flatMap_frame_octets hgood,
      List.map_append, List.flatMap_append]
    simp
  have hrdy : 0 < (H4Parser.new enableRecoveryState).bytesRequested := Nat.one_pos
  obtain ⟨tr₁, s₁, hx₁, -, hout₁⟩ := framing.exec_all framing_idle_new
    (H4Parser.flatten_singles (((good ++ [p]).map H4Packet.frame).flatMap Frame.octets))
    (H4Parser.meets_singles hrdy _)
  obtain ⟨tr, s, hx, hout, -⟩ := h.callbacks _ (H4Parser.flatten_singles _)
    (H4Parser.meets_singles hrdy _)
  rw [hstream, H4Parser.singles, List.map_append, ← H4Parser.singles, Machine.exec_append hx₁] at hx
  obtain ⟨tr₂, -, rfl⟩ := hx
  rw [List.flatMap_append, hout₁, List.map_append, List.map_append, map_frame_callback hgood,
    List.map_append, List.append_assoc, List.append_cancel_left_eq] at hout
  exact H4Packet.measured_of_callback (List.cons.inj hout).1

/-- Every packet that is parsed is one whose length the parser reads. -/
theorem Parses.measured (h : Parses enableRecoveryState packets) : ∀ p ∈ packets, p.Measured := by
  -- the packets are gone through in order: each one comes after packets that are parsed
  have hall : ∀ rest good, packets = good ++ rest → (∀ p ∈ good, p.Measured) →
      ∀ p ∈ packets, p.Measured := by
    intro rest
    induction rest with
    | nil =>
      intro good heq hgood
      rw [heq, List.append_nil]
      exact hgood
    | cons p _ ih =>
      intro good heq hgood
      rw [heq] at h
      have hp := h.measured_next hgood
      refine ih (good ++ [p]) (by rw [heq, List.append_assoc, List.singleton_append]) ?_
      intro p' hp'
      rcases List.mem_append.mp hp' with hmem | hmem
      · exact hgood p' hmem
      · rw [List.mem_singleton.mp hmem]
        exact hp
  exact hall packets [] rfl (List.forall_mem_nil _)

/-- **A stream is parsed into its packets, however it is cut, exactly when the payload of every ISO
packet is shorter than 4096 octets.** -/
theorem parses_iff :
    Parses enableRecoveryState packets ↔ ∀ p ∈ packets, p.type = .iso →
      p.payload.length < 4096 := by
  constructor
  · intro h
    exact h.measured
  · intro h
    exact parses_of_measured h

/-- An ISO packet of 4096 octets, which its 14 bit length allows. -/
def longIso : H4Packet where
  type := .iso
  header := [0x00, 0x20]
  payload := List.replicate 4096 0
  known := by decide
  header_length := rfl
  payload_length := by
    rw [List.length_replicate]
    decide

/-- The parser reads its length as zero, and calls back with the preamble alone. -/
theorem long_iso_truncated : ¬ Parses false [longIso] := by
  intro h
  have hlt := h.measured longIso (List.mem_singleton.mpr rfl) rfl
  rw [show longIso.payload.length = 4096 from List.length_replicate] at hlt
  exact lt_irrefl _ hlt

end RootCanal.H4
