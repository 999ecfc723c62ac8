import RootCanal.Hci.H4Recovery

/-!
# What the parser makes of any stream

`Parses` is about streams of packets.  Here the octets are arbitrary.  What is handed out is a
packet of the format (`H4Packet`) all the same, unless the length in the preamble of an ISO packet
is 4096 or more (`isPacket_iff`).

* `Sound` is what holds of a parser between two pieces; `Sound.goesOn` says what a piece makes of
  it.
* **`stream_kept`: without recovery, the stream is what was handed out and the octets of the
  unfinished packet**, so that no octet is lost, doubled or moved.
* **`recovers_always`: with recovery the parser never aborts.**

Source: `model/hci/h4_parser.cc` `Consume`, `OnPacketReady`
-/

namespace RootCanal.H4

open Lib

/-! ## What is handed out -/

namespace Callback

/-- The octets that a callback stands for. -/
def octets (c : Callback) : List UInt8 := c.type.toOctet :: c.packet

/-- What the octets of the length say, the low octet first.  For ISO packets the two octets hold 14
bits of length and two reserved bits, which a packet of the format has as zeros. -/
def announced (c : Callback) : Nat :=
  let low := (c.packet.getD c.type.lengthOffset 0).toNat
  if c.type.lengthWidth ≤ 8 then low else low +
    256 * (c.packet.getD (c.type.lengthOffset + 1) 0).toNat

/-- The callback is the one of a packet of the format. -/
def IsPacket (c : Callback) : Prop := ∃ p : H4Packet, p.callback = c

end Callback

/-- A packet announces the length of its payload. -/
theorem H4Packet.announced_callback (p : H4Packet) : p.callback.announced = p.payload.length := by
  have hlow : p.callback.packet.getD p.type.lengthOffset 0 =
      (p.type.lengthOctets p.payload.length).getD 0 0 := by
    rw [← p.getD_preamble 0, Nat.add_zero]
    refine List.getD_append _ _ _ _ ?_
    rw [p.preamble_length]
    have hkn := p.known
    cases htype : p.type with
    | unknown => exact absurd htype hkn
    | command | acl | sco | event | iso => decide
  have hlen := p.payload_length
  unfold Callback.announced
  dsimp only
  rw [show p.callback.type = p.type from rfl, hlow]
  split
  · next hwidth =>
    rw [PacketType.lengthOctets, if_pos hwidth]
    have hlt := lt_of_lt_of_le hlen (Nat.pow_le_pow_right (by decide) hwidth)
    exact (H4Packet.toNat_ofNat _).trans (Nat.mod_eq_of_lt hlt)
  · next hwidth =>
    have hhigh : p.callback.packet.getD (p.type.lengthOffset + 1) 0 =
        (p.type.lengthOctets p.payload.length).getD 1 0 := by
      rw [← p.getD_preamble 1]
      refine List.getD_append _ _ _ _ ?_
      rw [p.preamble_length]
      cases htype : p.type with
      | acl | iso => decide
      | unknown | command | sco | event => exact absurd (by rw [htype]; decide) hwidth
    have hlt : p.payload.length < 2 ^ 16 := lt_of_lt_of_le hlen
        (Nat.pow_le_pow_right (by decide) (by cases p.type <;> decide))
    rw [hhigh, PacketType.lengthOctets, if_neg hwidth]
    change (UInt8.ofNat _).toNat + 256 * (UInt8.ofNat _).toNat = _
    rw [H4Packet.toNat_ofNat, H4Packet.toNat_ofNat]
    omega

/-- The last octets of a list. -/
theorem drop_eq_two {l : List UInt8} {n : Nat} (h : l.length = n + 2) :
    l.drop n = [l.getD n 0, l.getD (n + 1) 0] := by
  rw [List.drop_eq_getElem_cons (by omega), List.drop_eq_getElem_cons (by omega),
    List.drop_of_length_le (by omega)]
  simp [List.getD_eq_getElem?_getD, List.getElem?_eq_getElem (show n < l.length by omega),
    List.getElem?_eq_getElem (show n + 1 < l.length by omega)]

theorem drop_eq_one {l : List UInt8} {n : Nat} (h : l.length = n + 1) :
    l.drop n = [l.getD n 0] := by
  rw [List.drop_eq_getElem_cons (by omega), List.drop_of_length_le (by omega)]
  simp [List.getD_eq_getElem?_getD, List.getElem?_eq_getElem (show n < l.length by omega)]

/-- The preamble ends in the octets of the length. -/
theorem PacketType.preambleSize_eq {type : PacketType} (h : type ≠ .unknown) :
    type.preambleSize = type.lengthOffset + if type.lengthWidth ≤ 8 then 1 else 2 := by
  cases type with
  | unknown => exact absurd rfl h
  | command | acl | sco | event | iso => rfl

namespace Frame

variable (f : Frame)

theorem getD_packet {i : Nat} (hi : i < f.type.preambleSize) :
    f.callback.packet.getD i 0 = f.preamble.getD i 0 :=
  List.getD_append _ _ _ _ (f.preamble_length ▸ hi)

/-- A length of one octet. -/
theorem announced_short (hwidth : f.type.lengthWidth ≤ 8) :
    f.callback.announced = (f.preamble.getD f.type.lengthOffset 0).toNat := by
  have hsize := PacketType.preambleSize_eq f.known
  rw [if_pos hwidth] at hsize
  rw [Callback.announced, ← f.getD_packet (by omega)]
  exact if_pos hwidth

/-- A length of two octets. -/
theorem announced_long (hwidth : ¬ f.type.lengthWidth ≤ 8) :
    f.callback.announced = (f.preamble.getD f.type.lengthOffset 0).toNat +
      256 * (f.preamble.getD (f.type.lengthOffset + 1) 0).toNat := by
  have hsize := PacketType.preambleSize_eq f.known
  rw [if_neg hwidth] at hsize
  rw [Callback.announced, ← f.getD_packet (by omega), ← f.getD_packet (by omega)]
  exact if_neg hwidth

/-- The parser reads the length, but only twelve bits of it for ISO packets. -/
theorem payload_length_eq : f.payload.length =
    if f.type = .iso then f.callback.announced % 4096 else f.callback.announced := by
  have hkn := f.known
  have hshort := f.announced_short
  have hlong := f.announced_long
  have hlow := (f.preamble.getD f.type.lengthOffset 0).toNat_lt
  have hhigh := (f.preamble.getD (f.type.lengthOffset + 1) 0).toNat_lt
  rw [f.payload_length]
  unfold hciGetPacketLengthForType
  dsimp only
  cases htype : f.type with
  | unknown => exact absurd htype hkn
  | command | sco | event =>
    rw [htype] at hshort
    rw [if_neg (by decide), hshort (by decide)]
  | acl =>
    rw [htype] at hlong hlow
    rw [if_neg (by decide), hlong (by decide), H4Packet.or_shiftLeft_eight hlow]
  | iso =>
    rw [htype] at hlong hlow hhigh
    rw [if_pos rfl, hlong (by decide)]
    dsimp only
    rw [show 0x0f = 2 ^ 4 - 1 from rfl, Nat.and_two_pow_sub_one_eq_mod,
      H4Packet.or_shiftLeft_eight hlow]
    omega

theorem lengthOctets_announced :
    f.type.lengthOctets f.callback.announced = f.preamble.drop f.type.lengthOffset := by
  have hsize := f.preamble_length
  rw [PacketType.preambleSize_eq f.known] at hsize
  unfold PacketType.lengthOctets
  split at hsize
  · next hwidth =>
    rw [if_pos hwidth, drop_eq_one hsize, f.announced_short hwidth, UInt8.ofNat_toNat]
  · next hwidth =>
    have hlow := (f.preamble.getD f.type.lengthOffset 0).toNat_lt
    have hhigh := (f.preamble.getD (f.type.lengthOffset + 1) 0).toNat_lt
    rw [if_neg hwidth, drop_eq_two hsize, f.announced_long hwidth]
    congr 2 <;> rw [← UInt8.toNat_inj, H4Packet.toNat_ofNat]
    · omega
    · omega

theorem announced_lt (hiso : f.type = .iso → f.callback.announced < 4096) :
    f.callback.announced < 2 ^ f.type.lengthWidth := by
  have hkn := f.known
  have hshort := f.announced_short
  have hlong := f.announced_long
  have hlow := (f.preamble.getD f.type.lengthOffset 0).toNat_lt
  have hhigh := (f.preamble.getD (f.type.lengthOffset + 1) 0).toNat_lt
  cases htype : f.type with
  | unknown => exact absurd htype hkn
  | command | sco | event =>
    rw [htype] at hshort hlow
    rw [hshort (by decide)]
    exact hlow
  | acl =>
    rw [htype] at hlong hlow hhigh
    rw [hlong (by decide)]
    change _ < 65536
    omega
  | iso =>
    exact lt_trans (hiso htype) (by decide)

/-- **What the parser hands out is a packet of the format**, unless it is ISO data whose length is
4096 or more. -/
theorem isPacket_iff : f.callback.IsPacket ↔ (f.type = .iso → f.callback.announced < 4096) := by
  constructor
  · rintro ⟨p, hp⟩ hiso
    have htype : p.type = f.type := congrArg Callback.type hp
    have hpacket : p.preamble ++ p.payload = f.preamble ++ f.payload := congrArg Callback.packet hp
    have hlength := congrArg List.length hpacket
    rw [List.length_append, List.length_append, p.preamble_length, f.preamble_length, htype,
      f.payload_length_eq, if_pos hiso, ← p.announced_callback, hp] at hlength
    omega
  · intro hiso
    have hlength : f.payload.length = f.callback.announced := by
      have hmod := f.payload_length_eq
      split at hmod
      · next htype => rw [hmod, Nat.mod_eq_of_lt (hiso htype)]
      · exact hmod
    have hsize : f.type.lengthOffset ≤ f.preamble.length := by
      rw [f.preamble_length, PacketType.preambleSize_eq f.known]
      exact Nat.le_add_right ..
    refine ⟨⟨f.type, f.preamble.take f.type.lengthOffset, f.payload, f.known,
      List.length_take_of_le hsize, hlength ▸ f.announced_lt hiso⟩, ?_⟩
    rw [H4Packet.callback, H4Packet.preamble]
    dsimp only
    rw [hlength, f.lengthOctets_announced, List.take_append_drop]
    rfl

end Frame

namespace H4Parser

variable {s s' : H4Parser} {buffer : List UInt8} {out : List Callback}

/-- What holds of a parser, in each of its states. -/
def Sound (s : H4Parser) : Prop :=
  match s.state with
  | .hciType => True
  | .hciPreamble =>
    s.hciPacketType ≠ .unknown ∧ s.packet.length + s.bytesWanted = s.hciPacketType.preambleSize
  | .hciPayload => s.hciPacketType ≠ .unknown ∧ ∃ preamble payload, s.packet = preamble ++ payload ∧
      preamble.length = s.hciPacketType.preambleSize ∧
      payload.length + s.bytesWanted = hciGetPacketLengthForType s.hciPacketType preamble
  | .hciRecovery => s.enableRecoveryState = true ∧ ∃ w, Searching w s

/-- The octets of the packet that is not finished. -/
def unfinished (s : H4Parser) : List UInt8 :=
  if s.state = .hciType then [] else s.hciPacketType.toOctet :: s.packet

/-- The parser hands out frames.  Unless it recovers, these and what is unfinished are the octets it
has taken. -/
def GoesOn (s : H4Parser) (buffer : List UInt8) : Prop :=
  ∃ s', ∃ fs : List Frame, h4Parser.step s buffer = .ok (s', fs.map Frame.callback) ∧ s'.Sound ∧
    (s.state ≠ .hciRecovery → s'.state ≠ .hciRecovery →
      s.unfinished ++ buffer = fs.flatMap Frame.octets ++ s'.unfinished)

theorem finish_enable (h : s.finish = .ok (s', out)) :
    s'.enableRecoveryState = s.enableRecoveryState := by
  unfold finish onPacketReady at h
  split at h <;> cases h
  rfl

theorem advance_enable (h : s.advance = .ok (s', out)) :
    s'.enableRecoveryState = s.enableRecoveryState := by
  unfold advance at h
  dsimp only at h
  split at h <;> split at h <;> (try split at h) <;> first | exact finish_enable h | cases h <;> rfl

/-- Whether the parser may recover does not change. -/
theorem enable_of_step (hfits : Fits bytesRequested s buffer)
    (h : h4Parser.step s buffer = .ok (s', out)) :
    s'.enableRecoveryState = s.enableRecoveryState := by
  obtain ⟨_, hstep, -⟩ := step_eq hfits
  rw [hstep] at h
  rw [advance_enable h, store]
  split
  · rfl
  · unfold recover
    extract_lets packet
    split <;> rfl
  all_goals rfl

theorem Searching.sound {w} (h : Searching w s) (henable : s.enableRecoveryState = true) :
    s.Sound := by
  rw [Sound, h.state]
  exact ⟨henable, w, h⟩

theorem toOctet_of_ofOctet {octet : UInt8} {type : PacketType}
    (h : PacketType.ofOctet octet = some type) : type.toOctet = octet := by
  simpa using List.find?_some h

/-- A type octet. -/
theorem goesOn_type {octet : UInt8} (hst : s.state = .hciType)
    (hfits : Fits bytesRequested s [octet]) :
    GoesOn s [octet] ∨ s.enableRecoveryState = false ∧
      h4Parser.step s [octet] = .error .assertion := by
  cases htype : PacketType.ofOctet octet with
  | none =>
    cases hen : s.enableRecoveryState with
    | true =>
      obtain ⟨s', hstep, hs'⟩ := searching_nil octet hst hen htype
      refine .inl ⟨s', [], hstep, hs'.sound ?_, fun _ hne => absurd hs'.state hne⟩
      rw [enable_of_step hfits hstep, hen]
    | false =>
      refine .inr ⟨rfl, ?_⟩
      rw [step_octet (.inl hst), store, hst, advance]
      simp [htype, hen]
  | some type =>
    refine .inl ⟨_, [], step_type hst htype, ⟨PacketType.ofOctet_ne_unknown htype, Nat.zero_add _⟩,
      fun _ _ => ?_⟩
    simp [unfinished, hst, toOctet_of_ofOctet htype]

/-- A packet ends, and is a frame. -/
theorem goesOn_end (f : Frame) (hst : s.state = .hciPayload ∨ s.state = .hciPreamble ∧
      hciGetPacketLengthForType s.hciPacketType (s.packet ++ buffer) = 0) (hne : buffer ≠ [])
    (hlen : buffer.length = s.bytesWanted) (htype : f.type = s.hciPacketType)
    (hpkt : f.preamble ++ f.payload = s.packet ++ buffer) : GoesOn s buffer := by
  obtain ⟨s', hstep, hs'⟩ := step_end hst hne hlen (htype ▸ f.known)
  have hbegun : s.state ≠ .hciType := by
    rcases hst with hst | ⟨hst, -⟩ <;> rw [hst] <;> decide
  refine ⟨s', [f], ?_, by simp [Sound, hs'], fun _ _ => ?_⟩
  · rw [hstep]
    simp [Frame.callback, htype, hpkt]
  · simp [unfinished, hs', hbegun, Frame.octets, htype, hpkt]

/-- **What a piece makes of a sound parser**: it aborts at a type octet of no packet type, or it
goes on. -/
theorem Sound.goesOn (h : s.Sound) (hfits : Fits bytesRequested s buffer) :
    GoesOn s buffer ∨ s.enableRecoveryState = false ∧
      h4Parser.step s buffer = .error .assertion := by
  obtain ⟨hne, hlen⟩ := id hfits
  -- a piece of one octet
  have hone : s.bytesRequested = 1 → ∃ octet, buffer = [octet] := by
    intro hreq
    have hpos := List.length_pos_iff.mpr hne
    exact List.length_eq_one_iff.mp (by omega)
  unfold Sound at h
  unfold bytesRequested at hlen hone
  cases hst : s.state with
  | hciType =>
    obtain ⟨octet, rfl⟩ := hone (by rw [hst])
    exact goesOn_type hst hfits
  | hciRecovery =>
    obtain ⟨octet, rfl⟩ := hone (by rw [hst])
    rw [hst] at h
    obtain ⟨hen, w, hw⟩ := h
    rcases hw.step octet with ⟨-, s', hstep, hs'⟩ | ⟨-, s', hstep, hs'⟩
    · refine .inl
        ⟨s', [⟨.command, resetCommand.tail, [], by decide, by decide, by decide⟩], hstep, ?_,
        fun h => absurd hst h⟩
      simp [Sound, hs']
    · exact .inl ⟨s', [], hstep, hs'.sound ((enable_of_step hfits hstep).trans hen), fun h =>
        absurd hst h⟩
  | hciPreamble =>
    rw [hst] at h
    simp only [hst] at hlen
    obtain ⟨hkn, hsize⟩ := h
    rcases hlen.lt_or_eq with hlt | heq
    · refine .inl ⟨_, [], step_part (.inl hst) hne hlt, ?_, fun _ _ => by simp [unfinished, hst]⟩
      simp only [Sound, hst, List.length_append]
      exact ⟨hkn, by omega⟩
    · have hpre : (s.packet ++ buffer).length = s.hciPacketType.preambleSize := by
        rw [List.length_append, heq, hsize]
      by_cases hzero : hciGetPacketLengthForType s.hciPacketType (s.packet ++ buffer) = 0
      · exact .inl
          (goesOn_end ⟨_, _, [], hkn, hpre, hzero.symm⟩ (.inr ⟨hst, hzero⟩) hne heq rfl
          (List.append_nil _))
      · refine .inl ⟨_, [], step_preamble hst hne heq rfl hzero, ⟨hkn, _, [], ?_, hpre, ?_⟩,
          fun _ _ => by simp [unfinished, hst]⟩
        · exact (List.append_nil _).symm
        · exact Nat.zero_add _
  | hciPayload =>
    rw [hst] at h
    simp only [hst] at hlen
    obtain ⟨hkn, preamble, payload, hpkt, hpre, hsize⟩ := h
    have hpay : (payload ++ buffer).length = payload.length + buffer.length := List.length_append
    rcases hlen.lt_or_eq with hlt | heq
    · refine .inl ⟨_, [], step_part (.inr hst) hne hlt, ?_, fun _ _ => by simp [unfinished, hst]⟩
      simp only [Sound, hst]
      refine ⟨hkn, preamble, payload ++ buffer, ?_, hpre, by omega⟩
      rw [hpkt, List.append_assoc]
    · refine .inl
        (goesOn_end ⟨_, _, payload ++ buffer, hkn, hpre, by omega⟩ (.inl hst) hne heq rfl ?_)
      rw [hpkt, List.append_assoc]

/-- What was handed out are frames. -/
def HandsOut (fs : List Frame) (tr : List (List UInt8 × List Callback)) : Prop :=
  tr.flatMap Prod.snd = fs.map Frame.callback

theorem HandsOut.isPacket_iff {fs tr} (h : HandsOut fs tr) :
    ∀ c ∈ tr.flatMap Prod.snd, c.IsPacket ↔ (c.type = .iso → c.announced < 4096) := by
  rw [h]
  intro c hc
  obtain ⟨f, -, rfl⟩ := List.mem_map.mp hc
  exact f.isPacket_iff

theorem HandsOut.octets {fs tr} (h : HandsOut fs tr) :
    (tr.flatMap Prod.snd).flatMap Callback.octets = fs.flatMap Frame.octets := by
  rw [h, List.flatMap_map]
  rfl

/-- **Without recovery the stream is kept**: it is what was handed out and what is unfinished, and
what was handed out are packets of the format, but for ISO data with a length of 4096 or more. -/
theorem stream_kept {tr} (h : h4Parser.Run (Fits bytesRequested) (new false) tr s) :
    (tr.map Prod.fst).flatten = (tr.flatMap Prod.snd).flatMap Callback.octets ++ s.unfinished ∧
    ∀ c ∈ tr.flatMap Prod.snd, c.IsPacket ↔ (c.type = .iso → c.announced < 4096) := by
  -- a sound parser that may not recover does not
  have hnot : ∀ {s : H4Parser}, s.Sound → s.enableRecoveryState = false →
      s.state ≠ .hciRecovery := by
    intro s hs hen hst
    rw [Sound, hst, hen] at hs
    cases hs.1
  have hkeeps : ∃ fs, HandsOut fs tr ∧
      (tr.map Prod.fst).flatten = fs.flatMap Frame.octets ++ s.unfinished := by
    refine (h.invariant_trace (fun tr s => (s.Sound ∧ s.enableRecoveryState = false) ∧
      ∃ fs, HandsOut fs tr ∧ (tr.map Prod.fst).flatten = fs.flatMap Frame.octets ++ s.unfinished) ?_
        ?_).2
    · exact ⟨⟨trivial, rfl⟩, [], rfl, rfl⟩
    · rintro tr s piece s' out ⟨⟨hs, hen⟩, fs, hout, hin⟩ hfits hstep
      rcases hs.goesOn hfits with ⟨s₁, fs', hgoes, hs', hkept⟩ | ⟨-, habort⟩
      · cases hstep.symm.trans hgoes
        have hen' := (enable_of_step hfits hstep).trans hen
        refine ⟨⟨hs', hen'⟩, fs ++ fs', by simpa [HandsOut] using hout, ?_⟩
        simp [hin, hkept (hnot hs hen) (hnot hs' hen')]
      · cases hstep.symm.trans habort
  obtain ⟨fs, hout, hin⟩ := hkeeps
  exact ⟨by rw [hin, hout.octets], hout.isPacket_iff⟩

theorem stream_kept_event : ∃ tr s, h4Parser.Run (Fits bytesRequested) (new false) tr s ∧
    (tr.flatMap Prod.snd = [⟨.event, [0x0e, 0x00]⟩] ∧ s.unfinished = [0x01, 0x03]) ∧
    ∀ c ∈ tr.flatMap Prod.snd, c.IsPacket ↔ (c.type = .iso → c.announced < 4096) :=
  h4Parser.run_and (singles [0x04, 0x0e, 0x00, 0x01, 0x03])
    (meets_singles (by decide) _) (by decide) fun _ _ hrun _ => (stream_kept hrun).2

/-- By induction on the pieces. -/
theorem Sound.exec {pieces} (h : s.Sound) (hen : s.enableRecoveryState = true)
    (hmeets : h4Parser.Meets (Fits bytesRequested) s pieces) :
    ∃ tr s', h4Parser.exec s pieces = .ok (tr, s') ∧ ∃ fs, HandsOut fs tr := by
  induction pieces generalizing s with
  | nil => exact ⟨[], s, rfl, [], rfl⟩
  | cons piece _ ih =>
    obtain ⟨hfits, hmeets⟩ := hmeets
    rcases h.goesOn hfits with ⟨s₁, fs, hstep, hs₁, -⟩ | ⟨hno, -⟩
    · rw [hstep] at hmeets
      obtain ⟨tr, s', hx, fs', hout⟩ := ih hs₁ ((enable_of_step hfits hstep).trans hen) hmeets
      exact ⟨_, s', Machine.exec_cons hstep hx, fs ++ fs', by simpa [HandsOut] using hout⟩
    · cases hen.symm.trans hno

/-- **With recovery the parser never aborts**, whatever the pieces, and what it hands out are
packets of the format, but for ISO data with a length of 4096 or more. -/
theorem recovers_always {pieces} (h : h4Parser.Meets (Fits bytesRequested) (new true) pieces) :
    ∃ tr s, h4Parser.exec (new true) pieces = .ok (tr, s) ∧
      ∀ c ∈ tr.flatMap Prod.snd, c.IsPacket ↔ (c.type = .iso → c.announced < 4096) := by
  obtain ⟨tr, s, hx, fs, hout⟩ := Sound.exec (s := new true) trivial rfl h
  exact ⟨tr, s, hx, hout.isPacket_iff⟩

theorem recovers_always_noise : ∃ tr s,
    h4Parser.exec (new true) (singles [0xff, 0x04, 0x01, 0x03, 0x0c, 0x00]) = .ok (tr, s) ∧
      ∀ c ∈ tr.flatMap Prod.snd, c.IsPacket ↔ (c.type = .iso → c.announced < 4096) :=
  recovers_always (meets_singles (by decide) _)

/-- The preamble of an ISO packet of 4096 octets is handed out alone. -/
example :
    (h4Parser.exec (new true) (singles [0x05, 0x00, 0x20, 0x00, 0x10])).map (·.1.flatMap Prod.snd) =
    .ok [⟨.iso, [0x00, 0x20, 0x00, 0x10]⟩] := by decide

end H4Parser

end RootCanal.H4
