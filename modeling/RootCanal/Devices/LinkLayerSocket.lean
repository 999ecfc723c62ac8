import RootCanal.Lib.Framing
import RootCanal.Lib.Octets

/-!
# The link layer socket device

Link layer packets come over a socket, each after its length in four octets.  `Tick` reads what the
socket has: the length, then in the same call the packet, which it forwards to the phy when it is
whole.

* The octets a read returned are taken by `takeSize` or `takeBody`.  Reads of at most `bytesLeft`
  octets are a `Lib.Framing` of the packets (`framing`).
* `tick` reads the length in steps of up to four octets, whatever part of it is missing.
* **`forwards_iff`: the packets are forwarded as they were sent, however the socket splits the
  stream, exactly when no read of a length returns more than is missing of it.**  Such a read writes
  past the end of the buffer of the length.

Source: `model/devices/link_layer_socket_device.cc`
-/

namespace RootCanal.Devices

open Lib

/-! ## The device -/

/-- The octets of a packet's size. -/
def kSizeBytes : Nat := 4

/-- What the socket answers to the next call of `Recv`. -/
inductive Answer
  /-- As many octets as are there, and at most so many; none if it has nothing available yet. -/
  | upTo (count : Nat)
  /-- The connection is closed, or an error. -/
  | failed
deriving DecidableEq, Repr

/-- The socket: the octets still to be received, and its answers to the next calls. -/
structure Socket where
  incoming : List UInt8
  answers : List Answer
deriving DecidableEq, Repr

/-- Receive at most so many octets; `none` for an error, and no octets when nothing is available. -/
def Socket.recv (socket : Socket) (count : Nat) : Option (List UInt8) × Socket :=
  match socket.answers with
  | [] => (some [], socket)
  | .failed :: answers => (none, { socket with answers := answers })
  | .upTo available :: answers =>
    let taken := min count available
    (some (socket.incoming.take taken), ⟨socket.incoming.drop taken, answers⟩)

theorem Socket.recv_upTo (incoming : List UInt8) (available : Nat) (answers : List Answer)
    (count : Nat) : Socket.recv ⟨incoming, .upTo available :: answers⟩ count =
      (some (incoming.take (min count available)),
        ⟨incoming.drop (min count available), answers⟩) :=
  rfl

/-- A device whose packets come over a socket. -/
structure LinkLayerSocketDevice where
  receivingSize : Bool
  bytesLeft : Nat
  offset : Nat
  sizeBytes : List UInt8
  received : List UInt8
  closed : Bool
deriving DecidableEq, Repr

namespace LinkLayerSocketDevice

/-- Source: `LinkLayerSocketDevice::LinkLayerSocketDevice` -/
def new : LinkLayerSocketDevice where
  receivingSize := true
  bytesLeft := kSizeBytes
  offset := 0
  sizeBytes := List.replicate kSizeBytes 0
  received := []
  closed := false

/-- The device is closed. -/
def close (s : LinkLayerSocketDevice) : LinkLayerSocketDevice := { s with closed := true }

/-- Octets of the length have been received. -/
def takeSize (s : LinkLayerSocketDevice) (octets : List UInt8) :
    Except Panic LinkLayerSocketDevice := do
  let sizeBytes ← writeAt s.sizeBytes s.offset octets
  if octets.length < s.bytesLeft then
    return { s with
      sizeBytes := sizeBytes
      bytesLeft := s.bytesLeft - octets.length
      offset := s.offset + octets.length }
  else
    let size := readLe (sizeBytes.take kSizeBytes)
    return { s with
      sizeBytes := sizeBytes
      bytesLeft := size
      received := List.replicate size 0
      offset := 0
      receivingSize := false }

/-- Octets of the packet have been received; a whole packet is forwarded. -/
def takeBody (s : LinkLayerSocketDevice) (octets : List UInt8) :
    Except Panic (LinkLayerSocketDevice × List (List UInt8)) := do
  let received ← writeAt s.received s.offset octets
  if octets.length < s.bytesLeft then
    return ({ s with
      received := received
      bytesLeft := s.bytesLeft - octets.length
      offset := s.offset + octets.length }, [])
  else
    return ({ s with
      received := received
      bytesLeft := kSizeBytes
      offset := 0
      receivingSize := true }, [received])

/-- The part of `Tick` that receives a packet. -/
def receiveBody (s : LinkLayerSocketDevice) (socket : Socket) :
    Except Panic ((LinkLayerSocketDevice × Socket) × List (List UInt8)) :=
  match socket.recv s.bytesLeft with
  | (none, socket) => .ok ((s.close, socket), [])
  | (some [], socket) => .ok ((s, socket), [])
  | (some (octet :: octets), socket) => do
    let (s, packets) ← s.takeBody (octet :: octets)
    return ((s, socket), packets)

/-- The length is read, then the packet; a whole packet is sent on. -/
def tick (s : LinkLayerSocketDevice) (socket : Socket) :
    Except Panic ((LinkLayerSocketDevice × Socket) × List (List UInt8)) :=
  if s.receivingSize then
    -- all of the length is asked for, not only what is missing
    match socket.recv kSizeBytes with
    | (none, socket) => .ok ((s.close, socket), [])
    | (some [], socket) => .ok ((s, socket), [])
    | (some (octet :: octets), socket) => do
      let s ← s.takeSize (octet :: octets)
      if s.receivingSize then return ((s, socket), [])
      else s.receiveBody socket
  else s.receiveBody socket

end LinkLayerSocketDevice

/-- A call of `Tick`: how many octets are available to its first and to its second `Recv`. -/
structure Tick where
  first : Nat
  second : Nat
deriving DecidableEq, Repr

/-- The tick finds something available. -/
def Tick.available (tick : Tick) : Bool := tick.first ≠ 0

/-- The device with the octets it has still to receive. Its outputs are the packets it forwards to
the phy. -/
def linkLayerSocket : Machine (LinkLayerSocketDevice × List UInt8) Tick (List UInt8) where
  step s tick := do
    let ((device, socket), packets) ← s.1.tick ⟨s.2, [.upTo tick.first, .upTo tick.second]⟩
    return ((device, socket.incoming), packets)

/-- What the device does with the octets of one read. -/
def receiver : Machine LinkLayerSocketDevice (List UInt8) (List UInt8) where
  step s octets :=
    if s.receivingSize then do
      let s ← s.takeSize octets
      return (s, [])
    else s.takeBody octets

/-! ## One read -/

namespace LinkLayerSocketDevice

variable {s : LinkLayerSocketDevice} {octets sizeBytes received : List UInt8}

/-- Part of the length. -/
theorem step_sizePart (hrecv : s.receivingSize = true)
    (hwr : writeAt s.sizeBytes s.offset octets = .ok sizeBytes)
    (hlt : octets.length < s.bytesLeft) :
    receiver.step s octets = .ok ({ s with
      sizeBytes := sizeBytes
      bytesLeft := s.bytesLeft - octets.length
      offset := s.offset + octets.length }, []) := by
  change ite _ _ _ = _
  rw [if_pos hrecv, takeSize, hwr]
  change (ite _ _ _ >>= _) = _
  rw [if_pos hlt]
  rfl

/-- The end of the length. -/
theorem step_sizeEnd {size : Nat} (hrecv : s.receivingSize = true)
    (hwr : writeAt s.sizeBytes s.offset octets = .ok sizeBytes)
    (hle : s.bytesLeft ≤ octets.length) (hsize : readLe (sizeBytes.take kSizeBytes) = size) :
    receiver.step s octets = .ok ({ s with
      sizeBytes := sizeBytes
      bytesLeft := size
      received := List.replicate size 0
      offset := 0
      receivingSize := false }, []) := by
  change ite _ _ _ = _
  rw [if_pos hrecv, takeSize, hwr]
  change (ite _ _ _ >>= _) = _
  rw [if_neg (Nat.not_lt.mpr hle), hsize]
  rfl

/-- Part of the packet. -/
theorem step_bodyPart (hrecv : s.receivingSize = false)
    (hwr : writeAt s.received s.offset octets = .ok received) (hlt : octets.length < s.bytesLeft) :
    receiver.step s octets = .ok ({ s with
      received := received
      bytesLeft := s.bytesLeft - octets.length
      offset := s.offset + octets.length }, []) := by
  change ite _ _ _ = _
  rw [if_neg (Bool.eq_false_iff.mp hrecv), takeBody, hwr]
  change ite _ _ _ = _
  rw [if_pos hlt]
  rfl

/-- The end of the packet. -/
theorem step_bodyEnd (hrecv : s.receivingSize = false)
    (hwr : writeAt s.received s.offset octets = .ok received) (hle : s.bytesLeft ≤ octets.length) :
    receiver.step s octets = .ok ({ s with
      received := received
      bytesLeft := kSizeBytes
      offset := 0
      receivingSize := true }, [received]) := by
  change ite _ _ _ = _
  rw [if_neg (Bool.eq_false_iff.mp hrecv), takeBody, hwr]
  change ite _ _ _ = _
  rw [if_neg (Nat.not_lt.mpr hle)]
  rfl

/-- Nothing of a packet has been received. -/
def Idle (s : LinkLayerSocketDevice) : Prop :=
  s.sizeBytes.length = kSizeBytes ∧ s.receivingSize = true ∧ s.offset = 0 ∧ s.bytesLeft = kSizeBytes

theorem idle_new : new.Idle := ⟨rfl, rfl, rfl, rfl⟩

end LinkLayerSocketDevice

/-! ## Packets on the stream -/

/-- A packet that can be sent over the socket: not empty, and with a length of four octets. -/
structure Frame where
  packet : List UInt8
  ne_nil : packet ≠ []
  fits : packet.length < 256 ^ kSizeBytes

namespace Frame

/-- The octets of the length. -/
def size (f : Frame) : List UInt8 := writeLe kSizeBytes f.packet.length

/-- The octets of a frame. -/
def octets (f : Frame) : List UInt8 := f.size ++ f.packet

theorem size_length (f : Frame) : f.size.length = kSizeBytes := length_writeLe ..

theorem readLe_size (f : Frame) : readLe f.size = f.packet.length := readLe_writeLe f.fits

/-- The state of the device once octets of the frame have been taken: part of the length, or the
length and part of the packet. -/
inductive Taken (f : Frame) : List UInt8 → LinkLayerSocketDevice → Prop
  | size {p : List UInt8} {s : LinkLayerSocketDevice} : s.sizeBytes.length = kSizeBytes →
      s.receivingSize = true → s.offset = p.length → p.length + s.bytesLeft = kSizeBytes →
      0 < s.bytesLeft → s.sizeBytes.take p.length = p → Taken f p s
  | body {q : List UInt8} {s : LinkLayerSocketDevice} : s.sizeBytes.length = kSizeBytes →
      s.receivingSize = false → s.offset = q.length → q.length + s.bytesLeft = f.packet.length →
      s.received.length = f.packet.length → s.received.take q.length = q → Taken f (f.size ++ q) s

variable {f : Frame} {s : LinkLayerSocketDevice} {p c q : List UInt8}

theorem length_of_octets (h : f.octets = p ++ q) :
    p.length + q.length = kSizeBytes + f.packet.length := by
  have hlen := congrArg List.length h
  rw [octets, List.length_append, List.length_append, f.size_length] at hlen
  exact hlen.symm

/-- The device awaits octets of the frame only. -/
theorem Taken.wants (h : f.Taken p s) (hoct : f.octets = p ++ q) (hq : q ≠ []) :
    0 < s.bytesLeft ∧ s.bytesLeft ≤ q.length := by
  have hlen := length_of_octets hoct
  have hpos := List.length_pos_iff.mpr hq
  cases h with
  | size => omega
  | body =>
    rw [List.length_append, f.size_length] at hlen
    omega

/-- Octets that do not end the frame. -/
theorem Taken.more (h : f.Taken p s) (hoct : f.octets = p ++ (c ++ q)) (hq : q ≠ [])
    (hfits : Fits LinkLayerSocketDevice.bytesLeft s c) :
    ∃ s', receiver.step s c = .ok (s', []) ∧ f.Taken (p ++ c) s' := by
  have hle := hfits.2
  have hpos := List.length_pos_iff.mpr hq
  have hlen := length_of_octets hoct
  rw [List.length_append] at hlen
  have happend : (p ++ c).length = p.length + c.length := List.length_append
  cases h with
  | size hsize hrecv hoff _ _ htk =>
    obtain ⟨sizeBytes, hwr, hsize', htk'⟩ := writeAt_extends c htk (by omega)
    rw [← hoff] at hwr
    by_cases hlt : c.length < s.bytesLeft
    · refine ⟨_, LinkLayerSocketDevice.step_sizePart hrecv hwr hlt,
        Taken.size (hsize'.trans hsize) hrecv ?_ ?_ ?_ htk'⟩
      all_goals dsimp only; omega
    · -- the length is complete
      have hwhole : p ++ c = f.size := by
        have hall : (p ++ c) ++ q = f.size ++ f.packet := by
          rw [List.append_assoc]
          exact hoct.symm
        refine (List.append_inj hall ?_).1
        rw [f.size_length]
        omega
      have hread : readLe (sizeBytes.take kSizeBytes) = f.packet.length := by
        rw [hwhole, f.size_length] at htk'
        rw [htk', f.readLe_size]
      rw [hwhole, ← List.append_nil f.size]
      exact ⟨_, LinkLayerSocketDevice.step_sizeEnd hrecv hwr (Nat.not_lt.mp hlt) hread,
        Taken.body (hsize'.trans hsize) rfl rfl (Nat.zero_add _) List.length_replicate rfl⟩
  | body hsize hrecv hoff _ hreceived htk =>
    rw [List.length_append, f.size_length] at hlen
    obtain ⟨received, hwr, hreceived', htk'⟩ := writeAt_extends c htk (by omega)
    rw [← hoff] at hwr
    rw [List.append_assoc]
    refine ⟨_, LinkLayerSocketDevice.step_bodyPart hrecv hwr (by omega),
      Taken.body hsize hrecv ?_ ?_ (hreceived'.trans hreceived) htk'⟩
    all_goals
      rw [List.length_append]
      dsimp only
      omega

/-- The octets that end the frame. -/
theorem Taken.done (h : f.Taken p s) (hoct : f.octets = p ++ c)
    (hfits : Fits LinkLayerSocketDevice.bytesLeft s c) :
    ∃ s', receiver.step s c = .ok (s', [f.packet]) ∧ s'.Idle := by
  have hle := hfits.2
  have hlen := length_of_octets hoct
  have hpkt := List.length_pos_iff.mpr f.ne_nil
  cases h with
  | size => omega
  | @body q _ hsize hrecv hoff _ hreceived htk =>
    rw [List.length_append, f.size_length] at hlen
    have hwhole : q ++ c = f.packet := by
      exact (List.append_cancel_left hoct).symm
    obtain ⟨received, hwr, hreceived', htk'⟩ := writeAt_extends c htk (by omega)
    have hall : received = f.packet := by
      rw [hwhole, ← hreceived, ← hreceived', List.take_length] at htk'
      exact htk'
    rw [← hoff, hall] at hwr
    exact ⟨_, LinkLayerSocketDevice.step_bodyEnd hrecv hwr (by omega), hsize, rfl, rfl, rfl⟩

theorem Taken.start (f : Frame) (h : s.Idle) : f.Taken [] s := by
  obtain ⟨hsize, hrecv, hoff, hleft⟩ := h
  refine Taken.size hsize hrecv hoff ?_ ?_ rfl
  · rw [hleft]
    exact Nat.zero_add _
  · rw [hleft]
    decide

end Frame

/-- The reads that return at most what is missing are a framing of the packets. -/
def framing : Framing receiver LinkLayerSocketDevice.bytesLeft Frame.octets Frame.packet where
  Idle := LinkLayerSocketDevice.Idle
  Taken := Frame.Taken
  octets_ne_nil f h := f.ne_nil (List.append_eq_nil_iff.mp h).2
  idle_wants h := by
    rw [h.2.2.2]
    decide
  start := Frame.Taken.start
  taken_wants := Frame.Taken.wants
  more := Frame.Taken.more
  done := Frame.Taken.done

/-! ## Ticks -/

section ticks

variable {fs : List Frame} {incoming : List UInt8} {s : LinkLayerSocketDevice}

/-- The device has taken octets of the stream: what it forwarded and what is left of the packets are
the packets there were. -/
def Proceeds (fs : List Frame) (incoming : List UInt8)
    (r : (LinkLayerSocketDevice × List UInt8) × List (List UInt8)) : Prop :=
  r.1.2.length ≤ incoming.length ∧
    ∃ fs', framing.Position fs' r.1.2 r.1.1 ∧ r.2 ++ fs'.map Frame.packet = fs.map Frame.packet

/-- A read that takes what is missing of a length or of a packet, or part of it. -/
theorem read_proceeds (h : framing.Position fs incoming s) {count : Nat}
    (hne : incoming.take count ≠ []) (hle : (incoming.take count).length ≤ s.bytesLeft) :
    ∃ s' out, receiver.step s (incoming.take count) = .ok (s', out) ∧
      Proceeds fs incoming ((s', incoming.drop count), out) ∧
      (incoming.drop count).length < incoming.length := by
  rw [← List.take_append_drop count incoming] at h
  obtain ⟨s', out, fs', hstep, hposition, hun⟩ := h.step ⟨hne, hle⟩
  have hpos := List.length_pos_iff.mpr hne
  rw [List.length_take] at hpos
  have hlt : (incoming.drop count).length < incoming.length := by
    rw [List.length_drop]
    omega
  exact ⟨s', out, hstep, ⟨hlt.le, fs', hposition, hun⟩, hlt⟩

/-- A read that finds nothing. -/
theorem nothing_proceeds (h : framing.Position fs incoming s) {count : Nat}
    (htake : incoming.take count = []) : Proceeds fs incoming ((s, incoming.drop count), []) := by
  have hn : incoming.drop count = incoming := by
    have := List.take_append_drop count incoming
    rwa [htake, List.nil_append] at this
  exact ⟨by rw [hn], fs, by rwa [hn], rfl⟩

/-- The second read of a tick, or its only one, is of a packet. -/
theorem receiveBody_proceeds (answers : List Answer) (h : framing.Position fs incoming s)
    (hrecv : s.receivingSize = false) (available : Nat) :
    ∃ s' incoming' out, s.receiveBody ⟨incoming, .upTo available :: answers⟩ =
      .ok ((s', ⟨incoming', answers⟩), out) ∧ Proceeds fs incoming ((s', incoming'), out) ∧
      (available ≠ 0 → incoming ≠ [] → incoming'.length < incoming.length) := by
  unfold LinkLayerSocketDevice.receiveBody
  rw [Socket.recv_upTo]
  cases htake : incoming.take (min s.bytesLeft available) with
  | nil =>
    refine ⟨s, _, [], rfl, nothing_proceeds h htake, ?_⟩
    intro havail hne
    have hpos := h.wants_pos
    have hzero := (List.take_eq_nil_iff.mp htake).resolve_right hne
    omega
  | cons octet octets =>
    have hle : (incoming.take (min s.bytesLeft available)).length ≤ s.bytesLeft := by
      rw [List.length_take]
      omega
    obtain ⟨s', out, hstep, hproceeds, hlt⟩ :=
      read_proceeds h (by rw [htake]; exact List.cons_ne_nil _ _) hle
    have hb : s.takeBody (octet :: octets) = .ok (s', out) := by
      rw [htake] at hstep
      change ite _ _ _ = _ at hstep
      rwa [if_neg (Bool.eq_false_iff.mp hrecv)] at hstep
    exact ⟨s', _, out, bind_eq_ok.mpr ⟨(s', out), hb, rfl⟩, hproceeds, fun _ _ => hlt⟩

/-- No read of a length returns more than is missing of it. -/
def ReadsMissing (s : LinkLayerSocketDevice × List UInt8) (tick : Tick) : Prop :=
  s.1.receivingSize = true → (s.2.take (min kSizeBytes tick.first)).length ≤ s.1.bytesLeft

instance ReadsMissing.decidable (s : LinkLayerSocketDevice × List UInt8) (tick : Tick) :
    Decidable (ReadsMissing s tick) :=
  inferInstanceAs (Decidable (_ → _))

/-- The octets of a length are taken by `takeSize`, which forwards nothing. -/
theorem takeSize_of_step {octets s' out}
    (hrecv : s.receivingSize = true) (h : receiver.step s octets = .ok (s', out)) :
    s.takeSize octets = .ok s' ∧ out = [] := by
  change ite _ _ _ = _ at h
  rw [if_pos hrecv] at h
  obtain ⟨s₁, hsize, h⟩ := bind_eq_ok.mp h
  cases h
  exact ⟨hsize, rfl⟩

/-- **One tick.**  If something is available to it, it takes octets. -/
theorem tick_proceeds (h : framing.Position fs incoming s) {tick}
    (hreads : ReadsMissing (s, incoming) tick) :
    ∃ s' out, linkLayerSocket.step (s, incoming) tick = .ok (s', out) ∧
      Proceeds fs incoming (s', out) ∧
      (tick.available = true → incoming ≠ [] → s'.2.length < incoming.length) := by
  cases hrecv : s.receivingSize with
  | false =>
    obtain ⟨s', incoming', out, hb, hproceeds, hlt⟩ :=
      receiveBody_proceeds [.upTo tick.second] h hrecv tick.first
    refine ⟨(s', incoming'), out, ?_, hproceeds, fun havail => hlt (of_decide_eq_true havail)⟩
    refine bind_eq_ok.mpr ⟨((s', ⟨incoming', [.upTo tick.second]⟩), out), ?_, rfl⟩
    unfold LinkLayerSocketDevice.tick
    rw [if_neg (Bool.eq_false_iff.mp hrecv)]
    exact hb
  | true =>
    change ∃ s' out, (LinkLayerSocketDevice.tick s _ >>= _) = _ ∧ _
    unfold LinkLayerSocketDevice.tick
    rw [if_pos hrecv, Socket.recv_upTo]
    have hle := hreads hrecv
    cases htake : incoming.take (min kSizeBytes tick.first) with
    | nil =>
      refine ⟨(s, _), [], rfl, nothing_proceeds h htake, ?_⟩
      intro havail hne
      have : tick.first ≠ 0 := of_decide_eq_true havail
      have hzero := (List.take_eq_nil_iff.mp htake).resolve_right hne
      rw [kSizeBytes] at hzero
      omega
    | cons =>
      obtain ⟨s₁, out, hstep, ⟨hle₁, fs₁, h₁, hun₁⟩, hlt⟩ := read_proceeds h
        (by rw [htake]; exact List.cons_ne_nil _ _) hle
      rw [htake] at hstep
      obtain ⟨hsize, rfl⟩ := takeSize_of_step hrecv hstep
      cases hrecv₁ : s₁.receivingSize with
      | true =>
        refine ⟨(s₁, _), [], ?_, ⟨hle₁, fs₁, h₁, hun₁⟩, fun _ _ => hlt⟩
        refine bind_eq_ok.mpr ⟨((s₁, ⟨incoming.drop (min kSizeBytes tick.first),
          [.upTo tick.second]⟩), []), bind_eq_ok.mpr ⟨s₁, hsize, ?_⟩, rfl⟩
        rw [if_pos hrecv₁]
        rfl
      | false =>
        -- the packet is read in the same tick
        obtain ⟨s', incoming', out, hb, ⟨hle', fs', h', hun'⟩, -⟩ :=
          receiveBody_proceeds [] h₁ hrecv₁ tick.second
        refine ⟨(s', incoming'), out, ?_, ⟨hle'.trans hle₁, fs', h', hun'.trans hun₁⟩, fun _ _ =>
          hle'.trans_lt hlt⟩
        refine bind_eq_ok.mpr ⟨((s', ⟨incoming', []⟩), out), bind_eq_ok.mpr ⟨s₁, hsize, ?_⟩, rfl⟩
        rw [if_neg (Bool.eq_false_iff.mp hrecv₁)]
        exact hb

/-- **Any number of ticks.** -/
theorem exec_proceeds {ticks} (h : framing.Position fs incoming s)
    (hreads : linkLayerSocket.Meets ReadsMissing (s, incoming) ticks) :
    ∃ tr s', linkLayerSocket.exec (s, incoming) ticks = .ok (tr, s') ∧
      Proceeds fs incoming (s', tr.flatMap Prod.snd) ∧
      (s'.2 = [] ∨ s'.2.length + ticks.countP Tick.available ≤ incoming.length) := by
  induction ticks generalizing s incoming fs with
  | nil => exact ⟨[], (s, incoming), rfl, ⟨le_rfl, fs, h, rfl⟩, .inr le_rfl⟩
  | cons tick _ ih =>
    obtain ⟨hread, hreads⟩ := hreads
    obtain ⟨⟨s₁, incoming₁⟩, out, hstep, ⟨hle₁, fs₁, h₁, hun₁⟩, hlt⟩ := tick_proceeds h hread
    rw [hstep] at hreads
    obtain ⟨tr, s', hx, ⟨hle', fs', h', hun'⟩, hprog⟩ := ih h₁ hreads
    refine ⟨(tick, out) :: tr, s', ?_, ⟨hle'.trans hle₁, fs', h', ?_⟩, ?_⟩
    · exact bind_eq_ok.mpr ⟨((s₁, incoming₁), out), hstep, bind_eq_ok.mpr ⟨(tr, s'), hx, rfl⟩⟩
    · rw [List.flatMap_cons, List.append_assoc, hun', hun₁]
    · rcases hprog with hnil | hprog
      · exact .inl hnil
      · by_cases hne : incoming = []
        · rw [hne, List.length_nil] at hle₁
          exact .inl (List.length_eq_zero_iff.mp (by omega))
        · rw [List.countP_cons]
          dsimp only at hle₁ hlt hprog
          split
          · next havail =>
              have := hlt havail hne
              omega
          · omega

end ticks

/-! ## Writes past the end of the length -/

namespace LinkLayerSocketDevice

variable {s s' : LinkLayerSocketDevice} {octets : List UInt8}

/-- What is awaited is what is missing in the buffer of the length or of the packet. -/
structure Sane (s : LinkLayerSocketDevice) : Prop where
  size : s.sizeBytes.length = kSizeBytes
  length : s.receivingSize = true → s.offset + s.bytesLeft = kSizeBytes
  body : s.receivingSize = false → s.offset + s.bytesLeft = s.received.length

/-- Octets of a length that go past its end. -/
theorem Sane.takeSize_overrun (hs : s.Sane) (hrecv : s.receivingSize = true)
    (hlt : s.bytesLeft < octets.length) : s.takeSize octets = .error .overrun := by
  have hlen := hs.length hrecv
  unfold LinkLayerSocketDevice.takeSize
  rw [writeAt, if_neg (by rw [hs.size]; omega)]
  rfl

end LinkLayerSocketDevice

section ticks

variable {s : LinkLayerSocketDevice × List UInt8} {tick : Tick}

/-- A tick whose read of a length returns more than is missing writes past the end of its buffer. -/
theorem step_overrun (hs : s.1.Sane) (h : ¬ ReadsMissing s tick) :
    linkLayerSocket.step s tick = .error .overrun := by
  obtain ⟨s, incoming⟩ := s
  obtain ⟨hrecv, hlt⟩ := Classical.not_imp.mp h
  rw [Nat.not_le] at hlt
  change (s.tick _ >>= _) = _
  unfold LinkLayerSocketDevice.tick
  rw [if_pos hrecv, Socket.recv_upTo]
  cases htake : incoming.take (min kSizeBytes tick.first) with
  | nil =>
    rw [htake] at hlt
    cases hlt
  | cons =>
    rw [htake] at hlt
    dsimp only
    rw [hs.takeSize_overrun hrecv hlt]
    rfl

/-- The device stands in the stream only where it is sane. -/
theorem sane_of_position {fs incoming s} (h : framing.Position fs incoming s) : s.Sane := by
  cases h with
  | idle hidle =>
    obtain ⟨hsize, hrecv, hoff, hleft⟩ := hidle
    refine ⟨hsize, fun _ => by rw [hoff, hleft, Nat.zero_add], fun hf => ?_⟩
    rw [hrecv] at hf
    cases hf
  | inside htk =>
    cases htk with
    | size hsize hrecv hoff hleft =>
      refine ⟨hsize, fun _ => by rw [hoff, hleft], fun hf => ?_⟩
      rw [hrecv] at hf
      cases hf
    | body hsize hrecv hoff hleft hreceived =>
      refine ⟨hsize, fun htrue => ?_, fun _ => by rw [hoff, hleft, hreceived]⟩
      rw [hrecv] at htrue
      cases htrue

/-- **Ticks write past the end of a buffer exactly when a read of a length returns more than is
missing of it.** -/
theorem exec_ne_overrun_iff {fs ticks} (hs : framing.Position fs s.2 s.1) :
    linkLayerSocket.exec s ticks ≠ .error .overrun ↔
      linkLayerSocket.Meets ReadsMissing s ticks := by
  refine Machine.exec_avoids_iff (P := fun s => ∃ fs, framing.Position fs s.2 s.1)
    (K := fun _ => True) ?_ ?_ ⟨fs, hs⟩ fun _ _ => trivial
  · rintro s tick ⟨fs, hs⟩ _
    constructor
    · intro hne
      by_contra hreads
      exact hne (step_overrun (sane_of_position hs) hreads)
    · intro hreads
      obtain ⟨s', out, hstep, -⟩ := tick_proceeds hs hreads
      rw [hstep]
      nofun
  · rintro s tick s' out ⟨fs, hs⟩ _ hstep
    by_cases hreads : ReadsMissing s tick
    · obtain ⟨s₁, out₁, hstep₁, ⟨-, fs₁, hs₁, -⟩, -⟩ := tick_proceeds hs hreads
      cases hstep.symm.trans hstep₁
      exact ⟨fs₁, hs₁⟩
    · cases hstep.symm.trans (step_overrun (sane_of_position hs) hreads)

end ticks

/-! ## Every packet is forwarded -/

/-- Whatever part of the stream the ticks read, the device forwards the packets in it as they were
sent, in order, and all of them once the stream is read, which as many ticks that find something
available as there are octets do. -/
def Forwards (packets : List Frame) (ticks : List Tick) : Prop :=
  ∃ tr s, linkLayerSocket.exec (.new, packets.flatMap Frame.octets) ticks = .ok (tr, s) ∧
    tr.flatMap Prod.snd <+: packets.map Frame.packet ∧
    (s.2 = [] → tr.flatMap Prod.snd = packets.map Frame.packet) ∧
    ((packets.flatMap Frame.octets).length ≤ ticks.countP Tick.available → s.2 = [])

/-- **The packets are forwarded as they were sent, however the socket splits the stream, exactly
when no read of a length returns more octets than are missing of it.** -/
theorem forwards_iff {packets : List Frame} {ticks : List Tick} : Forwards packets ticks ↔
    linkLayerSocket.Meets ReadsMissing (.new, packets.flatMap Frame.octets) ticks := by
  have hpos : framing.Position packets (packets.flatMap Frame.octets) .new :=
      .idle LinkLayerSocketDevice.idle_new
  constructor
  · rintro ⟨tr, s, hx, -⟩
    rw [← exec_ne_overrun_iff hpos, hx]
    nofun
  · intro hreads
    obtain ⟨tr, s, hx, ⟨-, fs, hpos', hun⟩, hprog⟩ := exec_proceeds hpos hreads
    refine ⟨tr, s, hx, ⟨_, hun⟩, ?_, ?_⟩
    · intro hnil
      rw [hnil] at hpos'
      rw [hpos'.of_nil.1, List.map_nil, List.append_nil] at hun
      exact hun
    · intro hticks
      rcases hprog with hnil | hle
      · exact hnil
      · exact List.length_eq_zero_iff.mp (by omega)

/-- A packet of one octet. -/
def oneOctet : Frame where
  packet := [0x2a]
  ne_nil := List.cons_ne_nil _ _
  fits := by decide

/-- The first read of a length returns one octet of the four, the second the three that are missing
and the packet: the octet of the packet is written past the end of the length. -/
theorem short_size_read_overruns : ¬ Forwards [oneOctet] [⟨1, 0⟩, ⟨4, 0⟩] := by
  rintro ⟨tr, s, hx, -⟩
  have hoverrun : linkLayerSocket.exec (.new, [oneOctet].flatMap Frame.octets) [⟨1, 0⟩, ⟨4, 0⟩] =
      .error .overrun := by
    decide +kernel
  rw [hx] at hoverrun
  cases hoverrun

end RootCanal.Devices
