import RootCanal.BrEdr.ScoTeardown

/-!
# Both ends of a synchronous connection

The acceptor derives the link from what the initiator and its own host ask
(`ScoConnection::NegotiateLinkParameters`), and sends it to the initiator, which stores it as it is.
The link is derived from the parameters of the initiator: what the acceptor calls its transmit
packet length is the length of the packets the initiator transmits.  So both ends have the same
lengths for the same direction names, where the packets that one transmits are those the other
receives.

`establish` is the exchange: the request of the initiator, its arrival, the answer of the host of
the acceptor, and the arrival of the answer.  **`ends_agree`: the ends always agree on the air mode,
the kind, the interval and the retransmission window; they agree on the lengths when the initiator
asks for the same lengths both ways (`Symmetric`).**  A different bandwidth each way is enough for
them to differ (`asymmetric_lengths_differ`).

Source: `sco_connection.cc` `ScoConnectionParameters::GetLinkParameters`,
`ScoConnection::NegotiateLinkParameters`; `bredr_controller.cc` `AcceptSynchronousConnection`,
`IncomingScoConnectionResponse`
-/

namespace RootCanal.BrEdr

open Lib RootCanal.Hci SynchronousPacketTypeBits

/-! ## The lengths of a link -/

/-- The length of the packets that carry a bandwidth, with one packet in each interval.
Source: `GetLinkParameters` -/
def packetLength (bandwidth : UInt32) (interval : Nat) : UInt16 :=
  UInt16.ofNat ((bandwidth.toNat * interval + 1600 - 1) / 1600)

namespace ScoConnectionParameters

/-- The packets have the same length each way, whatever the interval: the link is not extended, or
its bandwidths do not differ by enough. -/
def Symmetric (p : ScoConnectionParameters) : Prop :=
  p.isExtended = false ∨ ∀ interval ≤ 254,
    packetLength p.transmitBandwidth interval = packetLength p.receiveBandwidth interval

/-- The same bandwidth both ways asks for the same packets both ways. -/
theorem symmetric_of_bandwidth {p : ScoConnectionParameters}
    (h : p.transmitBandwidth = p.receiveBandwidth) : p.Symmetric :=
  .inr fun _ _ => by rw [h]

/-- The lengths of a link are those of the bandwidths in some interval. -/
def Fills (p : ScoConnectionParameters) (link : ScoLinkParameters) : Prop :=
  ∃ interval ≤ 254, link.txPacketLength = packetLength p.transmitBandwidth interval ∧
    link.rxPacketLength = packetLength p.receiveBandwidth interval

variable {p : ScoConnectionParameters} {link : ScoLinkParameters}

/-- A choice that is tried keeps to the lengths of the bandwidths. -/
theorem tryPackets_fills {best : Choice} (h : ∀ l ∈ best.parameters, p.Fills l) (tx rx : Packet) :
    ∀ l ∈ (p.tryPackets best tx rx).parameters, p.Fills l := by
  unfold tryPackets
  extract_lets txMaxInterval rxMaxInterval shorter interval retransmissionWindow window
  split_ifs
  · exact h
  · exact h
  · intro l hl
    cases hl
    exact ⟨_, Nat.min_le_right .., rfl, rfl⟩
  · exact h

/-- A fold keeps what each of its steps keeps. -/
theorem foldl_fills {f : Choice → Packet → Choice}
    (hf : ∀ best, (∀ l ∈ best.parameters, p.Fills l) → ∀ x,
      ∀ l ∈ (f best x).parameters, p.Fills l) (packets : List Packet) {best : Choice}
    (h : ∀ l ∈ best.parameters, p.Fills l) :
    ∀ l ∈ (packets.foldl f best).parameters, p.Fills l := by
  induction packets generalizing best with
  | nil => exact h
  | cons x _ ih => exact ih (hf best h x)

/-- A SCO link has packets of one length. -/
theorem scoLinkParameters_lengths (h : p.scoLinkParameters = some link) :
    link.txPacketLength = link.rxPacketLength := by
  unfold scoLinkParameters at h
  split_ifs at h <;> cases h <;> rfl

/-- The link is one of the extended ones, or has one length. -/
theorem getLinkParameters_lengths (h : p.getLinkParameters = some link) :
    link.txPacketLength = link.rxPacketLength ∨
      acceptedPackets p.packetType ≠ [] ∧ p.Fills link := by
  unfold getLinkParameters at h
  split at h
  · cases h
  · rcases Option.or_eq_some_iff.mp h with hbest | ⟨-, hsco⟩
    · refine .inr ⟨?_, ?_⟩
      · intro hnil
        rw [hnil] at hbest
        cases hbest
      · have hn : ∀ l ∈ (⟨1, 1, none⟩ : Choice).parameters, p.Fills l := nofun
        refine foldl_fills (fun best hb tx => ?_) _ hn link hbest
        exact foldl_fills (fun best hb rx => tryPackets_fills hb tx rx) _ hb
    · exact .inl (scoLinkParameters_lengths hsco)

/-! ## The negotiation -/

/-- The packet types that both ends accept, if the one that asks accepts no extended packet. -/
theorem negotiated_bits {own peer : UInt16} (h : (own ^^^ 0x3c0) &&& ~~~0x7 = 0) :
    ((peer &&& own &&& 0x3f) ||| ((peer ||| own) &&& 0x3c0)) &&& 0x3f8 = 0x3c0 := by
  have hbits := congrArg UInt16.toBitVec h
  apply UInt16.toBitVec_inj.mp
  ext i hi
  have hbit := congrArg (BitVec.getLsbD · i) hbits
  simp at hbit ⊢
  interval_cases i <;> simp_all

/-- A packet type with HV packets only accepts no eSCO packet. -/
theorem acceptedPackets_of_bits {packetType : UInt16} (h : packetType &&& 0x3f8 = 0x3c0) :
    acceptedPackets packetType = [] := by
  have hmask : ∀ mask, 0x3f8 &&& mask = mask → packetType &&& mask = 0x3c0 &&& mask := by
    intro mask hm
    rw [← hm, ← UInt16.and_assoc, h, hm]
  unfold acceptedPackets
  rw [hmask ev3Allowed (by decide), hmask ev4Allowed (by decide), hmask ev5Allowed (by decide),
    hmask no2Ev3Allowed (by decide), hmask no3Ev3Allowed (by decide),
    hmask no2Ev5Allowed (by decide), hmask no3Ev5Allowed (by decide)]
  decide

end ScoConnectionParameters

namespace ScoConnection

open ScoConnectionParameters

variable {c : ScoConnection} {peer negotiated : ScoConnectionParameters} {link : ScoLinkParameters}

/-- The bandwidths are those of the end that asks. -/
theorem negotiatedParameters_ok (h : c.negotiatedParameters peer = some negotiated) :
    negotiated.transmitBandwidth = c.parameters.transmitBandwidth ∧
      negotiated.receiveBandwidth = c.parameters.receiveBandwidth ∧
      negotiated.packetType = (peer.packetType &&& c.parameters.packetType &&& 0x3f) |||
        ((peer.packetType ||| c.parameters.packetType) &&& 0x3c0) := by
  unfold negotiatedParameters at h
  extract_lets own packetType maxLatency effort at h
  split_ifs at h
  obtain ⟨e, -, rfl⟩ := Option.map_eq_some_iff.mp h
  exact ⟨rfl, rfl, rfl⟩

/-- A link has the same length each way if what is asked for is symmetric. -/
theorem negotiate_lengths (hsym : c.parameters.Symmetric)
    (h : c.negotiateLinkParameters peer = some link) :
    link.txPacketLength = link.rxPacketLength := by
  obtain ⟨negotiated, hnegotiated, hlk⟩ := Option.bind_eq_some_iff.mp h
  obtain ⟨htx, hrx, htype⟩ := negotiatedParameters_ok hnegotiated
  rcases getLinkParameters_lengths hlk with hsame | ⟨hacc, interval, hle, hl, hl'⟩
  · exact hsame
  · rcases hsym with hsco | hsame
    · refine absurd (acceptedPackets_of_bits ?_) hacc
      rw [htype]
      exact negotiated_bits (not_not.mp (of_decide_eq_false hsco))
    · rw [hl, hl', htx, hrx]
      exact hsame interval hle

end ScoConnection

/-! ## The exchange -/

/-- What the command asks of a synchronous connection.
Source: `AddScoConnection`,
`SetupSynchronousConnection` -/
def Command.asked? : Command → Option ScoConnectionParameters
  | .addScoConnection _ packetType => some (BrEdrController.addScoParameters packetType)
  | .setupSynchronousConnection _ parameters _ => some parameters
  | _ => none

/-- The command accepts a synchronous connection with the peer.
Source: `AcceptConnectionRequest`,
`AcceptSynchronousConnection` -/
def Command.accepts (peer : Address) : Command → Bool
  | .acceptConnectionRequest bdAddr _ | .acceptSynchronousConnection bdAddr _ => bdAddr = peer
  | _ => false

namespace BrEdrController

/-- The packets that are scheduled between two states. -/
def sentSince (s s' : BrEdrController) : List Packet := packetsOf (s'.tasks.drop s.tasks.length)

/-- Some packets arrive. -/
def receives (s : BrEdrController) (env : Env) (packets : List Packet) :
    Except Panic BrEdrController := do
  let r ← machine.exec s (packets.map fun packet => ⟨env, .packet packet⟩)
  .ok r.2

/-- The host of `a` asks, the request arrives at `b`, the host of `b` answers, and the answer
arrives at `a`. -/
def establish (a b : BrEdrController) (ask answer : Command) (env : Fin 4 → Env) :
    Except Panic (BrEdrController × BrEdrController) := do
  let asking ← machine.step a ⟨env 0, .command ask⟩
  let asked ← b.receives (env 1) (sentSince a asking.1)
  let answering ← machine.step asked ⟨env 2, .command answer⟩
  let answered ← asking.1.receives (env 3) (sentSince asked answering.1)
  .ok (answered, answering.1)

variable {s s' : BrEdrController} {env : Env} {peer : Address} {out : List Output}

/-- What was sent is what was scheduled. -/
theorem sentSince_eq (ts : List Task) (h : s'.tasks = s.tasks ++ ts) :
    sentSince s s' = packetsOf ts := by
  unfold sentSince
  rw [h, List.drop_left]

/-- Receiving nothing. -/
theorem receives_nil (h : s.receives env [] = .ok s') : s' = s := by
  obtain ⟨r, hr, h⟩ := bind_eq_ok.mp h
  cases hr
  cases h
  rfl

/-- Receiving one packet. -/
theorem receives_singleton {packet : Packet} (h : s.receives env [packet] = .ok s') :
    ∃ out, machine.step s ⟨env, .packet packet⟩ = .ok (s', out) := by
  obtain ⟨⟨tr, s''⟩, hr, h⟩ := bind_eq_ok.mp h
  obtain ⟨⟨s₁, out₁⟩, hstep, hr⟩ := bind_eq_ok.mp hr
  cases hr
  cases h
  exact ⟨out₁, hstep⟩

/-- Events are no packets. -/
theorem packetsOf_eventTasks {code : EventCode} {event : Event} :
    packetsOf (s.eventTasks code event) = [] := by
  unfold eventTasks
  split <;> rfl

/-- The synchronous connections with the peer that are opened have the link. -/
def OpensWith (s : BrEdrController) (peer : Address) (P : ScoLinkParameters → Prop) : Prop :=
  s.scoConnections.Every fun c => c.address = peer → c.state = .opened → P c.linkParameters

variable {P : ScoLinkParameters → Prop}

/-- Without a connection there is nothing to show. -/
theorem opensWith_of_none (h : s.scoWith peer = none) : OpensWith s peer P :=
  fun handle c hc hp => absurd hp (HashMap.findBy_eq_none.mp h handle c hc)

/-- A connection is put in the table. -/
theorem OpensWith.insert {handle : UInt16} {c : ScoConnection}
    (h : OpensWith s peer P) (hsco : s'.scoConnections = s.scoConnections.insert handle c)
    (hc : c.address = peer → c.state = .opened → P c.linkParameters) : OpensWith s' peer P := by
  unfold OpensWith
  rw [hsco]
  exact HashMap.Every.insert h hc

/-- A connection leaves the table. -/
theorem OpensWith.erase {handle : UInt16} (h : OpensWith s peer P)
    (hsco : s'.scoConnections = s.scoConnections.erase handle) : OpensWith s' peer P := by
  unfold OpensWith
  rw [hsco]
  exact HashMap.Every.erase h

/-! ### The request -/

variable {p : ScoConnectionParameters}

/-- Nothing is opened with the peer, and at most the request is sent. -/
def Asked (s s' : BrEdrController) (peer : Address) (p : ScoConnectionParameters) : Prop :=
  s'.address = s.address ∧ OpensWith s' peer (fun _ => False) ∧
    (sentSince s s' = [] ∨ ∃ destination classOfDevice,
      sentSince s s' = [⟨s.address, destination, .scoConnectionRequest p classOfDevice⟩])

/-- What the command of the host leaves behind. -/
theorem ask_ok {ask : Command} (hask : ask.asked? = some p) (hn : s.scoWith peer = none) :
    Yields (machine.step s ⟨env, .command ask⟩) fun r => Asked s r.1 peer p := by
  have hsame : Asked s s peer p :=
      ⟨rfl, opensWith_of_none hn, .inl (sentSince_eq [] (List.append_nil _).symm)⟩
  have hreq : ∀ {handle datapath legacy},
      Yields (s.requestSco env handle p datapath legacy) fun r => Asked s r.1 peer p := by
    intro handle datapath legacy
    unfold requestSco
    split
    · exact .ok hsame
    · rename_i connection _
      refine .ite (fun _ => .ok hsame) fun _ => .seq createSco_ok ?_
      rintro _ ⟨handle', last, -, rfl⟩
      refine .ok ⟨rfl, ?_, .inr ⟨connection.address, s.classOfDevice, sentSince_eq [.send
        ⟨s.address, connection.address, .scoConnectionRequest p s.classOfDevice⟩] rfl⟩⟩
      exact (opensWith_of_none hn).insert rfl fun _ hop => by cases hop
  cases ask with
  | addScoConnection | setupSynchronousConnection =>
    cases hask
    exact .seq hreq fun _ h => .ok h
  | _ => cases hask

/-- The request has arrived: what is with the peer is not opened, and is what was asked for. -/
theorem request_ok {destination : Address} {classOfDevice : UInt32}
    (h : machine.step s ⟨env, .packet ⟨peer, destination, .scoConnectionRequest p classOfDevice⟩⟩ =
      .ok (s', out)) (hn : s.scoWith peer = none) :
    s'.address = s.address ∧ s'.scoConnections.Every fun c => c.address = peer →
      c.state ≠ .opened ∧ c.parameters = p := by
  have hpre : s.scoConnections.Every fun c => c.address = peer → c.state ≠ .opened ∧
      c.parameters = p := fun handle c hc hp => absurd hp (HashMap.findBy_eq_none.mp hn handle c hc)
  refine ⟨(effect_of_step h).address, ?_⟩
  by_cases hrch : Reaches s.address ⟨peer, destination, .scoConnectionRequest p classOfDevice⟩
  · rw [step_reaching env hrch] at h
    refine (?_ : Yields (s.incomingScoConnectionRequest env peer p classOfDevice) fun r =>
      r.1.scoConnections.Every _) _ h
    refine .ite (fun _ => .ok hpre) fun _ => .seq createSco_ok ?_
    rintro _ ⟨handle, last, -, rfl⟩
    refine .ok (hpre.insert fun _ => ⟨?_, rfl⟩)
    split <;> nofun
  · rw [step_dropped env hrch] at h
    cases h
    exact hpre

/-! ### The answer -/

/-- The negotiation closes the connection, or opens it with the negotiated link. -/
theorem concludeSco_ok {handle : UInt16} {c : ScoConnection} {q : ScoConnectionParameters}
    {failure : ErrorCode} : Yields (s.concludeSco handle c q failure) fun r =>
    r.1 = s.removeScoConnection handle ∨
      ∃ link, c.negotiateLinkParameters q = some link ∧
        r = ({ s with scoConnections := s.scoConnections.insert handle (openedSco c link) },
          .success, handle, link) := by
  unfold concludeSco
  split
  · exact .seq cancelSco_ok fun _ h => .ok (.inl h)
  · rename_i hl
    exact .seq openSco_ok fun _ h => .ok (.inr ⟨_, hl, by rw [h]⟩)

/-- Nothing is opened with the peer, or one is opened and its link is sent. -/
def Answered (s s' : BrEdrController) (peer : Address) (p : ScoConnectionParameters) : Prop :=
  OpensWith s' peer (fun _ => False) ∨ ∃ (c : ScoConnection) (q : ScoConnectionParameters)
    (link : ScoLinkParameters), c.parameters = p ∧ c.negotiateLinkParameters q = some link ∧
      OpensWith s' peer (· = link) ∧ sentSince s s' =
        [⟨s.address, peer, .scoConnectionResponse ErrorCode.success.toUInt8 link⟩]

/-- Both commands end in the same answer, and then schedule an event. -/
theorem acceptSco_answers {handle : UInt16} {c : ScoConnection} {q : ScoConnectionParameters}
    {failure : ErrorCode} (hpend : s.pendingScoConnection env peer = some (handle, c))
    (hs : s.scoConnections.Every fun c => c.address = peer → c.state ≠ .opened ∧ c.parameters = p) :
    Yields (s.acceptSco handle c q failure) fun r => ∀ s' ts,
      s'.scoConnections = r.1.scoConnections →
      s'.tasks = r.1.tasks ++ ts → packetsOf ts = [] → Answered s s' peer p := by
  obtain ⟨hc, hp, -⟩ := mem_of_pendingSco hpend
  have hpre : ∀ P, OpensWith s peer P := fun P handle c hc hp hop =>
      absurd hop (hs handle c hc hp).1
  refine .seq concludeSco_ok ?_
  rintro ⟨s₁, r⟩ (hremoved | ⟨link, hl, hop⟩)
  · obtain rfl : s₁ = s.removeScoConnection handle := hremoved
    exact .ok fun s' ts hsco _ _ => .inl ((hpre _).erase hsco)
  · cases hop
    refine .ok fun s' ts hsco hts hevs => .inr ⟨c, q, link, (hs handle c hc hp).2, hl, ?_, ?_⟩
    · exact (hpre _).insert hsco fun _ _ => rfl
    · rw [sentSince_eq (s := s) _ (hts.trans (List.append_assoc ..)), packetsOf_append, hevs, ← hp]
      rfl

/-- The peer's host accepts. -/
theorem answer_ok {answer : Command} (hans : answer.accepts peer = true)
    (hs : s.scoConnections.Every fun c => c.address = peer → c.state ≠ .opened ∧ c.parameters = p) :
    Yields (machine.step s ⟨env, .command answer⟩) fun r => Answered s r.1 peer p := by
  have hpre : OpensWith s peer fun _ => False := fun handle c hc hp hop => (hs handle c hc hp).1 hop
  refine .seq (Q := fun r => Answered s r.1 peer p) ?_ fun _ h => .ok h
  cases answer with
  | acceptConnectionRequest bdAddr try_ =>
    obtain rfl : bdAddr = peer := of_decide_eq_true hans
    change Yields (s.acceptConnectionRequest env bdAddr try_) _
    unfold acceptConnectionRequest
    split
    · refine fun r hr => .inl ?_
      unfold OpensWith
      rw [sco_acceptPage r hr]
      exact hpre
    · split
      · exact .ok (.inl hpre)
      · rename_i hpend
        refine .seq (acceptSco_answers hpend hs) fun r h => .ok ?_
        rw [scheduleEvent_eq]
        exact h _ _ rfl rfl packetsOf_eventTasks
  | acceptSynchronousConnection bdAddr q =>
    obtain rfl : bdAddr = peer := of_decide_eq_true hans
    change Yields (s.acceptSynchronousConnection env bdAddr q) _
    unfold acceptSynchronousConnection
    split
    · exact .ok (.inl hpre)
    · rename_i hpend
      exact .seq (acceptSco_answers hpend hs) fun r h => .ok (h _ _ rfl rfl rfl)
  | _ => cases hans

/-- The answer has arrived: what is opened with the peer has the link that was sent. -/
theorem response_ok {destination : Address} {status : UInt8} {link : ScoLinkParameters}
    (hs : OpensWith s peer (fun _ => False)) :
    Yields (machine.step s ⟨env, .packet ⟨peer, destination, .scoConnectionResponse status link⟩⟩)
      fun r => OpensWith r.1 peer (· = link) := by
  have hpre : OpensWith s peer (· = link) := fun handle c hc hp hop => (hs handle c hc hp hop).elim
  by_cases hrch : Reaches s.address ⟨peer, destination, .scoConnectionResponse status link⟩
  · rw [step_reaching env hrch]
    change Yields (s.incomingScoConnectionResponse env peer status link) _
    unfold incomingScoConnectionResponse
    split
    · exact .ok hpre
    · refine .ite (fun _ => .seq openSco_ok ?_) fun _ => .seq cancelSco_ok ?_
      · rintro _ rfl
        exact .ok (hpre.insert rfl fun _ _ => rfl)
      · rintro _ rfl
        exact .ok (hpre.erase rfl)
  · rw [step_dropped env hrch]
    exact .ok hpre

/-! ## Agreement -/

/-- The two ends of a link agree: each transmits what the other receives. -/
structure LinksAgree (l l' : ScoLinkParameters) : Prop where
  airMode : l.airMode = l'.airMode
  kind : l.extended = l'.extended
  transmissionInterval : l.transmissionInterval = l'.transmissionInterval
  retransmissionWindow : l.retransmissionWindow = l'.retransmissionWindow
  transmits : l.txPacketLength = l'.rxPacketLength
  receives : l.rxPacketLength = l'.txPacketLength

/-- Both ends of an established connection have the link that was negotiated. -/
theorem establish_ok {a b a' b' : BrEdrController} {ask answer : Command} {env : Fin 4 → Env}
    (hask : ask.asked? = some p) (hans : answer.accepts a.address = true)
    (ha : a.scoWith b.address = none)
    (hb : b.scoWith a.address = none) (h : establish a b ask answer env = .ok (a', b')) :
    OpensWith b' a.address (fun _ => False) ∨ ∃ (c : ScoConnection) (q : ScoConnectionParameters)
      (link : ScoLinkParameters), c.parameters = p ∧ c.negotiateLinkParameters q = some link ∧
        OpensWith a' b.address (· = link) ∧ OpensWith b' a.address (· = link) := by
  obtain ⟨⟨a₁, o₁⟩, hasking, h⟩ := bind_eq_ok.mp h
  obtain ⟨b₁, hasked, h⟩ := bind_eq_ok.mp h
  obtain ⟨⟨b₂, o₂⟩, hanswering, h⟩ := bind_eq_ok.mp h
  obtain ⟨a₂, hansd, h⟩ := bind_eq_ok.mp h
  cases h
  obtain ⟨haddr, hn, hsent⟩ := ask_ok hask ha _ hasking
  -- whether the request was sent or not
  have hb₁ : b₁.address = b.address ∧ b₁.scoConnections.Every fun c => c.address = a.address →
      c.state ≠ .opened ∧ c.parameters = p := by
    rcases hsent with hsent | ⟨destination, classOfDevice, hsent⟩
    · rw [hsent] at hasked
      rw [receives_nil hasked]
      exact ⟨rfl, fun handle c hc hp =>
        absurd hp (HashMap.findBy_eq_none.mp hb handle c hc)⟩
    · rw [hsent] at hasked
      obtain ⟨out, hreq⟩ := receives_singleton hasked
      exact request_ok hreq hb
  rcases answer_ok hans hb₁.2 _ hanswering with hclosed | ⟨c, q, link, hc, hl, hopen, hsent'⟩
  · exact .inl hclosed
  · rw [hsent', hb₁.1] at hansd
    obtain ⟨out, hresponse⟩ := receives_singleton hansd
    exact .inr ⟨c, q, link, hc, hl, response_ok hn _ hresponse, hopen⟩

/-- **The ends of a synchronous connection agree on the link, if what the initiator asks for is
symmetric.** -/
theorem ends_agree {a b a' b' : BrEdrController} {ask answer : Command} {env : Fin 4 → Env}
    {p : ScoConnectionParameters} {ca cb : ScoConnection} (hask : ask.asked? = some p)
    (hanswer : answer.accepts a.address = true) (ha : a.scoWith b.address = none)
    (hb : b.scoWith a.address = none) (h : establish a b ask answer env = .ok (a', b'))
    (hca : a'.scoWith b.address = some ca) (hcb : b'.scoWith a.address = some cb)
    (hopen : ca.state = .opened) (hopen' : cb.state = .opened) (hsym : p.Symmetric) :
    LinksAgree ca.linkParameters cb.linkParameters := by
  obtain ⟨⟨handle, hca⟩, hp⟩ := HashMap.mem_of_findBy hca
  obtain ⟨⟨handle', hcb⟩, hp'⟩ := HashMap.mem_of_findBy hcb
  rcases establish_ok hask hanswer ha hb h with hn | ⟨c, q, link, rfl, hl, hleft, hrt⟩
  · exact (hn handle' cb hcb hp' hopen').elim
  · rw [hleft handle ca hca hp hopen, hrt handle' cb hcb hp' hopen']
    have hlen := ScoConnection.negotiate_lengths hsym hl
    exact ⟨rfl, rfl, rfl, rfl, hlen, hlen.symm⟩

/-- A controller that has accepted the page of a peer. -/
def linkedTo (own peer : Address) : BrEdrController :=
  match machine.exec (new own) [hostScans start, peerPages start own peer,
    hostAccepts start peer] with
  | .ok r => r.2
  | .error _ => new own

/-- What the host with address 1 asks of the host with address 2, and how that one answers. -/
def exchangeOf (asked answered : ScoConnectionParameters) :
    Except Panic (BrEdrController × BrEdrController) :=
  establish (linkedTo 1 2) (linkedTo 2 1) (.setupSynchronousConnection 0 asked .normal)
    (.acceptSynchronousConnection 1 answered) fun _ => start

/-- The synchronous connections that the two have after the exchange. -/
def endsOf (asked answered : ScoConnectionParameters) : Option (ScoConnection × ScoConnection) := do
  let r ← (exchangeOf asked answered).toOption
  let ca ← r.1.scoWith 2
  let cb ← r.2.scoWith 1
  some (ca, cb)

/-- The two ends after the exchange. -/
theorem exchange_of_ends {asked answered : ScoConnectionParameters} {ca cb : ScoConnection}
    (h : endsOf asked answered = some (ca, cb)) :
    ∃ a' b', exchangeOf asked answered = .ok (a', b') ∧ a'.scoWith 2 = some ca ∧
      b'.scoWith 1 = some cb := by
  obtain ⟨⟨a', b'⟩, hr, h⟩ := Option.bind_eq_some_iff.mp h
  obtain ⟨c, hc, h⟩ := Option.bind_eq_some_iff.mp h
  obtain ⟨c', hc', h⟩ := Option.bind_eq_some_iff.mp h
  cases h
  exact ⟨a', b', toOption_eq_some.mp hr, hc, hc'⟩

/-- An extended connection with the same bandwidth each way. -/
def wideband : ScoConnectionParameters := ⟨8000, 8000, 0xffff, 0x63, 0x02, 0x3f⟩

theorem ends_agree_wideband : ∃ ca cb, endsOf wideband wideband = some (ca, cb) ∧
    ca.linkParameters.extended = true ∧ LinksAgree ca.linkParameters cb.linkParameters := by
  have hends : (endsOf wideband wideband).map (fun c => (c.1.state, c.2.state,
      c.1.linkParameters.extended)) = some (.opened, .opened, true) := by
    decide +kernel
  obtain ⟨⟨ca, cb⟩, hboth, hstates⟩ := Option.map_eq_some_iff.mp hends
  obtain ⟨a', b', hexchange, hca, hcb⟩ := exchange_of_ends hboth
  refine ⟨ca, cb, hboth, congrArg (·.2.2) hstates, ?_⟩
  exact ends_agree (a := linkedTo 1 2) (b := linkedTo 2 1) (p := wideband) rfl (by decide +kernel)
    (by decide +kernel) (by decide +kernel) hexchange hca hcb (congrArg (·.1) hstates)
    (congrArg (·.2.1) hstates) (ScoConnectionParameters.symmetric_of_bandwidth rfl)

/-- The initiator asks to receive twice what it transmits: both ends have the same packet lengths,
where each should have those of the other. -/
theorem asymmetric_lengths_differ : ¬ ∀ (a b a' b' : BrEdrController) (ask answer : Command)
    (env : Fin 4 → Env) (p : ScoConnectionParameters) (ca cb : ScoConnection),
    ask.asked? = some p → answer.accepts a.address = true → a.scoWith b.address = none →
    b.scoWith a.address = none → establish a b ask answer env = .ok (a', b') →
    a'.scoWith b.address = some ca → b'.scoWith a.address = some cb → ca.state = .opened →
    cb.state = .opened → LinksAgree ca.linkParameters cb.linkParameters := by
  intro hall
  have hends : (endsOf ⟨8000, 16000, 0xffff, 0x63, 0x02, 0x3f⟩
      ⟨16000, 8000, 0xffff, 0x63, 0x02, 0x3f⟩).map (fun c => (c.1.state, c.2.state,
        decide (c.1.linkParameters.txPacketLength = c.2.linkParameters.rxPacketLength))) =
      some (.opened, .opened, false) := by
    decide +kernel
  obtain ⟨⟨ca, cb⟩, hboth, hstates⟩ := Option.map_eq_some_iff.mp hends
  obtain ⟨a', b', hexchange, hca, hcb⟩ := exchange_of_ends hboth
  have hagree := hall (linkedTo 1 2) (linkedTo 2 1) a' b' _ _ _ _ ca cb rfl (by decide +kernel)
    (by decide +kernel) (by decide +kernel) hexchange hca hcb (congrArg (·.1) hstates)
    (congrArg (·.2.1) hstates)
  exact of_decide_eq_false (congrArg (·.2.2) hstates) hagree.transmits

end BrEdrController

end RootCanal.BrEdr
