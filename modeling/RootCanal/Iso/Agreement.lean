import RootCanal.Iso.Parties

/-!
# The Central and the Peripheral agree on a CIS

`LinkInv` joins the two endpoints and the invariant of the handshake between them.  A step of the
link is a move of one of the parties, and so a transition of the handshake, for which
`Lib.Handshake` has a rule (`LinkInv.step`).

* **`connected_agrees`: in every run whose steps are in order, a CIS connected on the Central is
  accepted or connected on the Peripheral, or its termination is under way.**
* `stale_response_connects`: without the order, the answer to an abandoned request connects
  another CIS, of which the Peripheral knows nothing.
-/

namespace RootCanal.Iso

open Lib RootCanal.Hci RootCanal.Llcp

/-! ## The link as a handshake -/

namespace Link

open Lib.Handshake IsoManager

variable {a b : UInt16} {l l' : Link} {env : Env} {s' : IsoManager} {out : List Output}
  {packet : LlcpPacket} {packets : List LlcpPacket}

/-- No LL_CIS_REQ is unanswered, so the handshake is quiet. -/
theorem quiet_of_settled (hset : l.settled = true) : Quiet (view b l) := by
  unfold settled at hset
  simp only [Bool.and_eq_true, Bool.not_eq_true'] at hset
  obtain ⟨⟨hR, hO⟩, hI⟩ := hset
  refine ⟨?_, ?_, ?_⟩
  · intro m hm
    obtain ⟨packet, hp, hmsg⟩ := List.mem_filterMap.mp hm
    have hpkt := List.all_eq_true.mp hR packet hp
    cases packet with
    | cisReq => cases hpkt
    | rejectExtInd q =>
      by_cases hop : q.rejectOpcode = Opcode.llCisReq
      · rw [msg?_reject hop] at hmsg
        cases hmsg
        rfl
      · rw [msg?_other hop] at hmsg
        cases hmsg
    | _ =>
      cases hmsg
      rfl
  · apply Set.eq_empty_iff_forall_notMem.mpr
    rintro ⟨k, i⟩ ⟨c, hc, hst, -⟩
    have hn := HashMap.any_eq_false.mp hO k c hc
    simp [hst] at hn
  · intro m hm
    obtain ⟨packet, hp, hmsg⟩ := List.mem_filterMap.mp hm
    have hpkt := List.all_eq_true.mp hI packet hp
    cases packet with
    | cisRsp => cases hpkt
    | rejectExtInd =>
      rw [msg?_other (by simpa using hpkt)] at hmsg
      cases hmsg
    | _ =>
      cases hmsg
      rfl

/-- What holds of the two managers and the packets between them. -/
structure LinkInv (a b : UInt16) (l : Link) : Prop where
  central : CentralSide a l.central
  peripheral : Endpoint b .peripheral l.peripheral
  handshake : Inv (view b l)

theorem linkInv_up : LinkInv a b (up a b) where
  central := ⟨endpoint_up, fun k c hk => by cases hk⟩
  peripheral := endpoint_up
  handshake := by
    have hview : view b (up a b) = State.empty := by
      unfold view State.empty
      congr 1 <;> apply Set.eq_empty_iff_forall_notMem.mpr
      · rintro i ⟨k, c, hk, -⟩
        cases hk
      · rintro i ⟨k, c, hk, -⟩
        cases hk
      · rintro i ⟨c, hk, -⟩
        cases hk
      · rintro i ⟨k, c, hk, -⟩
        cases hk
    rw [hview]
    exact inv_empty

theorem view_central : view b { l with
      central := s', toPeripheral := l.toPeripheral ++ sentOn a out, toCentral := packets } =
    { view b l with
      pending := s'.inState .pendingRsp
      connected := s'.inState .connected
      toResponder := (view b l).toResponder ++ messages a out
      toInitiator := packets.filterMap msg? } := by
  simp only [view, messages, List.filterMap_append]

theorem view_peripheral : view b { l with
      peripheral := s', toCentral := l.toCentral ++ sentOn b out, toPeripheral := packets } =
    { view b l with
      offered := s'.offers
      held := s'.holds b
      toResponder := packets.filterMap msg?
      toInitiator := (view b l).toInitiator ++ messages b out } := by
  simp only [view, messages, List.filterMap_append]

/-- A command of the host of the Central keeps the invariant, when it starts a request only in a
settled state. -/
theorem LinkInv.centralHost {cmd} (hl : LinkInv a b l)
    (hkeep : l.central.keepsQueued (env, .hci cmd) = true)
    (hstr : startsRequest env l.central cmd = false ∨ l.settled = true)
    (he : Effect env l.central (.hci cmd) s' out) :
    LinkInv a b { l with central := s', toPeripheral := l.toPeripheral ++ sentOn a out } := by
  refine ⟨hl.central.step rfl (by rintro _ _ ⟨⟩) hkeep (by rintro _ _ ⟨⟩) he, hl.peripheral, ?_⟩
  rw [view_central]
  obtain ⟨hmove, hn⟩ := hl.central.command he
  generalize messages a out = sent at hmove hn
  cases hmove with
  | quiet hP hK =>
    rw [List.append_nil]
    exact hl.handshake.forget hP hK subset_rfl
  | close hP hK => exact hl.handshake.close hP hK
  | start hP hK =>
    rcases hstr with hno | hset
    · exact absurd rfl (hn hno _)
    · exact hl.handshake.start (quiet_of_settled hset) hP hK

theorem LinkInv.peripheralHost {cmd} (hl : LinkInv a b l)
    (he : Effect env l.peripheral (.hci cmd) s' out) :
    LinkInv a b { l with peripheral := s', toCentral := l.toCentral ++ sentOn b out } := by
  refine ⟨hl.central, hl.peripheral.step rfl (by rintro _ _ ⟨⟩)
    (keepsQueued_of_empty hl.peripheral.no_requests) he, ?_⟩
  rw [view_peripheral]
  have hmove := hl.peripheral.command he
  generalize messages b out = sent at hmove
  cases hmove with
  | keep hO hH =>
    rw [List.append_nil, hO]
    exact hl.handshake.forget subset_rfl subset_rfl hH
  | answer hm hki hO hH hacc => exact hl.handshake.answer hki hO hm hH hacc
  | abandon hO hH =>
    rw [hO]
    exact hl.handshake.abandon hH

theorem LinkInv.deliverToPeripheral (hl : LinkInv a b l) (hto : l.toPeripheral = packet :: packets)
    (he : Effect env l.peripheral (.llcp b packet) s' out) :
    LinkInv a b { l with
      peripheral := s', toCentral := l.toCentral ++ sentOn b out, toPeripheral := packets } := by
  refine ⟨hl.central, hl.peripheral.step rfl (by rintro x p ⟨⟩; rfl)
    (keepsQueued_of_empty hl.peripheral.no_requests) he, ?_⟩
  rw [view_peripheral]
  cases hm : msg? packet with
  | none =>
    obtain ⟨rfl, rfl⟩ := he.of_msg?_eq_none hm
    have hR : (view b l).toResponder = packets.filterMap msg? := by
      simp [view, hto, hm]
    rw [messages_nil, List.append_nil, ← hR]
    exact hl.handshake
  | some m =>
    have hR : (view b l).toResponder = m :: packets.filterMap msg? := by
      simp [view, hto, hm]
    have hfrom := hl.handshake.fromInitiator m (hR ▸ List.mem_cons_self ..)
    cases hreq : m.isRequest with
    | false =>
      obtain ⟨hmsg, hO, hO', hH⟩ := Endpoint.delivered hm hreq hfrom he
      rw [hmsg, List.append_nil]
      exact hl.handshake.delivered hR hreq hO hO' hH
    | true =>
      obtain ⟨q, rfl⟩ := exists_cisReq hm hreq
      cases hm
      obtain ⟨hmsg, hH, k, hO⟩ := Endpoint.requested he
      rw [hmsg, List.append_nil]
      exact hl.handshake.offer hR hO hH

/-- The answer of the Peripheral ends what is pending, and the next request may start. -/
theorem LinkInv.answered {m rest sent} (hl : LinkInv a b l)
    (hI : (view b l).toInitiator = m :: rest) (hm : m.isAnswer = true)
    (hmove : AnswerMove l.central s' m sent) :
    Inv { view b l with
      pending := s'.inState .pendingRsp
      connected := s'.inState .connected
      toResponder := (view b l).toResponder ++ sent
      toInitiator := rest } := by
  cases hmove with
  | done hsent hK hpend hconn =>
    rw [hpend, hconn]
    exact (hl.handshake.conclude hI hm hK hsent).1
  | @next _ _ _ hsent hK _ hK' =>
    obtain ⟨hinv, hq⟩ := hl.handshake.conclude hI hm hK hsent
    rw [← List.append_assoc]
    exact hinv.start hq (by rwa [insert_empty_eq]) hK'

theorem LinkInv.deliverToCentral (hl : LinkInv a b l) (hto : l.toCentral = packet :: packets)
    (hkeep : l.central.keepsQueued (env, .llcp a packet) = true)
    (he : Effect env l.central (.llcp a packet) s' out) :
    LinkInv a b { l with
      central := s', toPeripheral := l.toPeripheral ++ sentOn a out, toCentral := packets } := by
  have hI : (view b l).toInitiator = (msg? packet).toList ++ packets.filterMap msg? := by
    cases hm : msg? packet <;> simp [view, hto, hm]
  have hfrom : ∀ m, msg? packet = some m → m.fromResponder = true := by
    intro m hm
    rw [hm] at hI
    exact hl.handshake.fromResponder m (hI ▸ List.mem_cons_self ..)
  have hone := hl.handshake.phase.pending_subsingleton
  refine ⟨hl.central.step rfl (by rintro x p ⟨⟩; rfl) hkeep ?_ he, hl.peripheral, ?_⟩
  · rintro x q ⟨⟩
    cases hfrom _ rfl
  rw [view_central]
  cases packet with
  | cisReq | cisInd => cases hfrom _ rfl
  | cisRsp => exact hl.answered hI rfl (hl.central.response hone he)
  | rejectExtInd q =>
    by_cases hop : q.rejectOpcode = Opcode.llCisReq
    · rw [msg?_reject hop] at hI
      exact hl.answered hI rfl (hl.central.rejection hone hop he)
    · obtain ⟨rfl, rfl⟩ := he.of_msg?_eq_none (msg?_other hop)
      rw [msg?_other hop] at hI
      rw [messages_nil, List.append_nil, ← List.nil_append (packets.filterMap msg?)]
      exact hI ▸ hl.handshake
  | cisTerminateInd =>
    obtain ⟨hmsg, hP⟩ := hl.central.terminated (by decide : CisState.pendingRsp ≠ _) he
    obtain ⟨-, hK⟩ := hl.central.terminated (by decide : CisState.connected ≠ _) he
    rw [hmsg, List.append_nil]
    exact hl.handshake.ended hI hP hK

variable {outs : List (Role × Output)}

theorem stepCentral_ok {input} (h : l.stepCentral a (env, input) = .ok (l', outs)) : ∃ s' out,
      Effect env l.central input s' out ∧
      l' = { l with central := s', toPeripheral := l.toPeripheral ++ sentOn a out } := by
  unfold stepCentral at h
  cases hs : isoManager.step l.central (env, input) with
  | error =>
    rw [hs] at h
    cases h
  | ok next =>
    rw [hs] at h
    cases h
    exact ⟨next.1, next.2, effect_of_step hs, rfl⟩

theorem stepPeripheral_ok {input} (h : l.stepPeripheral b (env, input) = .ok (l', outs)) : ∃ s' out,
      Effect env l.peripheral input s' out ∧
      l' = { l with peripheral := s', toCentral := l.toCentral ++ sentOn b out } := by
  unfold stepPeripheral at h
  cases hs : isoManager.step l.peripheral (env, input) with
  | error =>
    rw [hs] at h
    cases h
  | ok next =>
    rw [hs] at h
    cases h
    exact ⟨next.1, next.2, effect_of_step hs, rfl⟩

/-- **A step in order keeps the invariant.** -/
theorem LinkInv.step {i} (hl : LinkInv a b l) (hin : l.inOrder a i = true)
    (h : (link a b).step l i = .ok (l', outs)) : LinkInv a b l' := by
  cases i with
  | centralHost =>
    obtain ⟨hkeep, hstr⟩ := Bool.and_eq_true_iff.mp hin
    obtain ⟨s', out, he, rfl⟩ := stepCentral_ok h
    refine hl.centralHost hkeep ?_ he
    simpa using hstr
  | peripheralHost =>
    obtain ⟨s', out, he, rfl⟩ := stepPeripheral_ok h
    exact hl.peripheralHost he
  | deliverToPeripheral =>
    unfold link at h
    simp only at h
    split at h
    · cases h
      exact hl
    · rename_i packet packets hto
      obtain ⟨s', out, he, rfl⟩ := stepPeripheral_ok h
      exact hl.deliverToPeripheral hto he
  | deliverToCentral =>
    unfold link at h
    unfold inOrder at hin
    simp only at h hin
    split at h
    · cases h
      exact hl
    · rename_i packet packets hto
      rw [hto] at hin
      obtain ⟨s', out, he, rfl⟩ := stepCentral_ok h
      exact hl.deliverToCentral hto hin he

/-- **Every run in order keeps the invariant.** -/
theorem run_linkInv {tr} (h : (link a b).Run (fun l i => l.inOrder a i) (up a b) tr l) :
    LinkInv a b l :=
  h.invariant _ linkInv_up fun _ _ _ _ hl hin hs => hl.step hin hs

/-! ## Agreement -/

/-- The Peripheral has accepted or connected the CIS, on its link. -/
def acceptedBy (b : UInt16) (l : Link) (c : Cis) : Bool :=
  l.peripheral.cisConnections.any fun _ c' =>
    decide (c'.cigId = c.cigId ∧ c'.cisId = c.cisId ∧ c'.aclConnectionHandle = some b ∧
      (c'.state = .pendingInd ∨ c'.state = .connected))

/-- An LL_CIS_TERMINATE_IND for the CIS is under way. -/
def terminating (l : Link) (c : Cis) : Bool :=
  (l.toPeripheral ++ l.toCentral).any fun
    | .cisTerminateInd q => decide (q.cigId = c.cigId ∧ q.cisId = c.cisId)
    | _ => false

/-- A termination under way is an LL_CIS_TERMINATE_IND. -/
theorem exists_cisTerminateInd {i} (h : .terminate i ∈ packets.filterMap msg?) :
    ∃ q, .cisTerminateInd q ∈ packets ∧ (q.cigId, q.cisId) = i := by
  obtain ⟨packet, hp, hmsg⟩ := List.mem_filterMap.mp h
  cases packet with
  | cisTerminateInd q =>
    cases hmsg
    exact ⟨q, hp, rfl⟩
  | rejectExtInd q =>
    by_cases hop : q.rejectOpcode = Opcode.llCisReq
    · rw [msg?_reject hop] at hmsg
      cases hmsg
    · rw [msg?_other hop] at hmsg
      cases hmsg
  | _ => cases hmsg

/-- What is backed in the handshake is accepted, or its termination is under way. -/
theorem accepted_or_terminating {c} (h : Backed (view b l) (ids c)) :
    l.acceptedBy b c = true ∨ l.terminating c = true := by
  rcases h with ⟨⟨k, c', hk, -, hacl, hst, hids⟩, -⟩ | hterm
  · refine Or.inl (HashMap.any_eq_true.mpr ⟨k, c', hk, decide_eq_true ?_⟩)
    exact ⟨congrArg Prod.fst hids, congrArg Prod.snd hids, hacl, hst⟩
  · obtain ⟨q, hq, hids⟩ := exists_cisTerminateInd hterm
    refine Or.inr (List.any_eq_true.mpr ⟨_, List.mem_append_right _ hq, decide_eq_true ?_⟩)
    exact ⟨congrArg Prod.fst hids, congrArg Prod.snd hids⟩

/-- **Agreement.** In every run in which the Central starts requests only when no other is
unanswered, and nothing is taken away from those it has queued: a CIS connected on the Central is
accepted or connected on the Peripheral, or an LL_CIS_TERMINATE_IND for it is under way. -/
theorem connected_agrees {tr : List (LinkInput × List (Role × Output))}
    (h : (link a b).Run (fun l i => l.inOrder a i) (up a b) tr l) {k : UInt16} {c : Cis}
    (hk : l.central.cisConnections[k]? = some c) (hc : c.state = .connected) :
    l.acceptedBy b c = true ∨ l.terminating c = true :=
  accepted_or_terminating ((run_linkInv h).handshake.backed _ ⟨k, c, hk, hc, rfl⟩)

/-- Configure CISes on the Central. -/
def configureCises (ids : List UInt8) : LinkInput :=
  .centralHost sampleEnv (.leSetCigParameters (sampleCig 1 (ids.map fun i => ⟨i, 100, 100, 1, 1⟩)))

/-- Create CISes on the link, from the side of the Central. -/
def createCises (handles : List UInt16) : LinkInput :=
  .centralHost sampleEnv (.leCreateCis ⟨handles.map fun h => ⟨h, 0x40⟩⟩)

/-- The host of the Peripheral accepts a request. -/
def acceptCis (handle : UInt16) : LinkInput :=
  .peripheralHost sampleEnv (.leAcceptCisRequest ⟨handle⟩)

/-- The CIS with a handle of the Central is connected there. -/
def connectedOn (l : Link) (handle : UInt16) : Bool :=
  (l.central.cisConnections[handle]?).any fun c => c.state == .connected

theorem connected_agrees_first_of_two : ∃ tr l c,
    (link 0x40 0x41).Run (fun l i => l.inOrder 0x40 i) (up 0x40 0x41) tr l ∧
      l.central.cisConnections[(0xe00 : UInt16)]? = some c ∧ c.state = .connected ∧
      (l.acceptedBy 0x41 c = true ∨ l.terminating c = true) := by
  have hx : (link 0x40 0x41).ExecTo (fun _ l => l.connectedOn 0xe00 = true) (up 0x40 0x41)
      [configureCises [1, 2], createCises [0xe00, 0xe01], .deliverToPeripheral sampleEnv,
        acceptCis 0xe00, .deliverToCentral sampleEnv] := by
    decide +kernel
  obtain ⟨tr, l, hrun, hconn⟩ := (link 0x40 0x41).exists_run (C := fun l i => l.inOrder 0x40 i)
    (by decide +kernel) hx
  obtain ⟨c, hk, hc⟩ := (Option.any_eq_true _ _).mp hconn
  have hst : c.state = .connected := by simpa using hc
  exact ⟨tr, l, c, hrun, hk, hst, connected_agrees hrun hk hst⟩

/-- The Central disconnects the CIS it has requested and requests another; the acceptance of the
first connects the second, which the Peripheral has not yet been asked for. -/
theorem stale_response_connects :
    ∃ tr l c, (link 0x40 0x41).Run (fun _ _ => True) (up 0x40 0x41) tr l ∧
      l.central.cisConnections[(0xe01 : UInt16)]? = some c ∧ c.state = .connected ∧
      l.acceptedBy 0x41 c = false ∧ l.terminating c = false := by
  have hx : (link 0x40 0x41).ExecTo (fun _ l => ∃ c ∈ l.central.cisConnections[(0xe01 : UInt16)]?,
      c.state = .connected ∧ l.acceptedBy 0x41 c = false ∧ l.terminating c = false) (up 0x40 0x41)
      [configureCises [1, 2], createCises [0xe00],
        .centralHost sampleEnv (.disconnect ⟨0xe00, 0x13⟩), createCises [0xe01],
        .deliverToPeripheral sampleEnv, acceptCis 0xe00, .deliverToCentral sampleEnv] := by
    decide +kernel
  obtain ⟨tr, l, hrun, c, hc⟩ := (link 0x40 0x41).exists_free_run hx
  exact ⟨tr, l, c, hrun, hc⟩

end Link

end RootCanal.Iso
