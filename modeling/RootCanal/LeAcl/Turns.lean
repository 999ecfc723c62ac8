import RootCanal.LeAcl.Effects

/-!
# What the two ends of a connection do

`Asked` lists what the commands of the host about a connection make of it and what they send to the
other end, and `Answered` what its packets make of it.  Everything about the procedures of a
connection is read off these two: `asked_of_request`, `answered_of_incoming`.

**`turn_of_step`: a controller with one connection takes a `Turn` on it**, whenever a command, a
task or a packet is about the connection.

Source: `le_controller.cc`
-/

namespace RootCanal.LeAcl

open Lib RootCanal.Hci RootCanal.Gap

/-- Connection parameters without subrating. -/
def LeAclConnectionParameters.plain (interval latency timeout : UInt16) :
    LeAclConnectionParameters where
  connInterval := interval
  connSubrateFactor := 1
  connContinuationNumber := 0
  connPeripheralLatency := latency
  connSupervisionTimeout := timeout

/-- What a reply to the request of the peer for other parameters is checked for. -/
structure ReplyChecked (intervalMin intervalMax timeout latency : UInt16) : Prop where
  interval_le : intervalMin ≤ intervalMax
  latency_le : latency ≤ 0x1f3
  lt_timeout : (1 + latency.toNat) * intervalMax.toNat * 10 / 4 / 10 < timeout.toNat

/-- What a subrate request is checked for. -/
structure SubrateChecked (interval subrateMin subrateMax latency timeout : UInt16) : Prop where
  positive : 1 ≤ subrateMin
  ordered : subrateMin ≤ subrateMax
  timeout_le : timeout ≤ 0xc80
  factor_le : subrateMax.toNat * (latency.toNat + 1) ≤ 500
  lt_timeout : interval.toNat * subrateMax.toNat * (latency.toNat + 1) < timeout.toNat / 2

/-- What a command makes of the connection it is about, and what it sends to the other end. -/
inductive Asked (c : LeAclConnection) : Request → LeAclConnection → List Body → Prop
  | update {intervalMin intervalMax latency timeout : UInt16} : c.role = .central →
      Asked c (.leConnectionUpdate intervalMin intervalMax latency timeout) c
        [.leConnectionParameterUpdate ErrorCode.success.toUInt8 intervalMax latency timeout]
  | updateRequest {intervalMin intervalMax latency timeout : UInt16} : c.role = .peripheral →
      Asked c (.leConnectionUpdate intervalMin intervalMax latency timeout) c
        [.leConnectionParameterRequest intervalMin intervalMax latency timeout]
  | reply {intervalMin intervalMax timeout latency minimumCe maximumCe : UInt16} :
      ReplyChecked intervalMin intervalMax timeout latency →
      Asked c
        (.leRemoteConnectionParameterRequestReply intervalMin intervalMax timeout latency minimumCe
          maximumCe)
        { c with parameters := .plain intervalMin latency timeout }
        [.leConnectionParameterUpdate ErrorCode.success.toUInt8 intervalMin latency timeout]
  | negativeReply {reason : ErrorCode} :
      Asked c (.leRemoteConnectionParameterRequestNegativeReply reason) c
        [.leConnectionParameterUpdate reason.toUInt8 0 0 0]
  | subrate {subrateMin subrateMax latency continuation timeout : UInt16} : c.role = .central →
      SubrateChecked c.parameters.connInterval subrateMin subrateMax latency timeout →
      Asked c (.leSubrateRequest subrateMin subrateMax latency continuation timeout)
        { LeController.withSubrate c subrateMax latency continuation timeout with
          subrateParameters := ⟨subrateMin, subrateMax, latency, continuation, timeout⟩ }
        [.llSubrateInd ErrorCode.success.toUInt8 subrateMax 0 latency continuation timeout]
  | subrateRequest {subrateMin subrateMax latency continuation timeout : UInt16} :
      c.role = .peripheral →
      SubrateChecked c.parameters.connInterval subrateMin subrateMax latency timeout →
      Asked c (.leSubrateRequest subrateMin subrateMax latency continuation timeout) c
        [.llSubrateReq subrateMin subrateMax latency continuation timeout]
  | enable {rand : UInt64} {ediv : UInt16} {ltk : Ltk} :
      Asked c (.leEnableEncryption rand ediv ltk) c []
  | keyReply {ltk : Ltk} : Asked c (.leLongTermKeyRequestReply ltk) { c with encrypted := true }
      [.leEncryptConnectionResponse ErrorCode.success.toUInt8 0 0 ltk]
  | negativeKeyReply : Asked c .leLongTermKeyRequestNegativeReply c
      [.leEncryptConnectionResponse ErrorCode.pinOrKeyMissing.toUInt8 0 0 0]

/-- What a packet makes of the connection it is for, and what is sent in answer. -/
inductive Answered (s : LeController) (c : LeAclConnection) :
    Body → LeAclConnection → List Body → Prop
  | parameterRequest {intervalMin intervalMax latency timeout : UInt16} :
      Answered s c (.leConnectionParameterRequest intervalMin intervalMax latency timeout) c []
  | parameterRefused {intervalMin intervalMax latency timeout : UInt16} :
      Answered s c (.leConnectionParameterRequest intervalMin intervalMax latency timeout) c
        [.leConnectionParameterUpdate ErrorCode.unsupportedRemoteOrLmpFeature.toUInt8 0 0 0]
  | parameterUpdate {status : UInt8} {interval latency timeout : UInt16} :
      Answered s c (.leConnectionParameterUpdate status interval latency timeout)
        (if status = ErrorCode.success.toUInt8 then
          { c with parameters := .plain interval latency timeout } else c) []
  | encrypt {rand : UInt64} {ediv : UInt16} {ltk : Ltk} :
      Answered s c (.leEncryptConnection rand ediv ltk) { c with ltk := some ltk } []
  | encryptResponse {status : UInt8} {rand : UInt64} {ediv : UInt16} {ltk : Ltk} :
      Answered s c (.leEncryptConnectionResponse status rand ediv ltk)
        { c with encrypted := c.encrypted ||
            LeController.responseStatus c status ltk = ErrorCode.success.toUInt8 } []
  | phyReply {txPhys rxPhys : UInt8} : c.role = .peripheral →
      Answered s c (.llPhyReq txPhys rxPhys) c [.llPhyRsp s.defaultTxPhys s.defaultRxPhys]
  | phySelect {txPhys rxPhys : UInt8} {txPhy rxPhy : PhyType} : c.role = .central →
      txPhy = selectPhy (rxPhys &&& s.defaultTxPhys) c.txPhy →
      rxPhy = selectPhy (txPhys &&& s.defaultRxPhys) c.rxPhy →
      Answered s c (.llPhyReq txPhys rxPhys) { c with txPhy, rxPhy }
        [.llPhyUpdateInd (indicatePhy txPhy c.txPhy) (indicatePhy rxPhy c.rxPhy) 0]
  | phyResponse {txPhys rxPhys : UInt8} {txPhy rxPhy : PhyType} : c.role = .central →
      txPhy = selectPhy (rxPhys &&& s.requestedTxPhys) c.txPhy →
      rxPhy = selectPhy (txPhys &&& s.requestedRxPhys) c.rxPhy →
      Answered s c (.llPhyRsp txPhys rxPhys) { c with initiatedPhyUpdate := false, txPhy, rxPhy }
        [.llPhyUpdateInd (indicatePhy txPhy c.txPhy) (indicatePhy rxPhy c.rxPhy) 0]
  | phyUpdate {phyCToP phyPToC : UInt8} {instant : UInt16} : c.role = .peripheral →
      Answered s c (.llPhyUpdateInd phyCToP phyPToC instant)
        { c with
          initiatedPhyUpdate := false
          txPhy := selectPhy phyPToC c.txPhy
          rxPhy := selectPhy phyCToP c.rxPhy } []
  | subrateAccepted
    {subrateMin subrateMax latency continuation timeout factor latency' continuation'
        timeout' : UInt16} : c.role = .central →
      LeController.acceptsSubrate c subrateMin subrateMax latency timeout →
      factor = min subrateMax c.subrateParameters.subrateMax →
      latency' = min latency c.subrateParameters.maxLatency →
      timeout' = min timeout c.subrateParameters.supervisionTimeout →
      Answered s c (.llSubrateReq subrateMin subrateMax latency continuation timeout)
        (LeController.withSubrate c factor latency' continuation' timeout')
        [.llSubrateInd ErrorCode.success.toUInt8 factor 0 latency' continuation' timeout']
  | subrateRefused {subrateMin subrateMax latency continuation timeout : UInt16} :
      c.role = .central →
      Answered s c (.llSubrateReq subrateMin subrateMax latency continuation timeout) c
        [.llSubrateInd ErrorCode.invalidLmpOrLlParameters.toUInt8 0 0 0 0 0]
  | subrateUpdate {status : UInt8} {factor base latency continuation timeout : UInt16} :
      c.role = .peripheral →
      Answered s c (.llSubrateInd status factor base latency continuation timeout)
        (if status = ErrorCode.success.toUInt8 then
          LeController.withSubrate c factor latency continuation timeout else c) []

/-- A packet to the other end. -/
def LeAclConnection.sends (c : LeAclConnection) (body : Body) : Packet :=
  ⟨c.ownAddress.address, c.address.address, body⟩

/-- The tasks send events, but for the one that starts encryption. -/
def Scheduled (handle : UInt16) (request : Request) (ts : List Task) : Prop :=
  ∀ t ∈ ts, t.isEvent ∨ ∃ rand ediv ltk, request = .leEnableEncryption rand ediv ltk ∧
    t = .handleLeEnableEncryption handle rand ediv ltk

namespace LeController

variable {s : LeController} {c : LeAclConnection} {r : Handled}

theorem scheduled_nil {handle request} : Scheduled handle request [] := by
  intro t ht
  cases ht

theorem events_nil : ∀ t ∈ ([] : List Task), t.isEvent := by
  intro t ht
  cases ht

theorem requires_reply {intervalMin intervalMax timeout latency minimumCe maximumCe}
    (h : s.leRemoteConnectionParameterRequestReply c intervalMin intervalMax timeout
      latency minimumCe
      maximumCe = .ok r) : ReplyChecked intervalMin intervalMax timeout latency := by
  obtain ⟨_, hchk, -⟩ := bind_eq_ok.mp h
  rw [require_eq_ok, decide_eq_true_iff] at hchk
  obtain ⟨-, -, hint, hlat, -, -, hto⟩ := hchk
  exact ⟨hint, hlat, hto⟩

theorem requires_subrate {subrateMin subrateMax latency continuation timeout}
    (h : s.leSubrateRequest c subrateMin subrateMax latency continuation timeout = .ok r) :
    SubrateChecked c.parameters.connInterval subrateMin subrateMax latency timeout := by
  obtain ⟨_, hmin, h⟩ := bind_eq_ok.mp h
  obtain ⟨_, _, h⟩ := bind_eq_ok.mp h
  obtain ⟨_, hord, h⟩ := bind_eq_ok.mp h
  obtain ⟨_, _, h⟩ := bind_eq_ok.mp h
  obtain ⟨_, _, h⟩ := bind_eq_ok.mp h
  obtain ⟨_, hrg, h⟩ := bind_eq_ok.mp h
  obtain ⟨_, hfactor, h⟩ := bind_eq_ok.mp h
  obtain ⟨_, hto, -⟩ := bind_eq_ok.mp h
  rw [require_eq_ok, decide_eq_true_iff] at hmin hord hrg hfactor hto
  exact ⟨hmin.1, hord, hrg.2, hfactor, hto⟩

theorem packets_leLongTermKeyRequestReply {handle ltk} :
    packets (s.leLongTermKeyRequestReply c handle ltk).out =
      [c.sends (.leEncryptConnectionResponse ErrorCode.success.toUInt8 0 0 ltk)] := by
  unfold leLongTermKeyRequestReply
  split
  · simp [LeAclConnection.sends]
  · split <;> simp [LeAclConnection.sends]

/-- **What a command makes of the connection.** -/
theorem asked_of_request {handle request} (h : s.request handle c request = .ok r) :
    ∃ bodies, Asked c request r.connection bodies ∧ packets r.out = bodies.map c.sends ∧
      Scheduled handle request r.tasks := by
  cases request with
  | leConnectionUpdate =>
    cases h
    unfold leConnectionUpdate
    split
    · rename_i hr
      refine ⟨_, .update hr, ?_, scheduled_nil⟩
      rw [packets_toPeer, packets_sendLeEvent]
      rfl
    · rename_i hr
      refine ⟨_, .updateRequest ?_, rfl, scheduled_nil⟩
      cases hc : c.role <;> first | rfl | exact absurd hc hr
  | leRemoteConnectionParameterRequestReply =>
    have hchk := requires_reply h
    obtain ⟨_, _, h⟩ := bind_eq_ok.mp h
    obtain ⟨_, _, h⟩ := bind_eq_ok.mp h
    cases h
    refine ⟨_, .reply hchk, ?_, scheduled_nil⟩
    rw [packets_toPeer, packets_sendLeEvent]
    rfl
  | leRemoteConnectionParameterRequestNegativeReply =>
    cases h
    exact ⟨_, .negativeReply, rfl, scheduled_nil⟩
  | leSubrateRequest =>
    have hchk := requires_subrate h
    iterate 9 obtain ⟨_, _, h⟩ := bind_eq_ok.mp h
    split at h
    · rename_i hr
      cases h
      exact ⟨_, .subrate hr hchk, rfl, fun t ht => .inl (scheduleLeEvent_isEvent t ht)⟩
    · rename_i hr
      cases h
      refine ⟨_, .subrateRequest ?_ hchk, rfl, scheduled_nil⟩
      cases hc : c.role <;> first | rfl | exact absurd hc hr
  | leEnableEncryption rand ediv ltk =>
    cases h
    refine ⟨_, .enable, rfl, ?_⟩
    intro t ht
    exact .inr ⟨rand, ediv, ltk, rfl, List.mem_singleton.mp ht⟩
  | leLongTermKeyRequestReply =>
    cases h
    exact ⟨_, .keyReply, packets_leLongTermKeyRequestReply, scheduled_nil⟩
  | leLongTermKeyRequestNegativeReply =>
    cases h
    exact ⟨_, .negativeKeyReply, rfl, scheduled_nil⟩

theorem map_sends {p : Packet} (hp : c.ends = (p.destinationAddress, p.sourceAddress))
    (body : Body) : [⟨p.destinationAddress, p.sourceAddress, body⟩] = [body].map c.sends := by
  obtain ⟨hown, hpr⟩ := Prod.mk.inj hp
  rw [← hown, ← hpr]
  rfl

/-- **What a packet makes of the connection it is for.** -/
theorem answered_of_incoming {p : Packet} (hb : p.body.isProcedure)
    (hp : c.ends = (p.destinationAddress, p.sourceAddress)) (h : s.incomingProcedure c p = .ok r) :
    ∃ bodies, Answered s c p.body r.connection bodies ∧ packets r.out = bodies.map c.sends ∧
      ∀ t ∈ r.tasks, t.isEvent := by
  cases hp' : p.body with
  | gap | disconnect =>
    rw [hp'] at hb
    cases hb
  | leConnectionParameterRequest =>
    simp only [incomingProcedure, hp', Except.ok.injEq] at h
    cases h
    unfold incomingLeConnectionParameterRequest
    split
    · exact ⟨_, .parameterRequest, rfl, events_nil⟩
    · exact ⟨_, .parameterRefused, map_sends hp _, events_nil⟩
  | leConnectionParameterUpdate =>
    simp only [incomingProcedure, hp', Except.ok.injEq] at h
    cases h
    exact ⟨_, .parameterUpdate, packets_sendLeEvent .., events_nil⟩
  | leEncryptConnection =>
    simp only [incomingProcedure, hp', Except.ok.injEq] at h
    cases h
    exact ⟨_, .encrypt, packets_sendEvent .., events_nil⟩
  | leEncryptConnectionResponse =>
    simp only [incomingProcedure, hp', Except.ok.injEq] at h
    cases h
    refine ⟨_, .encryptResponse, ?_, events_nil⟩
    unfold incomingLeEncryptConnectionResponse
    dsimp only
    split <;> exact packets_sendEvent ..
  | llPhyReq =>
    simp only [incomingProcedure, hp', Except.ok.injEq] at h
    cases h
    unfold incomingLlPhyReq
    split
    · rename_i hr
      exact ⟨_, .phyReply hr, map_sends hp _, events_nil⟩
    · rename_i hr
      have hcen : c.role = .central := by
        cases hc : c.role <;> first | rfl | exact absurd hc hr
      refine ⟨_, .phySelect hcen rfl rfl, ?_, events_nil⟩
      dsimp only
      split
      · rw [packets_reply, packets_sendLeEvent]
        exact map_sends hp _
      · exact map_sends hp _
  | llPhyRsp =>
    simp only [incomingProcedure, hp'] at h
    obtain ⟨_, hr, h⟩ := bind_eq_ok.mp h
    cases h
    refine ⟨_, .phyResponse (of_decide_eq_true (assert_eq_ok.mp hr)) rfl rfl, ?_, events_nil⟩
    rw [packets_reply, packets_sendLeEvent]
    exact map_sends hp _
  | llPhyUpdateInd =>
    simp only [incomingProcedure, hp'] at h
    obtain ⟨_, hr, h⟩ := bind_eq_ok.mp h
    cases h
    refine ⟨_, .phyUpdate (of_decide_eq_true (assert_eq_ok.mp hr)), ?_, events_nil⟩
    split
    · exact packets_sendLeEvent ..
    · rfl
  | llSubrateReq =>
    simp only [incomingProcedure, hp'] at h
    obtain ⟨_, hr, h⟩ := bind_eq_ok.mp h
    have hcen := of_decide_eq_true (assert_eq_ok.mp hr)
    split at h
    · rename_i hacc
      cases h
      exact ⟨_, .subrateAccepted hcen hacc rfl rfl rfl, rfl, scheduleLeEvent_isEvent⟩
    · cases h
      exact ⟨_, .subrateRefused hcen, rfl, events_nil⟩
  | llSubrateInd =>
    simp only [incomingProcedure, hp'] at h
    obtain ⟨_, hr, h⟩ := bind_eq_ok.mp h
    cases h
    exact ⟨_, .subrateUpdate (of_decide_eq_true (assert_eq_ok.mp hr)), rfl, scheduleLeEvent_isEvent⟩

end LeController

/-- The role of the other end. -/
def peerRole : Role → Role
  | .central => .peripheral
  | .peripheral => .central

/-- The packet is one that an end with this role answers to. -/
def Body.suits : Role → Body → Bool
  | .central, .llPhyUpdateInd .. | .central, .llSubrateInd .. => false
  | .peripheral, .llPhyRsp .. | .peripheral, .llSubrateReq .. => false
  | _, body => body.isProcedure

theorem Body.isProcedure_of_suits {r : Role} {body : Body} (h : body.suits r) :
    body.isProcedure := by
  cases r <;> cases body <;> first | exact h | cases h

/-! ## A controller with one connection -/

/-- The controller has one connection. -/
structure Sole (s : LeController) (handle : UInt16) (c : LeAclConnection) : Prop where
  get : s.leAclConnections[handle]? = some c
  only : ∀ k c', s.leAclConnections[k]? = some c' → k = handle

namespace Sole

variable {s s' : LeController} {handle : UInt16} {c c' : LeAclConnection}

theorem congr (hs : Sole s handle c) (h : s'.leAclConnections = s.leAclConnections) :
    Sole s' handle c := by
  obtain ⟨get, only⟩ := hs
  rw [← h] at get only
  exact ⟨get, only⟩

theorem insert (hs : Sole s handle c)
    (h : s'.leAclConnections = s.leAclConnections.insert handle c') : Sole s' handle c' := by
  refine ⟨?_, ?_⟩
  · rw [h, HashMap.getElem?_insert', if_pos rfl]
  · intro k d hk
    rw [h, HashMap.getElem?_insert'] at hk
    split at hk
    · rename_i heq
      exact heq.symm
    · exact hs.only k d hk

theorem modify {f} (hs : Sole s handle c)
    (h : s'.leAclConnections = s.leAclConnections.modify handle f) : Sole s' handle (f c) := by
  refine ⟨?_, ?_⟩
  · rw [h, HashMap.getElem?_modify', if_pos rfl, hs.get]
    rfl
  · intro k d hk
    rw [h, HashMap.getElem?_modify'] at hk
    split at hk
    · rename_i heq
      exact heq.symm
    · exact hs.only k d hk

/-- A packet between its ends finds the connection. -/
theorem handle_ne_none (hs : Sole s handle c) {env own peer} (h : c.ends = (own, peer)) :
    s.getLeAclConnectionHandle env own peer ≠ none := by
  unfold LeController.getLeAclConnectionHandle
  rw [ne_eq, HashMap.keyBy_eq_none, HashMap.findBy_eq_none]
  intro hn
  exact hn handle c hs.get h

end Sole

/-- The command is about a connection, or about what is asked for on connections. -/
def Command.onLink : Command → Bool
  | .leSetPhy .. | .leSetDefaultPhy .. | .leSetDefaultSubrate .. | .onConnection .. => true
  | _ => false

/-- The hosts give commands about the connection, and scheduled tasks run. -/
def Action.onLink : Action → Bool
  | .command c => c.onLink
  | .runTask => true
  | _ => false

/-- What a command, a task or a packet makes of the one connection, and what is sent to the other
end. -/
inductive Turn (s : LeController) (handle : UInt16) (c : LeAclConnection) (a : Action)
    (s' : LeController) (c' : LeAclConnection) (bodies : List Body) : Prop
  | aside {command : Command} : a = .command command → c' = c → s'.tasks = s.tasks → bodies = [] →
      Turn s handle c a s' c' bodies
  | requested {request : Request} {ts : List Task} : a = .command (.onConnection handle request) →
      Asked c request c' bodies → s'.tasks = s.tasks ++ ts → Scheduled handle request ts →
      Turn s handle c a s' c' bodies
  | phyRequested {command : Command} {txPhys rxPhys : UInt8} : a = .command command →
      c' = { c with initiatedPhyUpdate := true } → s'.tasks = s.tasks →
      bodies = [.llPhyReq txPhys rxPhys] → Turn s handle c a s' c' bodies
  | received {p : Packet} {body : Body} {ts : List Task} : a = .packet p → p.body = body →
      Answered s c body c' bodies → s'.tasks = s.tasks ++ ts → (∀ t ∈ ts, t.isEvent) →
      Turn s handle c a s' c' bodies
  | encrypting {rand : UInt64} {ediv : UInt16} {ltk : Ltk} {ts : List Task} : a = .runTask →
      s.tasks = .handleLeEnableEncryption handle rand ediv ltk :: ts →
      c' = { c with ltk := some ltk } → s'.tasks = ts →
        bodies = [.leEncryptConnection rand ediv ltk] →
      Turn s handle c a s' c' bodies
  | ran : a = .runTask → c' = c → s'.tasks = s.tasks.tail → bodies = [] →
      Turn s handle c a s' c' bodies

/-- The action is about the connection: a command, a task, or a packet between its ends. -/
def About (c : LeAclConnection) (a : Action) : Prop :=
  a.onLink ∨ ∃ p, a = .packet p ∧ c.ends = (p.destinationAddress, p.sourceAddress) ∧
    p.body.isProcedure

theorem About.packet {c a p} (h : About c a) (ha : a = .packet p) : c.ends =
    (p.destinationAddress, p.sourceAddress) ∧ p.body.isProcedure := by
  rcases h with h | ⟨p', hp', h⟩
  · rw [ha] at h
    cases h
  · cases ha.symm.trans hp'
    exact h

theorem About.not_isOutside {c a} (h : About c a) : ¬ a.isOutside := by
  rcases h with h | ⟨⟨_, _, body⟩, rfl, -, hb⟩
  · cases a with
    | command command => cases command <;> first | cases h; done | nofun
    | runTask => nofun
    | packet | tick | expire => cases h
  · cases body <;> first | cases hb; done | nofun

/-- **A controller with one connection takes a turn on it.** -/
theorem turn_of_step {s : LeController} {handle : UInt16} {c : LeAclConnection} {i : Input}
    {r : LeController × List Output} (hs : Sole s handle c) (hi : About c i.action)
    (h : s.step i = .ok r) :
    ∃ c' bodies, Sole r.1 handle c' ∧ packets r.2 = bodies.map c.sends ∧
      Turn s handle c i.action r.1 c' bodies := by
  cases LeController.effect_of_step h with
  | aside ha has hps => exact ⟨c, [], hs.congr has.connections, hps, .aside ha rfl has.tasks rfl⟩
  | outside ha => exact (hi.not_isOutside ha).elim
  | dropped ha _ _ hn => exact absurd hn (hs.handle_ne_none (hi.packet ha).1)
  | created ha | cancelled ha | asked ha | accepted ha | completed ha | reset ha =>
    exact (hi.not_isOutside (ha ▸ rfl)).elim
  | requested ha hc hr hconns _ hts hps =>
    cases hs.only _ _ hc
    cases hs.get.symm.trans hc
    obtain ⟨bodies, hask, hout, hsched⟩ := LeController.asked_of_request hr
    exact ⟨_, bodies, hs.insert hconns, hps.trans hout, .requested ha hask hts hsched⟩
  | received ha hb hc hends hr hconns _ hts hps =>
    cases hs.only _ _ hc
    cases hs.get.symm.trans hc
    obtain ⟨bodies, hansd, hout, hevs⟩ := LeController.answered_of_incoming hb hends hr
    exact ⟨_, bodies, hs.insert hconns, hps.trans hout, .received ha rfl hansd hts hevs⟩
  | encrypting ha htask hc hconns _ hts hps =>
    cases hs.only _ _ hc
    cases hs.get.symm.trans hc
    exact ⟨_, [_], hs.insert hconns, hps, .encrypting ha htask rfl hts rfl⟩
  | ran ha hconns _ hts _ hps =>
    exact ⟨c, [], hs.congr hconns, hps, .ran ha rfl hts rfl⟩
  | phyRequested ha hc hst hps =>
    cases hs.only _ _ hc
    cases hs.get.symm.trans hc
    rw [hst]
    exact ⟨_, [_], hs.modify rfl, hps, .phyRequested ha rfl rfl rfl⟩
  | closed hcloses =>
    rcases hi with hi | ⟨p, hp, -, hb⟩
    · revert hi hcloses
      cases i.action with
      | command command => cases command <;> nofun
      | packet | runTask | tick | expire => nofun
    · rw [hp] at hcloses
      obtain ⟨_, _, body⟩ := p
      cases body <;> first | cases hb; done | cases hcloses
  | ended _ _ hexpire =>
    obtain ⟨_, ha⟩ := hexpire
    rcases hi with hi | ⟨p, hp, -⟩
    · rw [ha] at hi
      cases hi
    · cases ha.symm.trans hp

/-! ## What a turn keeps -/

/-- The connection keeps its ends and its role, and what it sends suits the other end. -/
structure Keeps (c c' : LeAclConnection) (bodies : List Body) : Prop where
  role : c'.role = c.role
  ends : c'.ends = c.ends
  sent : ∀ body ∈ bodies, body.suits (peerRole c.role)

variable {bodies : List Body}

/-- A command keeps the ends and the role. -/
theorem Asked.keeps {c c' request} (h : Asked c request c' bodies) : Keeps c c' bodies := by
  have hsuits : ∀ {body : Body}, body.suits .central → body.suits .peripheral →
      body.suits (peerRole c.role) := by
    intro body hcen hper
    cases c.role
    · exact hper
    · exact hcen
  cases h with
  | update | updateRequest | reply | negativeReply | keyReply | negativeKeyReply =>
    exact ⟨rfl, rfl, List.forall_mem_singleton.mpr (hsuits rfl rfl)⟩
  | subrate hr | subrateRequest hr =>
    refine ⟨rfl, rfl, List.forall_mem_singleton.mpr ?_⟩
    rw [hr]
    rfl
  | enable => exact ⟨rfl, rfl, List.forall_mem_nil _⟩

/-- A PDU keeps the ends and the role. -/
theorem Answered.keeps {s c c' body} (h : Answered s c body c' bodies) : Keeps c c' bodies := by
  cases h with
  | parameterRequest | encrypt | encryptResponse | phyUpdate =>
    exact ⟨rfl, rfl, List.forall_mem_nil _⟩
  | parameterRefused =>
    refine ⟨rfl, rfl, List.forall_mem_singleton.mpr ?_⟩
    cases c.role <;> rfl
  | parameterUpdate | subrateUpdate =>
    split
    · exact ⟨rfl, rfl, List.forall_mem_nil _⟩
    · exact ⟨rfl, rfl, List.forall_mem_nil _⟩
  | phyReply hr | phySelect hr | phyResponse hr | subrateAccepted hr
  | subrateRefused hr =>
    refine ⟨rfl, rfl, List.forall_mem_singleton.mpr ?_⟩
    rw [hr]
    rfl

/-- A turn keeps the ends and the role of the connection, and sends what suits the other end. -/
theorem Turn.keeps {s s' handle c c' a} (h : Turn s handle c a s' c' bodies) :
    Keeps c c' bodies := by
  cases h with
  | aside _ hc _ hbs | ran _ hc _ hbs =>
    cases hc
    cases hbs
    exact ⟨rfl, rfl, List.forall_mem_nil _⟩
  | requested _ hask => exact hask.keeps
  | received _ _ hansd => exact hansd.keeps
  | phyRequested _ hc _ hbs | encrypting _ _ hc _ hbs =>
    cases hc
    cases hbs
    refine ⟨rfl, rfl, List.forall_mem_singleton.mpr ?_⟩
    cases c.role <;> rfl

end RootCanal.LeAcl
