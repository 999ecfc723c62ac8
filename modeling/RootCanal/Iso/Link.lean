import RootCanal.Lib.Handshake
import RootCanal.Iso.Tables

/-!
# Two managers on one ACL link

A Central and a Peripheral manager are joined by a link that carries LLCP packets in order in each
direction.  `link a b` is the machine of the two together, with `a` and `b` the handles of the
link on the two sides; its inputs are the commands of the two hosts and the deliveries of packets.

LL_CIS_RSP and LL_REJECT_EXT_IND carry no CIS identifier, so the answer to a request the Central
has given up can be taken for the answer to a later one.  `inOrder` excludes that: **the Central
is given an LE Create CIS that starts a request only when no LL_CIS_REQ is unanswered**, and what
its queued requests point to is not taken away.

* `Endpoint` is what holds of each manager on its own, in every run (`Endpoint.step`).
* `view` reads the two managers and the packets under way as a state of the handshake of
  `Lib.Handshake`: sets of identifiers, and messages instead of packets.

Source: `rust/src/llcp/iso.rs`
-/

namespace RootCanal.Iso

open Lib RootCanal.Hci RootCanal.Llcp

/-- Two managers and the packets under way between them, the next one to be delivered first. -/
structure Link where
  central : IsoManager
  peripheral : IsoManager
  toPeripheral : List LlcpPacket
  toCentral : List LlcpPacket

/-- What can happen on a link. -/
inductive LinkInput
  | centralHost (env : Env) (command : Command)
  | peripheralHost (env : Env) (command : Command)
  | deliverToPeripheral (env : Env)
  | deliverToCentral (env : Env)

namespace Link

/-- The packets sent on a link. -/
def sentOn (a : UInt16) (out : List Output) : List LlcpPacket :=
  out.filterMap fun
    | .llcp a' packet => if a' = a then some packet else none
    | .hci _ => none

/-- The link comes up, between two fresh managers. -/
def up (a b : UInt16) : Link where
  central := IsoManager.new.addAclConnection a .central
  peripheral := IsoManager.new.addAclConnection b .peripheral
  toPeripheral := []
  toCentral := []

/-- An input of the Central; what it sends is under way to the Peripheral. -/
def stepCentral (a : UInt16) (l : Link) (i : Env × Input) :
    Except Panic (Link × List (Role × Output)) := do
  let (s, out) ← isoManager.step l.central i
  .ok ({ l with central := s, toPeripheral := l.toPeripheral ++ sentOn a out },
    out.map fun o => (.central, o))

/-- An input of the Peripheral; what it sends is under way to the Central. -/
def stepPeripheral (b : UInt16) (l : Link) (i : Env × Input) :
    Except Panic (Link × List (Role × Output)) := do
  let (s, out) ← isoManager.step l.peripheral i
  .ok ({ l with peripheral := s, toCentral := l.toCentral ++ sentOn b out },
    out.map fun o => (.peripheral, o))

end Link

/-- The link as a machine. A delivery takes the packet that was sent first. -/
def link (a b : UInt16) : Machine Link LinkInput (Role × Output) where
  step l
    | .centralHost env command => l.stepCentral a (env, .hci command)
    | .peripheralHost env command => l.stepPeripheral b (env, .hci command)
    | .deliverToPeripheral env =>
      match l.toPeripheral with
      | [] => .ok (l, [])
      | packet :: packets =>
        { l with toPeripheral := packets }.stepPeripheral b (env, .llcp b packet)
    | .deliverToCentral env =>
      match l.toCentral with
      | [] => .ok (l, [])
      | packet :: packets =>
        { l with toCentral := packets }.stepCentral a (env, .llcp a packet)

namespace Link

/-! ## The condition -/

/-- No LL_CIS_REQ is unanswered: none is under way or waits for the host of the Peripheral, and no
answer is under way. -/
def settled (l : Link) : Bool :=
  (l.toPeripheral.all fun
    | .cisReq _ => false
    | _ => true) &&
  (!l.peripheral.cisConnections.any fun _ c => c.state == .pendingAccept) &&
  l.toCentral.all fun
    | .cisRsp _ => false
    | .rejectExtInd q => q.rejectOpcode != Opcode.llCisReq
    | _ => true

/-- The command is an LE Create CIS that passes its checks with at least one request. -/
def startsRequest (env : Env) (s : IsoManager) : Command → Bool
  | .leCreateCis p =>
    match s.checkCisRequests p.cisConfig [] with
    | .ok rs => !rs.isEmpty && s.cisConnectionRequests.isEmpty &&
        env.connectedIsochronousStreamHostSupport
    | .error _ => false
  | _ => false

/-- The Central starts requests only when no other is unanswered, and nothing is taken away from
those it has queued. -/
def inOrder (a : UInt16) (l : Link) : LinkInput → Bool
  | .centralHost env command =>
    l.central.keepsQueued (env, .hci command) && (!startsRequest env l.central command || l.settled)
  | .deliverToCentral env =>
    match l.toCentral with
    | [] => true
    | packet :: _ => l.central.keepsQueued (env, .llcp a packet)
  | _ => true

end Link

/-! ## Each side on its own -/

namespace IsoManager

section sides

variable {env : Env} {s s' : IsoManager} {out : List Output} {input : Input}

/-- The input is not a change of the ACL links. -/
def onLink : Input → Bool
  | .hci _ | .llcp _ _ => true
  | _ => false

theorem Started.aclConnections_eq (h : Started env s s' out) :
    s'.aclConnections = s.aclConnections := by
  cases h with
  | idle => rfl
  | sent => rfl

theorem Started.requests_subset (h : Started env s s' out) :
    s'.cisConnectionRequests ⊆ s.cisConnectionRequests := by
  cases h with
  | idle => exact List.Subset.refl _
  | sent => exact List.dropLast_subset _

/-- Only the changes of the ACL links change the table of them. -/
theorem Effect.aclConnections_eq (he : Effect env s input s' out)
    (hinput : onLink input = true) : s'.aclConnections = s.aclConnections := by
  cases he with
  | configured _ _ _ hconf => exact (configureCig_spec hconf).links
  | created _ _ _ hstr | established _ _ _ _ hstr | failed _ _ _ hstr =>
    exact hstr.aclConnections_eq
  | disconnected => exact endCis_aclConnections ..
  | linkAdded | linkLost => cases hinput
  | _ => rfl

/-- A queued request was queued before, or is on a link on which this side is the Central. -/
theorem Effect.requests_subset (he : Effect env s input s' out) {r}
    (hr : r ∈ s'.cisConnectionRequests) : r ∈ s.cisConnectionRequests ∨
      s.aclConnections[r.aclConnectionHandle]? = some .central := by
  cases he with
  | configured _ _ _ hconf =>
    rw [(configureCig_spec hconf).requests] at hr
    exact Or.inl hr
  | created hchk _ _ hstr =>
    obtain ⟨-, -, hall⟩ := checkCisRequests_ok hchk List.nodup_nil nofun
    exact Or.inr (hall r (List.mem_reverse.mp (hstr.requests_subset hr))).link
  | established _ _ _ _ hstr | failed _ _ _ hstr => exact Or.inl (hstr.requests_subset hr)
  | disconnected =>
    rw [endCis_requests] at hr
    exact Or.inl hr
  | linkLost => exact Or.inl (List.mem_of_mem_filter hr)
  | _ => exact Or.inl hr

/-- What holds of a manager with one ACL link, on which it has the given role. -/
structure Endpoint (a : UInt16) (role : Role) (s : IsoManager) : Prop where
  coherent : Coherent s
  queue : QueueOk s
  linked : LinkOk s
  link : ∀ (x : UInt16) r, s.aclConnections[x]? = some r ↔ x = a ∧ r = role
  requests : ∀ r ∈ s.cisConnectionRequests,
    s.aclConnections[r.aclConnectionHandle]? = some .central

end sides

section endpoint

variable {env : Env} {s s' : IsoManager} {out : List Output} {input : Input} {a h : UInt16}
  {role : Role} {c : Cis}

theorem endpoint_up : Endpoint a role (new.addAclConnection a role) where
  coherent := ⟨coherent_new.entry, coherent_new.configured, coherent_new.unique⟩
  queue := ⟨queueOk_new.queued, queueOk_new.nodup⟩
  linked := {
    entry := by
      intro k c hk
      cases hk
    queue := nofun }
  link x r := by
    show ((∅ : HashMap UInt16 Role).insert a role)[x]? = some r ↔ _
    by_cases hx : a = x
    · simp [hx, eq_comm]
    · simp [hx, Ne.symm hx]
  requests := nofun

/-- A CIS out of configuration is on the link. -/
theorem Endpoint.acl (hs : Endpoint a role s) (hc : s.cisConnections[h]? = some c)
    (hst : c.state ≠ .configuration) : c.aclConnectionHandle = some a := by
  obtain ⟨x, hx, hsome⟩ := (hs.linked.entry h c hc).known hst
  obtain ⟨r, hr⟩ := Option.isSome_iff_exists.mp hsome
  rw [hx, ((hs.link x r).mp hr).1]

/-- A request is on the link, and then this side is the Central. -/
theorem Endpoint.request_link (hs : Endpoint a role s) {r} (hr : r ∈ s.cisConnectionRequests) :
    r.aclConnectionHandle = a ∧ role = .central := by
  obtain ⟨hacl, hrl⟩ := (hs.link _ _).mp (hs.requests r hr)
  exact ⟨hacl, hrl.symm⟩

theorem Endpoint.no_requests (hs : Endpoint a .peripheral s) : s.cisConnectionRequests = [] := by
  apply List.eq_nil_iff_forall_not_mem.mpr
  intro r hr
  cases (hs.request_link hr).2

/-- An empty queue has nothing to lose. -/
theorem keepsQueued_of_empty (hemp : s.cisConnectionRequests = []) :
    s.keepsQueued (env, input) = true := by
  unfold keepsQueued
  rw [hemp]
  split <;> simp

/-- **One step keeps an endpoint**, whatever comes from its host or on the link. -/
theorem Endpoint.step (hs : Endpoint a role s) (hinput : onLink input = true)
    (hl : ∀ x packet, input = .llcp x packet → x = a)
    (hkeep : s.keepsQueued (env, input) = true) (he : Effect env s input s' out) :
    Endpoint a role s' := by
  have hacl := he.aclConnections_eq hinput
  have hkn : s.linksKnown (env, input) = true := by
    cases input with
    | llcp x packet =>
      rw [hl x packet rfl]
      show s.aclConnections.contains a = true
      rw [Std.ExtTreeMap.contains_eq_isSome_getElem?, (hs.link a role).mpr ⟨rfl, rfl⟩]
      rfl
    | hci => rfl
    | addAclConnection | removeAclConnection => cases hinput
  refine ⟨hs.coherent.step he, hs.queue.step hs.coherent hkeep he,
    hs.linked.step hs.coherent hs.queue hkn hkeep he, ?_, ?_⟩
  · rw [hacl]
    exact hs.link
  · intro r hr
    rw [hacl]
    rcases he.requests_subset hr with hr | hr
    · exact hs.requests r hr
    · exact hr

end endpoint

/-! ## The managers as parties of a handshake -/

/-- What identifies a CIS to the peer. -/
abbrev Ids := UInt8 × UInt8

/-- The identifiers of a CIS. -/
def ids (c : Cis) : Ids := (c.cigId, c.cisId)

/-- The CISes in a state. -/
def inState (s : IsoManager) (state : CisState) : Set Ids :=
  { i | ∃ (k : UInt16) (c : Cis), s.cisConnections[k]? = some c ∧ c.state = state ∧ ids c = i }

/-- The requests the host has not answered, by handle. -/
def offers (s : IsoManager) : Set (UInt16 × Ids) :=
  { x | ∃ c, s.cisConnections[x.1]? = some c ∧ c.state = .pendingAccept ∧ ids c = x.2 }

/-- The CISes of the peer that are accepted or connected, on the link. -/
def holds (b : UInt16) (s : IsoManager) : Set Ids :=
  { i | ∃ (k : UInt16) (c : Cis), s.cisConnections[k]? = some c ∧ c.role = .peripheral ∧
    c.aclConnectionHandle = some b ∧ (c.state = .pendingInd ∨ c.state = .connected) ∧ ids c = i }

end IsoManager

open Lib.Handshake in
/-- What a packet means to the handshake. -/
def msg? : LlcpPacket → Option (Msg IsoManager.Ids)
  | .cisReq q => some (.request (q.cigId, q.cisId))
  | .cisRsp _ => some .accept
  | .rejectExtInd q => if q.rejectOpcode = Opcode.llCisReq then some .refuse else none
  | .cisInd _ => some .confirm
  | .cisTerminateInd q => some (.terminate (q.cigId, q.cisId))

theorem msg?_reject {q} (hop : q.rejectOpcode = Opcode.llCisReq) :
    msg? (.rejectExtInd q) = some .refuse := if_pos hop

theorem msg?_other {q} (hop : q.rejectOpcode ≠ Opcode.llCisReq) : msg? (.rejectExtInd q) = none :=
  if_neg hop

theorem exists_cisReq {packet m} (hm : msg? packet = some m) (hreq : m.isRequest = true) :
    ∃ q, packet = .cisReq q := by
  cases packet with
  | cisReq q => exact ⟨q, rfl⟩
  | rejectExtInd q =>
    by_cases hop : q.rejectOpcode = Opcode.llCisReq
    · rw [msg?_reject hop] at hm
      cases hm
      cases hreq
    · rw [msg?_other hop] at hm
      cases hm
  | _ =>
    cases hm
    cases hreq

/-- What some outputs mean to the handshake. -/
def messages (a : UInt16) (out : List Output) : List (Handshake.Msg IsoManager.Ids) :=
  (Link.sentOn a out).filterMap msg?

/-- The link as a state of the handshake, with the Central as initiator. -/
def view (b : UInt16) (l : Link) : Handshake.State IsoManager.Ids UInt16 where
  pending := l.central.inState .pendingRsp
  connected := l.central.inState .connected
  offered := l.peripheral.offers
  held := l.peripheral.holds b
  toResponder := l.toPeripheral.filterMap msg?
  toInitiator := l.toCentral.filterMap msg?

section messages

variable {a : UInt16} {packet : LlcpPacket} {e : Event} {out out' : List Output} {es : List Event}

@[simp] theorem messages_nil : messages a [] = [] := rfl

@[simp] theorem messages_hci : messages a (.hci e :: out) = messages a out := rfl

@[simp] theorem messages_llcp :
    messages a (.llcp a packet :: out) = (msg? packet).toList ++ messages a out := by
  have hsent : Link.sentOn a (.llcp a packet :: out) = packet :: Link.sentOn a out := by
    simp [Link.sentOn]
  unfold messages
  rw [hsent, List.filterMap_cons]
  cases msg? packet <;> rfl

@[simp] theorem messages_append : messages a (out ++ out') = messages a out ++ messages a out' := by
  unfold messages Link.sentOn
  rw [List.filterMap_append, List.filterMap_append]

@[simp] theorem messages_events : messages a (es.map Output.hci) = [] := by
  induction es with
  | nil => rfl
  | cons _ _ ih => exact ih

end messages

end RootCanal.Iso
