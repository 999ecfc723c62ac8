import RootCanal.BrEdr.Registration

/-!
# What a step does to the synchronous connections

The handlers once more, for the table `sco_connections_` this time.

* `asks` is the peer with which an input creates a synchronous connection; nothing but a command of
  the host and a request of the peer does.
* `ScoEffect` lists what a step makes of the table, and whether an ACL connection goes with it.
  **`scoEffect_of_step`: whatever a step returns is one of them.**
-/

namespace RootCanal.BrEdr

open Lib RootCanal.Hci

/-- The input closes an ACL connection, or all of them. -/
def Action.closes : Action → Bool
  | .command (.disconnect _ _) | .command .reset | .checkExpiring _ .expired => true
  | .packet p =>
    match p.body with
    | .disconnect _ => true
    | _ => false
  | _ => false

variable {reason : UInt8}

/-- A disconnect packet closes. -/
theorem Action.closes_disconnect {p} (h : p.body = .disconnect reason) :
    (Action.packet p).closes = true := by
  obtain ⟨source, destination, body⟩ := p
  cases h
  rfl

/-- The packet is about a page or a role. -/
def Body.unsynchronous : Body → Bool
  | .disconnect _ | .scoConnectionRequest _ _ | .scoConnectionResponse _ _ | .scoDisconnect _ =>
    false
  | _ => true

namespace BrEdrController

/-- The peer with which the action creates a synchronous connection, unless one is pending.
Source: `AddScoConnection`,
`SetupSynchronousConnection`, `IncomingScoConnectionRequest` -/
def asks (s : BrEdrController) : Action → Option Address
  | .command (.addScoConnection handle _) | .command (.setupSynchronousConnection handle _ _) =>
    (s.aclConnections[handle]?).map AclConnection.address
  | .packet packet =>
    match packet.body with
    | .scoConnectionRequest _ _ =>
      if Reaches s.address packet then some packet.sourceAddress else none
    | _ => none
  | _ => none

/-- A synchronous connection with the peer, pending or opened. -/
def scoWith (s : BrEdrController) (peer : Address) : Option ScoConnection :=
  s.scoConnections.findBy ScoConnection.address peer

/-- No ACL connection is lost. -/
def LinksStay (s s' : BrEdrController) : Prop :=
  ∀ peer, s.connections.link peer ≠ none → s'.connections.link peer ≠ none

/-- What a step can do to the synchronous connections. -/
inductive ScoEffect (s : BrEdrController) (i : Input) (s' : BrEdrController) : Prop
  /-- They stay as they are. -/
  | kept : s'.scoConnections = s.scoConnections → LinksStay s s' → ScoEffect s i s'
  /-- The host or a peer asks for one. -/
  | asked {handle : UInt16} {c : ScoConnection} :
      c.address ∈ s.asks i.action → s.pendingScoConnection i.env c.address = none → c.Settled →
      s.scoConnections[handle]? = none → s'.scoConnections = s.scoConnections.insert handle c →
      LinksStay s s' → ScoEffect s i s'
  /-- One is opened. -/
  | opened {handle : UInt16} {c c' : ScoConnection} :
      s.scoConnections[handle]? = some c → c'.address = c.address → c'.state = .opened →
      s'.scoConnections = s.scoConnections.insert handle c' → LinksStay s s' → ScoEffect s i s'
  /-- One is erased. -/
  | erased {handle : UInt16} :
      s'.scoConnections = s.scoConnections.erase handle → LinksStay s s' → ScoEffect s i s'
  /-- An ACL connection is closed, and no synchronous connection with its peer is left. -/
  | closed {handle : UInt16} {connection : AclConnection} {lm : LinkManager} :
      s.aclConnections[handle]? = some connection →
      (s'.scoConnections = s.scoConnections ∨
        ∃ other : UInt16, s'.scoConnections = s.scoConnections.erase other) →
      s'.scoWith connection.address = none → s'.connections = s.connections.release handle lm →
      ScoEffect s i s'
  /-- The controller is reset. -/
  | reset : s'.scoConnections = ∅ → ScoEffect s i s'

variable {s s' s'' : BrEdrController} {i : Input} {env : Env} {out : List Output}

/-! ## Links that stay -/

/-- The links stay if the connections do. -/
theorem linksStay_of_connections (h : s'.connections = s.connections) : LinksStay s s' := by
  intro peer hl
  rwa [h]

/-- A quiet step leaves the links. -/
theorem Quiet.linksStay (h : Quiet s s') : LinksStay s s' := by
  obtain ⟨ts, hch, -⟩ := h
  exact linksStay_of_connections hch.connections

/-- A connection is made, and the others stay. -/
theorem establish_stays {k} (hk : Coherent k) {c lm}
    (hfree : k.acl[c.handle]? = none) (hn : k.link c.address = none) {peer}
    (hl : k.link peer ≠ none) :
    (k.establish c lm).link peer ≠ none := by
  rw [hk.link_establish hfree hn]
  split
  · nofun
  · exact hl

/-- A connection changes, but not its peer. -/
theorem modify_stays {k} (hk : Coherent k) {handle c f} (hf : ∀ x, (f x).address = x.address)
    (hacl : k.acl[handle]? = some c) {peer} (hl : k.link peer ≠ none) :
    ({ k with acl := k.acl.modify handle f } : Connections).link peer ≠ none := by
  rw [hk.link_modify hacl hf]
  split
  · nofun
  · exact hl

/-- Only a disconnection and a reset take a connection away. -/
theorem Effect.linksStay (he : Effect s i s' out) (hk : Coherent s.connections)
    (hi : i.action.closes = false) : LinksStay s s' := by
  intro peer hp
  have hr : ∀ {handle connection} (role : Role), s.aclConnections[handle]? = some connection →
      (s.connections.setRole handle role).link peer ≠ none := by
    intro handle connection role hacl
    exact modify_stays hk (f := fun c => { c with role := role }) (fun _ => rfl) hacl hp
  cases he with
  | quiet hq => exact hq.linksStay peer hp
  | noTask | sent | reported | refused | collided | rejected | masked | created | turnedDown
    | scanned => exact hp
  | @accepted _ scan try_ handle lm _ _ _ hl hfree _ _ hch =>
    rw [hch.connections]
    have hstays :=
        @establish_stays _ hk (s.newConnection handle scan.bdAddr (acceptorRole scan try_)) lm hfree
        hl
    exact hstays hp
  | paged _ _ hch | gaveUp _ _ hch =>
    rw [hch.connections]
    exact hp
  | connected _ _ _ hpage hbd hfree _ hch =>
    rw [hch.connections]
    exact establish_stays hk (c := s.newConnection ..) hfree (link_of_page hk hpage hbd) hp
  | released hcloses =>
    rcases hcloses with ⟨reason, hact⟩ | hact <;> rw [hact] at hi <;> cases hi
  | dropped hact _ hb =>
    rw [hact, Action.closes_disconnect hb] at hi
    cases hi
  | switched _ _ _ hacl _ _ hch | answered _ _ _ hacl _ _ hch =>
    rw [hch.connections]
    exact hr _ hacl
  | @policy _ settings _ _ hacl =>
    exact modify_stays hk (f := fun c => { c with linkPolicySettings := settings })
      (fun _ => rfl) hacl hp
  | reset hact =>
    rw [hact] at hi
    cases hi

/-- What the handlers of synchronous connections do. -/
theorem ScoStep.scoEffect (h : ScoStep s i.env (s.asks i.action) s') : ScoEffect s i s' := by
  have hstay := h.quiet.linksStay
  have htable := h.table
  generalize hsco : s'.scoConnections = table at htable
  cases htable with
  | kept => exact .kept hsco hstay
  | created hask hpend hset hfree => exact .asked hask hpend hset hfree hsco hstay
  | opened hc haddr hop => exact .opened hc haddr hop hsco hstay
  | erased => exact .erased hsco hstay

/-! ## Disconnection -/

section disconnection

variable {handle : UInt16}

/-- Events leave the table of synchronous connections. -/
theorem sco_scheduleEvent {code event} :
    (s.scheduleEvent code event).scoConnections = s.scoConnections :=
  scheduleEvent_tables.1

/-- At most one synchronous connection is closed. -/
theorem disconnectSco_sco (env : Env) (connection : AclConnection) (r r' : UInt8) :
    (s.disconnectSco env connection r r').scoConnections = s.scoConnections ∨ ∃ handle : UInt16,
        (s.disconnectSco env connection r r').scoConnections = s.scoConnections.erase handle := by
  unfold disconnectSco
  split
  · exact .inl rfl
  · rename_i handle _
    exact .inr ⟨handle, sco_scheduleEvent⟩

/-- The connection is erased, and its end is reported. -/
theorem scoEffect_removed {connection : AclConnection} {lm : LinkManager} {r : UInt8}
    {s₁ : BrEdrController} (hacl : s.aclConnections[handle]? = some connection)
    (hconn : s₁.connections = s.connections)
    (hsco : s₁.scoConnections = s.scoConnections ∨
      ∃ other : UInt16, s₁.scoConnections = s.scoConnections.erase other)
    (hn : s₁.getScoConnectionHandle env connection.address = none) :
    ScoEffect s i (sendDisconnectionCompleteEvent
      { s₁ with aclConnections := s₁.aclConnections.erase handle, lm := lm } handle r) := by
  unfold sendDisconnectionCompleteEvent
  rw [scheduleEvent_eq]
  refine .closed hacl hsco (HashMap.keyBy_eq_none.mp hn)
    (show _ = s.connections.release handle lm from ?_)
  rw [← hconn]
  rfl

/-- Disconnect. -/
theorem scoEffect_disconnect {r r' : UInt8} :
    Yields (s.disconnect i.env handle r r') fun x => ScoEffect s i x.1 := by
  unfold disconnect
  split
  · exact .ok (ScoStep.scoEffect ((ScoStep.remove.send rfl).event rfl))
  · split
    · exact .ok ScoStep.refl.scoEffect
    · rename_i connection hacl
      refine .seq removeAcl_ok ?_
      rintro _ ⟨lm, hn, -, rfl⟩
      obtain ⟨ts, hq, -⟩ := (scoStep_disconnectSco (a := none) i.env connection r r').quiet
      exact .ok (scoEffect_removed hacl hq.connections (disconnectSco_sco i.env connection r r') hn)

/-- The peer closes the connection. -/
theorem scoEffect_incomingDisconnect {peer : Address} :
    Yields (s.incomingDisconnect i.env peer reason) (ScoEffect s i) := by
  unfold incomingDisconnect
  split
  · exact .ok ScoStep.refl.scoEffect
  · rename_i handle hh
    obtain ⟨connection, hacl, rfl⟩ := link_of_handle hh
    refine .seq removeAcl_ok ?_
    rintro _ ⟨lm, hn, -, rfl⟩
    exact .ok (scoEffect_removed hacl rfl (.inl rfl) hn)

end disconnection

/-! ## Commands -/

/-- Accepting a page leaves the synchronous connections. -/
theorem sco_acceptPage {scan} {try_ : Bool} :
    Yields (s.acceptPage env scan try_) fun r => r.1.scoConnections = s.scoConnections :=
  .ite (fun _ => .ok rfl) fun _ => .seq createAcl_tables fun _ h =>
    .ok (scheduleAccepted_tables.1.trans h.1)

/-- Accept Connection Request. -/
theorem scoEffect_acceptConnectionRequest {bdAddr} {try_ : Bool}
    (hi : i.action = .command (.acceptConnectionRequest bdAddr try_))
    (hk : Coherent s.connections) :
    Yields (s.acceptConnectionRequest i.env bdAddr try_) fun r => ScoEffect s i r.1 := by
  intro r hr
  have hstay : LinksStay s r.1 := (effect_acceptConnectionRequest hi r hr).linksStay hk
      (by rw [hi]; rfl)
  revert hstay
  refine (?_ : Yields _ fun r => LinksStay s r.1 → ScoEffect s i r.1) r hr
  unfold acceptConnectionRequest
  split
  · exact fun r hr hstay => .kept (sco_acceptPage r hr) hstay
  · split
    · exact .ok (.kept rfl)
    · rename_i hpend
      exact .seq (scoStep_acceptSco i.env (mem_of_pendingSco hpend).1) fun _ h =>
        .ok fun _ => (h.event rfl).scoEffect

/-- What a command does to synchronous connections. -/
theorem scoEffect_command {c} (hi : i.action = .command c) (hk : Coherent s.connections) :
    Yields (s.command i.env c) fun r => ScoEffect s i r.1 := by
  have hoth : c.unsynchronous = true → (Action.command c).closes = false →
      Yields (s.command i.env c) fun r => ScoEffect s i r.1 := by
    intro hc hcloses r hr
    obtain ⟨r', hr', hsame⟩ := command_tables (s := s) i.env hc
    cases hr'.symm.trans hr
    exact .kept hsame.1 ((effect_command hi r hr).linksStay hk (hi ▸ hcloses))
  have hsco : ∀ {x : Except Panic (BrEdrController × ErrorCode)},
      Yields x (fun r => ScoStep s i.env (s.asks i.action) r.1) → Yields x fun r =>
        ScoEffect s i r.1 :=
    fun h r hr => (h r hr).scoEffect
  cases c with
  | disconnect => exact scoEffect_disconnect
  | acceptConnectionRequest => exact scoEffect_acceptConnectionRequest hi hk
  | addScoConnection | setupSynchronousConnection =>
    exact hsco (scoStep_requestSco (by rw [hi]; rfl))
  | acceptSynchronousConnection => exact hsco scoStep_acceptSynchronousConnection
  | rejectSynchronousConnection => exact hsco scoStep_rejectSynchronousConnection
  | reset => exact .ok (.reset rfl)
  | _ => exact hoth rfl rfl

/-! ## Packets -/

/-- The peer that asks is the sender. -/
theorem asks_request {packet parameters classOfDevice}
    (hb : packet.body = .scoConnectionRequest parameters classOfDevice)
    (hrch : Reaches s.address packet) :
    s.asks (.packet packet) = some packet.sourceAddress := by
  unfold asks
  simp only [hb, if_pos hrch]

/-- A packet that is not about synchronous connections leaves them. -/
theorem sco_receive {source destination body} (hb : body.unsynchronous = true) :
    Yields (s.receive env source destination body) fun r => r.1.scoConnections =
      s.scoConnections := by
  cases body with
  | page => exact .ok incomingPage_tables.1
  | pageResponse try_ =>
    change Yields (s.incomingPageResponse source try_) _
    unfold incomingPageResponse
    split
    · exact .ok rfl
    · exact .seq createAcl_tables fun _ h => .ok h.1
  | pageReject =>
    refine .ok ?_
    unfold incomingPageReject
    split_ifs <;> rfl
  | roleSwitchRequest =>
    refine .ok ?_
    unfold incomingRoleSwitchRequest
    split
    · rfl
    · split
      · rfl
      · split_ifs
        · rfl
        · exact sco_scheduleEvent
  | roleSwitchResponse =>
    refine .ok ?_
    unfold incomingRoleSwitchResponse
    split
    · rfl
    · split
      · rfl
      · exact sco_scheduleEvent
  | pingRequest | pingResponse => exact .ok rfl
  | disconnect | scoConnectionRequest | scoConnectionResponse | scoDisconnect => cases hb

/-- What a packet does to synchronous connections. -/
theorem scoEffect_packet {packet} (hi : i.action = .packet packet) (hk : Coherent s.connections) :
    Yields (machine.step s ⟨i.env, .packet packet⟩) fun r => ScoEffect s i r.1 := by
  have he := effect_packet (s := s) hi
  by_cases hrch : Reaches s.address packet
  · rw [step_reaching i.env hrch] at he ⊢
    obtain ⟨source, destination, body⟩ := packet
    have hoth : body.unsynchronous = true →
        (Action.packet ⟨source, destination, body⟩).closes = false →
        Yields (s.receive i.env source destination body) fun r => ScoEffect s i r.1 :=
      fun hb hcloses r hr => .kept (sco_receive hb r hr) ((he r hr).linksStay hk (hi ▸ hcloses))
    cases body with
    | disconnect => exact .seq scoEffect_incomingDisconnect fun _ h => .ok h
    | scoConnectionRequest =>
      refine fun r hr => (scoStep_incomingScoConnectionRequest ?_ r hr).1.scoEffect
      rw [hi, asks_request rfl hrch]
      rfl
    | scoConnectionResponse =>
      exact fun r hr => (scoStep_incomingScoConnectionResponse r hr).1.scoEffect
    | scoDisconnect => exact .ok scoStep_incomingScoDisconnect.scoEffect
    | _ => exact hoth rfl rfl
  · rw [step_dropped i.env hrch]
    exact .ok ScoStep.refl.scoEffect

/-! ## Every step -/

/-- **Whatever a step makes of the synchronous connections is one of the effects.** -/
theorem scoEffect_of_step (hk : Coherent s.connections) (h : machine.step s i = .ok (s', out)) :
    ScoEffect s i s' := by
  have he := effect_of_step h
  revert he
  refine (?_ : Yields (s.step i) fun r => Effect s i r.1 r.2 → ScoEffect s i r.1) _ h
  unfold step
  split
  · rename_i hi
    exact .seq (scoEffect_command hi hk) fun _ h => .ok fun _ => h
  · rename_i hi
    exact fun r hr _ => scoEffect_packet hi hk r hr
  · rename_i hi
    exact .ok fun he => .kept runTask_tables.1 (he.linksStay hk (by rw [hi]; rfl))
  · rename_i hi
    exact .ok fun he => .kept paging_tables.1 (he.linksStay hk (by rw [hi]; rfl))
  · refine .seq (Q := ScoEffect s i) ?_ fun _ h => .ok fun _ => h
    unfold checkExpiringConnection
    split
    · exact .ok ScoStep.refl.scoEffect
    · split
      · exact .seq scoEffect_disconnect fun _ h => .ok h
      · exact .ok (.kept rfl fun _ hl => hl)
      · exact .ok ScoStep.refl.scoEffect

end BrEdrController

end RootCanal.BrEdr
