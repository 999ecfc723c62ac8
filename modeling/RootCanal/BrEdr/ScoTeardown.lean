import RootCanal.BrEdr.LinkAgreement
import RootCanal.BrEdr.ScoTables

/-!
# Closing connections under synchronous connections

`AclConnectionHandler::Disconnect` asserts that no synchronous connection with the peer is left, and
the destructor of a synchronous connection that it does not stream.  `Disconnect` of
`BrEdrController` removes the synchronous connection first; `IncomingDisconnectPacket` does not, and
relies on the peer having sent its own disconnection of it.  The peer only does so if it has the
connection: a request that is still in flight when the ACL connection is closed leaves the sender
with a pending connection, and it aborts when the disconnection arrives (`crossed_request_aborts`).

**`spared_iff`: for two controllers and any interleaving of their hosts and channels, no assertion
fails exactly when every disconnection and every answer finds the synchronous connections as
`Pair.Spares` asks.**

Source: `acl_connection_handler.cc` `Disconnect`, `sco_connection.h`
`ScoConnection::~ScoConnection`, `bredr_controller.cc` `IncomingDisconnectPacket`
-/

namespace RootCanal.BrEdr

open Lib RootCanal.Hci

namespace BrEdrController

/-! ## The assertions of the tables -/

variable {s s' : BrEdrController} {i : Input} {env : Env} {handle : UInt16} {out : List Output}

/-- The search for an unused handle asserts nothing. -/
theorem getUnusedHandle_ne_assertion {α : Type} {m : HashMap UInt16 α}
    {rangeStart rangeEnd last : UInt16} :
    ConnectionHandle.getUnusedHandle m rangeStart rangeEnd last ≠ .error .assertion := by
  intro h
  cases ConnectionHandle.search_error h

variable {c : ScoConnection}

/-- A connection is opened unless it already streams. -/
theorem openSco_ne_assertion_iff {link} :
    s.openScoConnection handle c link ≠ .error .assertion ↔ c.streaming = false := by
  unfold openScoConnection
  simp [bind_ne_error_iff, assert_ne_assertion_iff]

/-- A connection is cancelled unless it already streams. -/
theorem cancelSco_ne_assertion_iff :
    s.cancelScoConnection handle c ≠ .error .assertion ↔ c.streaming = false := by
  unfold cancelScoConnection
  simp [bind_ne_error_iff, assert_ne_assertion_iff]

variable {parameters : ScoConnectionParameters} {bdAddr : Address}

/-- A new synchronous connection asserts nothing. -/
theorem createSco_ne_assertion {state : ScoState} {datapath : ScoDatapath} {legacy : Bool} :
    s.createScoConnection bdAddr parameters state datapath legacy ≠ .error .assertion := by
  exact map_ne_error_iff.mpr getUnusedHandle_ne_assertion

/-- A new ACL connection fails no assertion while a link is free. -/
theorem createAcl_ne_assertion {role : Role} (hfree : Address.kEmpty ∈ s.lm.peers) :
    s.createAclConnection bdAddr role ≠ .error .assertion := by
  have hadd : s.lm.addLink bdAddr ≠ none := fun hn => LinkManager.replace_eq_none.mp hn hfree
  unfold createAclConnection
  rw [bind_ne_error_iff]
  exact ⟨getUnusedHandle_ne_assertion, fun _ _ =>
    map_ne_error_iff.mpr (assertSome_ne_assertion_iff.mpr hadd)⟩

/-- The end of an ACL connection asserts that it carries no synchronous one. -/
theorem removeAcl_ne_assertion_iff (hmem : bdAddr ∈ s.lm.peers) :
    s.removeAclConnection env handle bdAddr ≠ .error .assertion ↔ s.scoWith bdAddr = none := by
  have hremove : s.lm.removeLink bdAddr ≠ none := fun hn => LinkManager.replace_eq_none.mp hn hmem
  unfold removeAclConnection
  rw [bind_ne_error_iff, assert_ne_assertion_iff, Option.isNone_iff_eq_none]
  constructor
  · rintro ⟨h, -⟩
    exact HashMap.keyBy_eq_none.mp h
  · intro h
    exact ⟨HashMap.keyBy_eq_none.mpr h, fun _ _ =>
      map_ne_error_iff.mpr (assertSome_ne_assertion_iff.mpr hremove)⟩

/-! ## What each step asserts -/

/-- What the assertions of a step ask of the synchronous connections: an ACL connection is closed by
the host with one of them at most, and by the peer with none; an answer finds one that does not
stream. -/
def Spares (s : BrEdrController) (i : Input) : Prop :=
  match i.action with
  | .command (.disconnect handle _) | .checkExpiring handle .expired =>
    s.scoConnections[handle]? = none → ∀ c ∈ s.aclConnections[handle]?,
      s.scoConnections.SoleBy ScoConnection.address c.address
  | .packet packet => Reaches s.address packet →
      match packet.body with
      | .disconnect _ =>
        s.connections.link packet.sourceAddress ≠ none → s.scoWith packet.sourceAddress = none
      | .scoConnectionResponse _ _ =>
        ∀ c ∈ s.getScoConnection i.env packet.sourceAddress, c.2.streaming = false
      | _ => True
  | _ => True

instance Spares.decidable (s : BrEdrController) (i : Input) : Decidable (Spares s i) :=
  match i with
  | ⟨_, .checkExpiring _ .expired⟩ =>
    inferInstanceAs (Decidable (_ = none → ∀ c ∈ _, HashMap.SoleBy ..))
  | ⟨_, .packet ⟨_, _, body⟩⟩ =>
    match body with
    | .disconnect _ => inferInstanceAs (Decidable (Reaches _ _ → _ ≠ none → _ = none))
    | .scoConnectionResponse _ _ => inferInstanceAs (Decidable (Reaches _ _ → ∀ c ∈ _, _ = false))
    | .page _ _ | .pageResponse _ | .pageReject _ | .roleSwitchRequest | .roleSwitchResponse _
    | .scoConnectionRequest _ _ | .scoDisconnect _ | .pingRequest | .pingResponse =>
      isTrue fun _ => trivial
  | ⟨_, .task⟩ | ⟨_, .paging⟩ | ⟨_, .checkExpiring _ .nearExpiring⟩ | ⟨_, .checkExpiring _ .live⟩ =>
    isTrue trivial
  | ⟨_, .command c⟩ =>
    match c with
    | .disconnect _ _ => inferInstanceAs (Decidable (_ = none → ∀ c ∈ _, HashMap.SoleBy ..))
    | .createConnection _ _ | .createConnectionCancel _ | .acceptConnectionRequest _ _
    | .rejectConnectionRequest _ _ | .addScoConnection _ _ | .setupSynchronousConnection _ _ _
    | .acceptSynchronousConnection _ _ | .rejectSynchronousConnection _ _ | .switchRole _ _
    | .writeLinkPolicySettings _ _ | .writeDefaultLinkPolicySettings _ | .writeScanEnable _
    | .setEventMask _ | .setClassOfDevice _ | .setPageTimeout _ | .reset => isTrue trivial

/-- What the other assertions ask: each connection has a link, one that is made finds a free link,
and nothing pending streams. -/
structure Asserts (s : BrEdrController) : Prop where
  registered : ∀ (handle : UInt16) c, s.aclConnections[handle]? = some c → c.address ∈ s.lm.peers
  free : ∀ action, s.establishes action = true → Address.kEmpty ∈ s.lm.peers
  settled : s.scoConnections.Every ScoConnection.Settled

/-- A synchronous connection that is pending may be opened or erased. -/
theorem acceptSco_ne_assertion {failure} (hc : c.streaming = false) :
    s.acceptSco handle c parameters failure ≠ .error .assertion := by
  refine map_ne_error_iff.mpr ?_
  unfold concludeSco
  split
  · exact map_ne_error_iff.mpr (cancelSco_ne_assertion_iff.mpr hc)
  · exact map_ne_error_iff.mpr (openSco_ne_assertion_iff.mpr hc)

/-- The request for a synchronous connection asserts nothing. -/
theorem requestSco_ne_assertion {datapath} {legacy : Bool} :
    s.requestSco env handle parameters datapath legacy ≠ .error .assertion := by
  unfold requestSco
  split
  · nofun
  · split
    · nofun
    · exact map_ne_error_iff.mpr createSco_ne_assertion

/-- The peer's request asserts nothing. -/
theorem incomingScoConnectionRequest_ne_assertion {peer classOfDevice} :
    s.incomingScoConnectionRequest env peer parameters classOfDevice ≠ .error .assertion := by
  unfold incomingScoConnectionRequest
  split
  · nofun
  · exact map_ne_error_iff.mpr createSco_ne_assertion

/-- The peer's answer is fine unless the connection streams. -/
theorem incomingScoConnectionResponse_ne_assertion_iff {peer status link} :
    s.incomingScoConnectionResponse env peer status link ≠ .error .assertion ↔
      ∀ c ∈ s.getScoConnection env peer, c.2.streaming = false := by
  unfold incomingScoConnectionResponse
  cases hsome : s.getScoConnection env peer with
  | none =>
    refine iff_of_true nofun ?_
    intro c hc
    cases hc
  | some found =>
    obtain ⟨handle, connection⟩ := found
    have hiff : (∀ c ∈ some (handle, connection), c.2.streaming = false) ↔
        connection.streaming = false := by simp
    rw [hiff]
    dsimp only
    split
    · exact map_ne_error_iff.trans openSco_ne_assertion_iff
    · exact map_ne_error_iff.trans cancelSco_ne_assertion_iff

section asserts

variable (hs : Asserts s)
include hs

/-- The host closes an ACL connection. -/
theorem disconnect_ne_assertion_iff {r r'} : s.disconnect env handle r r' ≠ .error .assertion ↔
      (s.scoConnections[handle]? = none → ∀ c ∈ s.aclConnections[handle]?,
        s.scoConnections.SoleBy ScoConnection.address c.address) := by
  unfold disconnect
  cases hsco : s.scoConnections[handle]? with
  | some => exact iff_of_true nofun nofun
  | none =>
    cases hacl : s.aclConnections[handle]? with
    | none =>
      refine iff_of_true nofun ?_
      intro _ c hc
      cases hc
    | some connection =>
      have hmem := hs.registered handle connection hacl
      -- the synchronous connection that is found is removed first
      have hsole : (s.disconnectSco env connection r r').scoWith connection.address = none ↔
          s.scoConnections.SoleBy ScoConnection.address connection.address := by
        unfold disconnectSco
        cases hkey : s.getScoConnectionHandle env connection.address with
        | none =>
          have hn := HashMap.keyBy_eq_none.mp hkey
          exact iff_of_true hn (HashMap.soleBy_of_none hn)
        | some =>
          rw [HashMap.soleBy_iff_erase hkey]
          exact Eq.congr_left (congrArg (HashMap.findBy · _ _) sco_scheduleEvent)
      have hlm : (s.disconnectSco env connection r r').lm = s.lm := by
        obtain ⟨ts, hq, -⟩ := (scoStep_disconnectSco (s := s) (a := none) env connection r r').quiet
        exact congrArg Connections.lm hq.connections
      refine map_ne_error_iff.trans ((removeAcl_ne_assertion_iff ?_).trans (hsole.trans ?_))
      · change connection.address ∈ (s.disconnectSco env connection r r').lm.peers
        rw [hlm]
        exact hmem
      · simp

/-- The peer closes an ACL connection. -/
theorem incomingDisconnect_ne_assertion_iff {peer reason} :
    s.incomingDisconnect env peer reason ≠ .error .assertion ↔
      (s.connections.link peer ≠ none → s.scoWith peer = none) := by
  unfold incomingDisconnect
  cases hkey : s.getAclConnectionHandle env peer with
  | none =>
    exact iff_of_true nofun fun hsome => absurd (link_eq_none.mp hkey) hsome
  | some handle =>
    obtain ⟨connection, hacl, rfl⟩ := link_of_handle hkey
    have hl : s.connections.link connection.address ≠ none := by
      intro hn
      rw [link_eq_none.mpr hn] at hkey
      cases hkey
    refine map_ne_error_iff.trans
      ((removeAcl_ne_assertion_iff (hs.registered handle connection hacl)).trans ?_)
    exact ⟨fun h _ => h, fun h => h hl⟩

/-- A pending connection does not stream. -/
theorem Asserts.pending (h : s.pendingScoConnection env bdAddr = some (handle, c)) :
    c.streaming = false := by
  obtain ⟨hsco, -, hpend⟩ := mem_of_pendingSco h
  exact hs.settled handle c hsco hpend

/-- Accepting the page that waits. -/
theorem acceptPage_ne_assertion {scan} {try_ : Bool}
    (hscan : s.connections.scanFor scan.bdAddr = some scan) :
    s.acceptPage env scan try_ ≠ .error .assertion := by
  unfold acceptPage
  dsimp only
  split
  · nofun
  · rename_i hl
    have hn := link_eq_none.mp (Option.not_isSome_iff_eq_none.mp hl)
    refine map_ne_error_iff.mpr
      (createAcl_ne_assertion (hs.free (.command (.acceptConnectionRequest scan.bdAddr try_)) ?_))
    rw [establishes_accept, hscan, hn]
    rfl

/-- Accept Connection Request. -/
theorem acceptConnectionRequest_ne_assertion {try_ : Bool} :
    s.acceptConnectionRequest env bdAddr try_ ≠ .error .assertion := by
  unfold acceptConnectionRequest
  split
  · rename_i scan hfil
    obtain rfl : scan.bdAddr = bdAddr := of_decide_eq_true (Option.filter_eq_some_iff.mp hfil).2
    exact acceptPage_ne_assertion hs hfil
  · split
    · nofun
    · rename_i handle c hpend
      exact map_ne_error_iff.mpr (acceptSco_ne_assertion (hs.pending hpend))

/-- Accept Synchronous Connection. -/
theorem acceptSynchronousConnection_ne_assertion :
    s.acceptSynchronousConnection env bdAddr parameters ≠ .error .assertion := by
  unfold acceptSynchronousConnection
  split
  · nofun
  · rename_i handle c hpend
    exact map_ne_error_iff.mpr (acceptSco_ne_assertion (hs.pending hpend))

/-- Reject Synchronous Connection. -/
theorem rejectSynchronousConnection_ne_assertion {reason} :
    s.rejectSynchronousConnection env bdAddr reason ≠ .error .assertion := by
  unfold rejectSynchronousConnection
  dsimp only
  split
  · nofun
  · rename_i handle c hpend
    exact map_ne_error_iff.mpr (cancelSco_ne_assertion_iff.mpr (hs.pending hpend))

/-- **Which commands fail an assertion**. -/
theorem command_ne_assertion_iff {c} :
    s.command env c ≠ .error .assertion ↔ Spares s ⟨env, .command c⟩ := by
  cases c with
  | disconnect => exact disconnect_ne_assertion_iff hs
  | acceptConnectionRequest => exact iff_of_true (acceptConnectionRequest_ne_assertion hs) trivial
  | addScoConnection | setupSynchronousConnection =>
    exact iff_of_true requestSco_ne_assertion trivial
  | acceptSynchronousConnection =>
    exact iff_of_true (acceptSynchronousConnection_ne_assertion hs) trivial
  | rejectSynchronousConnection =>
    exact iff_of_true (rejectSynchronousConnection_ne_assertion hs) trivial
  | _ => exact iff_of_true nofun trivial

/-! ## Packets -/

/-- The answer to a page. -/
theorem incomingPageResponse_ne_assertion {packet} {try_ : Bool}
    (hrch : Reaches s.address packet) (hb : packet.body = .pageResponse try_) :
    s.incomingPageResponse packet.sourceAddress try_ ≠ .error .assertion := by
  unfold incomingPageResponse
  split
  · nofun
  · rename_i page hpage
    have hfor : s.connections.pageFor packet.sourceAddress = some page := hpage
    refine map_ne_error_iff.mpr (createAcl_ne_assertion (hs.free (.packet packet) ?_))
    rw [establishes_response hb, hfor, decide_eq_true hrch]
    rfl

/-- **Which packets fail an assertion**. -/
theorem packet_ne_assertion_iff {packet} :
    machine.step s ⟨env, .packet packet⟩ ≠ .error .assertion ↔ Spares s ⟨env, .packet packet⟩ := by
  by_cases hrch : Reaches s.address packet
  · rw [step_reaching env hrch]
    have hsp : Spares s ⟨env, .packet packet⟩ ↔ match packet.body with
        | .disconnect _ =>
          s.connections.link packet.sourceAddress ≠ none → s.scoWith packet.sourceAddress = none
        | .scoConnectionResponse _ _ =>
          ∀ c ∈ s.getScoConnection env packet.sourceAddress, c.2.streaming = false
        | _ => True := ⟨fun h => h hrch, fun h _ => h⟩
    rw [hsp]
    cases hb : packet.body with
    | pageResponse => exact iff_of_true (incomingPageResponse_ne_assertion hs hrch hb) trivial
    | disconnect => exact map_ne_error_iff.trans (incomingDisconnect_ne_assertion_iff hs)
    | scoConnectionRequest =>
      exact iff_of_true incomingScoConnectionRequest_ne_assertion trivial
    | scoConnectionResponse => exact incomingScoConnectionResponse_ne_assertion_iff
    | _ => exact iff_of_true nofun trivial
  · rw [step_dropped env hrch]
    exact iff_of_true nofun fun hrch' => absurd hrch' hrch

/-- **One step fails an assertion exactly when it does not find the synchronous connections as it
asks.** -/
theorem step_spares_iff : machine.step s i ≠ .error .assertion ↔ Spares s i := by
  obtain ⟨env, action⟩ := i
  cases action with
  | command => exact map_ne_error_iff.trans (command_ne_assertion_iff hs)
  | packet => exact packet_ne_assertion_iff hs
  | task | paging => exact iff_of_true nofun trivial
  | checkExpiring handle expiry =>
    refine map_ne_error_iff.trans ?_
    unfold checkExpiringConnection
    cases hacl : s.aclConnections[handle]? with
    | none =>
      refine iff_of_true nofun ?_
      cases expiry with
      | expired =>
        intro _ c hc
        rw [hacl] at hc
        cases hc
      | nearExpiring | live => exact trivial
    | some =>
      cases expiry with
      | expired => exact map_ne_error_iff.trans (disconnect_ne_assertion_iff hs)
      | nearExpiring | live => exact iff_of_true nofun trivial

end asserts

/-! ## What the other assertions ask -/

/-- A controller that faces one peer has a free link. -/
theorem kEmpty_mem_of_facing {k own peer} (hf : Facing k own peer) :
    Address.kEmpty ∈ k.lm.peers := by
  by_contra hfull
  have hall : ∀ p ∈ k.lm.peers, peer = p := by
    intro p hp
    have hne : p ≠ Address.kEmpty := fun heq => hfull (heq ▸ hp)
    have hcnt := hf.coherent.registered p hne
    cases hl : k.link p with
    | none =>
      rw [hl] at hcnt
      exact absurd hp (List.count_eq_zero.mp hcnt)
    | some c =>
      obtain ⟨⟨handle, hacl⟩, hbd⟩ := HashMap.mem_of_findBy hl
      exact (hf.links handle c hacl).1.symm.trans hbd
  -- every link would be with the peer, which has one at most
  have hcnt := List.count_eq_length.mpr hall
  have hmem : peer ∈ k.lm.peers := List.count_pos_iff.mp (by rw [hcnt, k.lm.length_peers]; decide)
  have hone := hf.coherent.registered peer fun heq => hfull (heq ▸ hmem)
  rw [hcnt, k.lm.length_peers] at hone
  split at hone <;> cases hone

/-- A controller with one peer meets what the handlers assert. -/
theorem asserts_of_facing {own peer} (hf : Facing s.connections own peer)
    (hs : s.scoConnections.Every ScoConnection.Settled) : Asserts s where
  registered := by
    intro handle c hacl
    by_cases hp : c.address = Address.kEmpty
    · rw [hp]
      exact kEmpty_mem_of_facing hf
    · have hcnt := hf.coherent.registered c.address hp
      rw [hf.coherent.link_of_mem hacl] at hcnt
      exact List.count_pos_iff.mp (hcnt ▸ Nat.one_pos)
  free := fun _ _ => kEmpty_mem_of_facing hf
  settled := hs

/-- Nothing that is pending streams, whatever a step does. -/
theorem ScoEffect.settled (he : ScoEffect s i s')
    (hs : s.scoConnections.Every ScoConnection.Settled) :
    s'.scoConnections.Every ScoConnection.Settled := by
  cases he with
  | kept hsco => rwa [hsco]
  | asked _ _ hset _ hsco =>
    rw [hsco]
    exact hs.insert hset
  | opened _ _ hop hsco =>
    rw [hsco]
    refine hs.insert fun hpend => ?_
    simp [ScoConnection.isPending, hop] at hpend
  | erased hsco =>
    rw [hsco]
    exact hs.erase
  | closed _ hsco =>
    rcases hsco with hsco | ⟨other, hsco⟩
    · rwa [hsco]
    · rw [hsco]
      exact hs.erase
  | reset hsco =>
    rw [hsco]
    exact HashMap.every_empty

end BrEdrController

/-! ## Two controllers -/

namespace Pair

open BrEdrController

/-- What the assertions of a step of the pair ask. -/
def Spares (s : Pair) : Duplex.Input Input Env → Prop
  | .act x i => (s.node x).Spares i
  | .deliver x env => ∀ packet ∈ (s.inbox x).head?, (s.node x).Spares ⟨env, .packet packet⟩

/-- Each side faces the other, and nothing that is pending streams. -/
structure Streams (s : Pair) : Prop where
  faced : Faced s
  settled : ∀ x, (s.node x).scoConnections.Every ScoConnection.Settled

variable {s s' : Pair} {i : Duplex.Input Input Env} {outs : List (Side × Output)}

/-- Nothing streams at the start. -/
theorem Streams.start (own : Side → Address) : Streams (start own) :=
  ⟨Faced.start own, fun _ => HashMap.every_empty⟩

/-- Both sides meet what their handlers assert. -/
theorem Streams.asserts (hs : Streams s) (x : Side) : Asserts (s.node x) :=
  asserts_of_facing (hs.faced.facing x) (hs.settled x)

/-- A step of the pair keeps it. -/
theorem Streams.step (hs : Streams s) (hi : Unreset i) (h : pair.step s i = .ok (s', outs)) :
    Streams s' := by
  refine ⟨hs.faced.step hi h, ?_⟩
  -- only the side that takes the step changes
  have hact : ∀ {x : Side} {t : Pair} {j : Input} {v : BrEdrController} {out : List Output}
      {ps : List Packet}, t.node = s.node → machine.step (s.node x) j = .ok (v, out) →
      ∀ y, ((t.act x v ps).node y).scoConnections.Every ScoConnection.Settled := by
    intro x t j v out ps ht hstep
    refine (Side.forall_iff x).mpr ⟨?_, ?_⟩
    · rw [Duplex.State.act_node_self]
      exact (scoEffect_of_step (hs.faced.facing x).coherent hstep).settled (hs.settled x)
    · rw [Duplex.State.act_node_other, ht]
      exact hs.settled x.other
  cases Duplex.steps_of_step h with
  | act hstep | deliver _ hstep => exact hact rfl hstep
  | idle => exact hs.settled

/-- **Which steps of the pair fail an assertion**. -/
theorem pair_spares_iff (hs : Streams s) : pair.step s i ≠ .error .assertion ↔ s.Spares i := by
  cases i with
  | act x => exact Duplex.act_ne_error_iff.trans (step_spares_iff (hs.asserts x))
  | deliver x =>
    refine Duplex.deliver_ne_error_iff.trans ?_
    exact forall₂_congr fun packet _ => step_spares_iff (hs.asserts x)

/-- **No assertion of either controller fails, whatever the hosts do and in whatever order packets
arrive, exactly when each step finds the synchronous connections as it asks.** -/
theorem spared_iff (own : Side → Address) (is : List (Duplex.Input Input Env))
    (his : ∀ i ∈ is, Unreset i) : pair.exec (start own) is ≠ .error .assertion ↔
    pair.Meets Spares (start own) is :=
  Machine.exec_avoids_iff (P := Streams) (fun _ _ hs _ => pair_spares_iff hs)
    (fun _ _ _ _ hs hi h => hs.step hi h) (Streams.start own) his

instance Spares.decidable (s : Pair) (i : Duplex.Input Input Env) : Decidable (s.Spares i) :=
  match i with
  | .act _ _ => BrEdrController.Spares.decidable _ _
  | .deliver x _ => @Option.decidableForallMem _ _ (fun _ => BrEdrController.Spares.decidable _ _)
      (s.inbox x).head?

/-- The two have an ACL connection, and nothing is in flight. -/
def linksUp : List (Duplex.Input Input Env) :=
  leftPages ++ .act .right (hostAccepts pageTime 1) :: runsTasks .right 2 ++
    [.deliver .left pageTime]

/-- The left side asks for a voice connection, which the right side opens and then closes with the
ACL connection. -/
def opensAndCloses : List (Duplex.Input Input Env) :=
  .act .left (hostSetsUp pageTime 0 .spoofed) :: runsTasks .left 1 ++ [.deliver .right pageTime,
    .act .right ⟨pageTime, .command (.acceptSynchronousConnection 1 voice)⟩] ++
      runsTasks .right 2 ++
  [.deliver .left pageTime, .act .right (hostDisconnects pageTime 0)] ++ runsTasks .right 4 ++
  [.deliver .left pageTime, .deliver .left pageTime]

theorem spared_iff_opened_and_closed :
    pair.exec (start oneAndTwo) (linksUp ++ opensAndCloses) ≠ .error .assertion :=
  (spared_iff oneAndTwo (linksUp ++ opensAndCloses) (by decide)).mpr (by decide +kernel)

/-- The ACL connection is closed while the request for a synchronous connection is in flight: the
side that sent the request aborts. -/
theorem crossed_request_aborts :
    pair.exec (start oneAndTwo) (linksUp ++ [.act .left (hostSetsUp pageTime 0 .normal),
      .act .right (hostDisconnects pageTime 0)] ++ runsTasks .right 1 ++
        [.deliver .left pageTime]) = .error .assertion := by
  decide +kernel

end Pair

end RootCanal.BrEdr
