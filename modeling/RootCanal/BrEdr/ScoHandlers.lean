import RootCanal.BrEdr.Handlers

/-!
# What the handlers of synchronous connections do

* `ScoChange` lists what becomes of the table `sco_connections_`.
* `ScoStep`: **nothing but this table changes, and no task that is scheduled concerns an ACL
  connection.**

A synchronous connection that is opened may be opened again, and one that is erased need not be
pending: `ScoChange` says no more than the source does about the state an entry was in.
-/

namespace RootCanal.BrEdr

open Lib RootCanal.Hci

/-- The event neither asks for an ACL connection nor reports one. -/
def Event.synchronous : Event → Bool
  | .connectionRequest _ _ .acl | .connectionComplete _ _ _ .acl => false
  | _ => true

/-- The output is about a synchronous connection. -/
def Output.synchronous : Output → Bool
  | .event e => e.synchronous
  | _ => false

/-- The task is about a synchronous connection, or reports the end of a connection. -/
def Task.synchronous : Task → Bool
  | .send ⟨_, _, .scoConnectionRequest _ _⟩ | .send ⟨_, _, .scoConnectionResponse _ _⟩
  | .send ⟨_, _, .scoDisconnect _⟩ => true
  | .event e => e.synchronous
  | _ => false

/-- The command is not about synchronous connections, and closes none. -/
def Command.unsynchronous : Command → Bool
  | .createConnection _ _ | .createConnectionCancel _ | .rejectConnectionRequest _ _
  | .switchRole _ _ | .writeLinkPolicySettings _ _ | .writeDefaultLinkPolicySettings _
  | .writeScanEnable _ | .setEventMask _ | .setClassOfDevice _ | .setPageTimeout _ => true
  | _ => false

/-- The pending connection is not yet streaming. -/
def ScoConnection.Settled (c : ScoConnection) : Prop := c.isPending = true → c.streaming = false

/-- The connection once it is opened. -/
def BrEdrController.openedSco (connection : ScoConnection) (link : ScoLinkParameters) :
    ScoConnection :=
  { connection with
    linkParameters := link
    state := .opened
    streaming := connection.datapath = .spoofed }

theorem synchronous_complete {status handle bdAddr link} :
    (synchronousConnectionComplete status handle bdAddr link).synchronous = true := by
  unfold synchronousConnectionComplete
  split <;> rfl

namespace BrEdrController

variable {s s' : BrEdrController} {env : Env} {a : Option Address} {handle : UInt16}
  {bdAddr : Address}
  {connection : ScoConnection} {parameters : ScoConnectionParameters} {link : ScoLinkParameters}
  {datapath : ScoDatapath} {legacy : Bool} {reason : UInt8}

/-- What becomes of the table; one is only created with the peer that asks or is asked. -/
inductive ScoChange (s : BrEdrController) (env : Env) (a : Option Address) :
    HashMap UInt16 ScoConnection → Prop
  | kept : ScoChange s env a s.scoConnections
  | created {handle : UInt16} {c : ScoConnection} :
      c.address ∈ a → s.pendingScoConnection env c.address = none → c.Settled →
      s.scoConnections[handle]? = none → ScoChange s env a (s.scoConnections.insert handle c)
  | opened {handle : UInt16} {c c' : ScoConnection} :
      s.scoConnections[handle]? = some c → c'.address = c.address → c'.state = .opened →
      ScoChange s env a (s.scoConnections.insert handle c')
  | erased {handle : UInt16} : ScoChange s env a (s.scoConnections.erase handle)

/-- The table changes, and tasks about synchronous connections are scheduled. -/
structure ScoStep (s : BrEdrController) (env : Env) (a : Option Address) (s' : BrEdrController) :
    Prop where
  same : ∃ table last ts, s' = { s with
    scoConnections := table, lastScoHandle := last, tasks := s.tasks ++ ts } ∧
      ∀ t ∈ ts, t.synchronous
  table : ScoChange s env a s'.scoConnections

namespace ScoStep

/-- One change of the table, and nothing else. -/
theorem of_change {table last} (h : ScoChange s env a table) :
    ScoStep s env a { s with scoConnections := table, lastScoHandle := last } :=
  ⟨⟨table, last, [], by rw [List.append_nil], nofun⟩, h⟩

theorem refl : ScoStep s env a s := of_change .kept

/-- A connection is removed. -/
theorem remove : ScoStep s env a (s.removeScoConnection handle) := of_change .erased

/-- A task of synchronous connections is scheduled. -/
theorem schedule {t} (h : ScoStep s env a s') (ht : t.synchronous) :
    ScoStep s env a (s'.schedule t) := by
  obtain ⟨⟨table, last, ts, rfl, hts⟩, htable⟩ := h
  refine ⟨⟨table, last, ts ++ [t], by simp [BrEdrController.schedule], ?_⟩, htable⟩
  exact List.forall_mem_append.mpr ⟨hts, List.forall_mem_singleton.mpr ht⟩

/-- A packet of synchronous connections is scheduled. -/
theorem send {source destination body} (h : ScoStep s env a s')
    (hb : (Task.send ⟨source, destination, body⟩).synchronous) :
    ScoStep s env a (s'.sendLinkLayerPacket source destination body) :=
  h.schedule hb

/-- An event of synchronous connections is scheduled. -/
theorem event {code e} (h : ScoStep s env a s') (he : e.synchronous) :
    ScoStep s env a (s'.scheduleEvent code e) := by
  unfold scheduleEvent
  split
  · exact h.schedule he
  · exact h

end ScoStep

/-! ## The table -/

/-- What is found for an address is a connection with it. -/
theorem mem_of_getSco (h : s.getScoConnection env bdAddr = some (handle, connection)) :
    s.scoConnections[handle]? = some connection ∧ connection.address = bdAddr := by
  obtain ⟨handle', hkey, h⟩ := Option.bind_eq_some_iff.mp h
  obtain ⟨c, hc, h⟩ := Option.bind_eq_some_iff.mp h
  cases h
  obtain ⟨c', hc', haddr⟩ := HashMap.mem_of_keyBy hkey
  rw [show s.scoConnections[handle]? = some connection from hc] at hc'
  cases hc'
  exact ⟨hc, haddr⟩

/-- What is found pending for an address is a pending connection with it. -/
theorem mem_of_pendingSco (h : s.pendingScoConnection env bdAddr = some (handle, connection)) :
    s.scoConnections[handle]? = some connection ∧ connection.address = bdAddr ∧
      connection.isPending = true := by
  obtain ⟨h, hpend⟩ := Option.filter_eq_some_iff.mp h
  obtain ⟨hsco, haddr⟩ := mem_of_getSco h
  exact ⟨hsco, haddr, hpend⟩

/-- A new connection takes an unused handle. -/
theorem createSco_ok {state} :
    Yields (s.createScoConnection bdAddr parameters state datapath legacy) fun s' =>
      ∃ handle last, s.scoConnections[handle]? = none ∧ s' = { s with
        scoConnections :=
          s.scoConnections.insert handle ⟨bdAddr, parameters, .zero, state, datapath, legacy, false⟩
        lastScoHandle := last } :=
  .bind fun _ hh => .ok ⟨_, _, ConnectionHandle.getUnusedHandle_unused hh, rfl⟩

/-- A connection is opened in its place. -/
theorem openSco_ok : Yields (s.openScoConnection handle connection link) fun s' =>
    s' = { s with scoConnections := s.scoConnections.insert handle (openedSco connection link) } :=
  .bind fun _ _ => .ok rfl

/-- A connection that is cancelled is removed. -/
theorem cancelSco_ok : Yields (s.cancelScoConnection handle connection) fun s' =>
    s' = s.removeScoConnection handle :=
  .bind fun _ _ => .ok rfl

/-- A connection is made with a peer that is asked for. -/
theorem scoStep_create {state} (hask : bdAddr ∈ a)
    (hpend : ¬ (s.pendingScoConnection env bdAddr).isSome) :
    Yields (s.createScoConnection bdAddr parameters state datapath legacy) (ScoStep s env a) := by
  intro s' h
  obtain ⟨handle, last, hfree, rfl⟩ := createSco_ok s' h
  exact .of_change (.created hask (Option.not_isSome_iff_eq_none.mp hpend) (fun _ => rfl) hfree)

/-- A connection is opened. -/
theorem scoStep_open (hsco : s.scoConnections[handle]? = some connection) :
    Yields (s.openScoConnection handle connection link) (ScoStep s env a) :=
  .bind fun _ _ => .ok (.of_change (.opened hsco rfl rfl))

/-- A connection is cancelled. -/
theorem scoStep_cancel : Yields (s.cancelScoConnection handle connection) (ScoStep s env a) :=
  .bind fun _ _ => .ok .remove

/-! ## The handlers -/

/-- The negotiation of a connection ends. -/
theorem scoStep_acceptSco (env : Env) {failure}
    (hsco : s.scoConnections[handle]? = some connection) :
    Yields (s.acceptSco handle connection parameters failure) fun r => ScoStep s env a r.1 := by
  refine .seq (Q := fun r => ScoStep s env a r.1) ?_ fun _ h => .ok (h.send rfl)
  unfold concludeSco
  split
  · exact .seq scoStep_cancel fun _ h => .ok h
  · exact .seq (scoStep_open hsco) fun _ h => .ok h

/-- A host asks for a connection. -/
theorem scoStep_requestSco (hask : a = (s.aclConnections[handle]?).map AclConnection.address) :
    Yields (s.requestSco env handle parameters datapath legacy) fun r => ScoStep s env a r.1 := by
  unfold requestSco
  split
  · exact .ok .refl
  · rename_i hacl
    rw [hacl] at hask
    exact .ite (fun _ => .ok .refl) fun hpend =>
      .seq (scoStep_create (hask ▸ rfl) hpend) fun _ h => .ok (h.send rfl)

/-- Accept Synchronous Connection. -/
theorem scoStep_acceptSynchronousConnection :
    Yields (s.acceptSynchronousConnection env bdAddr parameters) fun r => ScoStep s env a r.1 := by
  unfold acceptSynchronousConnection
  split
  · exact .ok .refl
  · rename_i hpend
    exact .seq (scoStep_acceptSco env (mem_of_pendingSco hpend).1) fun _ h =>
      .ok (h.schedule synchronous_complete)

/-- Reject Synchronous Connection. -/
theorem scoStep_rejectSynchronousConnection :
    Yields (s.rejectSynchronousConnection env bdAddr reason) fun r => ScoStep s env a r.1 := by
  unfold rejectSynchronousConnection
  dsimp only
  split
  · exact .ok .refl
  · exact .seq scoStep_cancel fun _ h => .ok ((h.send rfl).schedule rfl)

/-- The peer asks for a connection. -/
theorem scoStep_incomingScoConnectionRequest {classOfDevice} (hask : bdAddr ∈ a) :
    Yields (s.incomingScoConnectionRequest env bdAddr parameters classOfDevice) fun r =>
      ScoStep s env a r.1 ∧ ∀ o ∈ r.2, o.synchronous := by
  refine .ite (fun _ => .ok ⟨ScoStep.refl.send rfl, nofun⟩) fun hpend =>
    .seq (scoStep_create hask hpend) fun _ h => .ok ⟨h, List.forall_mem_singleton.mpr ?_⟩
  split <;> rfl

/-- The peer answers. -/
theorem scoStep_incomingScoConnectionResponse {status} :
    Yields (s.incomingScoConnectionResponse env bdAddr status link) fun r =>
      ScoStep s env a r.1 ∧ ∀ o ∈ r.2, o.synchronous := by
  unfold incomingScoConnectionResponse
  split
  · exact .ok ⟨.refl, nofun⟩
  · rename_i hsome
    refine .ite (fun _ => .seq (scoStep_open (mem_of_getSco hsome).1) fun _ h =>
        .ok ⟨h, List.forall_mem_singleton.mpr ?_⟩) fun _ =>
      .seq scoStep_cancel fun _ h => .ok ⟨h, List.forall_mem_singleton.mpr ?_⟩
    · split
      · rfl
      · exact synchronous_complete
    · split <;> rfl

/-- The peer closes the connection. -/
theorem scoStep_incomingScoDisconnect :
    ScoStep s env a (s.incomingScoDisconnect env bdAddr reason) := by
  unfold incomingScoDisconnect
  split
  · exact .refl
  · exact ScoStep.remove.event rfl

/-- The connection is closed with its ACL connection. -/
theorem scoStep_disconnectSco (env : Env) (connection : AclConnection) (r r' : UInt8) :
    ScoStep s env a (s.disconnectSco env connection r r') := by
  unfold disconnectSco
  split
  · exact .refl
  · exact (ScoStep.remove.send rfl).event rfl

end BrEdrController

end RootCanal.BrEdr
