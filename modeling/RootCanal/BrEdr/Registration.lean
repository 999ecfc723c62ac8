import RootCanal.BrEdr.Effects

/-!
# The links that are registered

There is at most one ACL connection with each peer, the peer that is paged has none, and the link
manager has a link for each connection.  All three are kept by every step (`Coherent.step`): a
connection is only made where there is none, by accepting a page or by the answer to one.

The link manager marks a free link by the address 00:00:00:00:00:00.  A peer with that address is
never registered, so the last of the three needs that no page and no answer comes from it
(**`links_registered`**; `empty_peer_unregistered` is what happens otherwise).

A link is registered by an assertion, and there are seven links.  **`registers_iff`: the controller
aborts exactly when a connection is made while no link is free**, as it is with the eighth
peer (`eighth_peer_aborts`).
-/

namespace RootCanal.BrEdr

open Lib RootCanal.Hci

/-! ## The link manager -/

namespace LinkManager

/-- The peer has a link. -/
def Registers (lm : LinkManager) (peer : Address) : Prop := peer ≠ Address.kEmpty ∧ peer ∈ lm.peers

instance Registers.decidable (lm : LinkManager) (peer : Address) : Decidable (lm.Registers peer) :=
  inferInstanceAs (Decidable (_ ∧ _))

variable {lm lm' : LinkManager} {old new peer : Address}

/-- An address is replaced unless there is none to replace. -/
theorem replace_eq_none : lm.replace old new = none ↔ old ∉ lm.peers := by
  unfold replace
  split <;> simp_all

/-- How many links each peer has after one is replaced. -/
theorem count_replace (h : lm.replace old new = some lm') (peer : Address) :
    lm'.peers.count peer + (if old = peer then 1 else 0) = lm.peers.count peer +
      (if new = peer then 1 else 0) := by
  unfold replace at h
  split at h
  · rename_i hmem
    cases h
    have hlt := List.idxOf_lt_length_of_mem hmem
    rw [List.count_set hlt, List.getElem_idxOf hlt]
    split <;> split <;> simp_all
  · cases h

/-- A link is added for one address. -/
theorem count_addLink (h : lm.addLink new = some lm') (hp : peer ≠ Address.kEmpty) :
    lm'.peers.count peer = lm.peers.count peer + (if new = peer then 1 else 0) := by
  have := count_replace h peer
  rwa [if_neg (Ne.symm hp), Nat.add_zero] at this

/-- A link is removed for one address. -/
theorem count_removeLink (h : lm.removeLink old = some lm') (hp : peer ≠ Address.kEmpty) :
    lm'.peers.count peer + (if old = peer then 1 else 0) = lm.peers.count peer := by
  have := count_replace h peer
  rwa [if_neg (Ne.symm hp), Nat.add_zero] at this

end LinkManager

/-! ## The connections are coherent -/

/-- One connection at most with each peer, none with the peer that is paged, and one link for
each. -/
structure Coherent (k : Connections) : Prop where
  unique : k.acl.UniqueBy AclConnection.address
  paging : ∀ page, k.page = some page → k.link page.bdAddr = none
  registered : ∀ peer, peer ≠ Address.kEmpty →
    k.lm.peers.count peer = if (k.link peer).isSome then 1 else 0

namespace Coherent

variable {k : Connections} {handle : UInt16} {c : AclConnection} {lm : LinkManager}

/-- A new controller is coherent. -/
theorem new (own : Address) : Coherent (BrEdrController.new own).connections where
  unique := HashMap.uniqueBy_empty
  paging := nofun
  registered := by
    intro peer hp
    have hl : (BrEdrController.new own).connections.link peer = none := HashMap.findBy_empty
    exact List.count_eq_zero.mpr fun hmem => hp (List.eq_of_mem_replicate hmem)

variable (hk : Coherent k)
include hk

/-- The peer of a new connection is linked by it, and the others as before. -/
theorem link_establish (hfree : k.acl[c.handle]? = none)
    (hl : k.link c.address = none) (lm : LinkManager) (peer : Address) :
    (k.establish c lm).link peer = if c.address = peer then some c else k.link peer :=
  hk.unique.findBy_insert hfree hl

/-- A connection is made. -/
theorem establish (hfree : k.acl[c.handle]? = none)
    (hl : k.link c.address = none) (hlm : k.lm.addLink c.address = some lm) :
    Coherent (k.establish c lm) where
  unique := hk.unique.insert hl
  paging := by
    intro page hpage
    obtain ⟨hpage, hne⟩ := Option.filter_eq_some_iff.mp hpage
    rw [hk.link_establish hfree hl, if_neg]
    · exact hk.paging page hpage
    · exact Ne.symm (of_decide_eq_true hne)
  registered := by
    intro peer hp
    have hcnt := LinkManager.count_addLink hlm hp
    rw [hk.registered peer hp] at hcnt
    rw [hk.link_establish hfree hl]
    refine hcnt.trans ?_
    by_cases heq : c.address = peer
    · simp [← heq, hl]
    · simp [heq]

section

variable (hacl : k.acl[handle]? = some c)
include hacl

/-- The peer of a closed connection is not linked, and the others as before. -/
theorem link_release (peer : Address) :
    (k.release handle lm).link peer = if c.address = peer then none else k.link peer :=
  hk.unique.findBy_erase hacl

/-- A connection is the one of its peer. -/
theorem link_of_mem : k.link c.address = some c :=
  hk.unique.findBy_of_mem hacl

/-- A connection is closed. -/
theorem release (hlm : k.lm.removeLink c.address = some lm) : Coherent (k.release handle lm) where
  unique := hk.unique.erase
  paging := by
    intro page hpage
    rw [hk.link_release hacl]
    split
    · rfl
    · exact hk.paging page hpage
  registered := by
    intro peer hp
    have hcnt := LinkManager.count_removeLink hlm hp
    rw [hk.registered peer hp] at hcnt
    rw [hk.link_release hacl]
    by_cases heq : c.address = peer
    · rw [if_pos heq, ← heq, hk.link_of_mem hacl] at hcnt
      rw [if_pos heq, ← heq]
      exact Nat.succ.inj hcnt
    · rw [if_neg heq] at hcnt ⊢
      exact hcnt

/-- A change of a connection that keeps its peer. -/
theorem link_modify {f} (hf : ∀ x, (f x).address = x.address) (peer : Address) :
    ({ k with acl := k.acl.modify handle f } : Connections).link peer =
      if c.address = peer then some (f c) else k.link peer :=
  hk.unique.findBy_modify hf hacl

/-- A connection changes, but not its peer. -/
theorem modify {f} (hf : ∀ x, (f x).address = x.address) :
    Coherent { k with acl := k.acl.modify handle f } := by
  -- the peers that have a connection are the same
  have hsame : ∀ peer, (({ k with acl := k.acl.modify handle f } : Connections).link peer).isSome =
      (k.link peer).isSome := by
    intro peer
    rw [hk.link_modify hacl hf]
    by_cases heq : c.address = peer
    · simp [← heq, hk.link_of_mem hacl]
    · simp [heq]
  refine ⟨hk.unique.modify hf, ?_, ?_⟩
  · intro page hpage
    have hn := hsame page.bdAddr
    rw [hk.paging page hpage] at hn
    exact Option.not_isSome_iff_eq_none.mp (by simp [hn])
  · intro peer hp
    rw [hsame]
    exact hk.registered peer hp

end

/-- The page changes; the peer has no connection. -/
theorem setPage {page} (hpage : ∀ p, page = some p → k.link p.bdAddr = none) :
    Coherent { k with page := page } :=
  ⟨hk.unique, hpage, hk.registered⟩

/-- Another page waits, or none. -/
theorem setPageScan (scan : Option PageScanState) : Coherent { k with pageScan := scan } :=
  ⟨hk.unique, hk.paging, hk.registered⟩

end Coherent

namespace BrEdrController

variable {s s' : BrEdrController} {i : Input} {out : List Output}

/-- The peer that answers a page has no connection yet. -/
theorem link_of_page (hk : Coherent s.connections) {page peer} (hpage : s.page = some page)
    (hp : page.bdAddr = peer) : s.connections.link peer = none :=
  hp ▸ hk.paging page hpage

/-- **A step keeps the tables coherent**. -/
theorem Effect.coherent (he : Effect s i s' out) (hk : Coherent s.connections) :
    Coherent s'.connections := by
  cases he with
  | quiet hq =>
    obtain ⟨ts, hch, -⟩ := hq
    rw [hch.connections]
    exact hk
  | noTask | sent | reported | refused | collided | rejected | masked => exact hk
  | accepted _ _ hl hfree hlm _ hch =>
    rw [hch.connections]
    refine Coherent.setPageScan ?_ none
    exact hk.establish (c := s.newConnection ..) hfree hl hlm
  | created _ _ hl =>
    refine hk.setPage ?_
    rintro p hp
    cases hp
    exact hl
  | paged _ hpage hch =>
    rw [hch.connections]
    refine hk.setPage ?_
    rintro p hp
    cases hp
    exact link_of_page hk hpage rfl
  | gaveUp _ _ hch =>
    rw [hch.connections]
    exact hk.setPage nofun
  | turnedDown => exact hk.setPage nofun
  | scanned => exact hk.setPageScan _
  | connected _ _ _ hpage hpr hfree hlm hch =>
    rw [hch.connections]
    exact hk.establish (c := s.newConnection ..) hfree (link_of_page hk hpage hpr) hlm
  | released _ hacl hlm _ _ hch | dropped _ _ _ hacl _ hlm _ hch =>
    rw [hch.connections]
    exact hk.release hacl hlm
  | switched _ _ _ hacl _ _ hch | answered _ _ _ hacl _ _ hch =>
    rw [hch.connections]
    exact hk.modify hacl fun _ => rfl
  | @policy _ settings _ _ hacl =>
    exact hk.modify hacl (f := fun c => { c with linkPolicySettings := settings }) fun _ => rfl
  | reset => exact Coherent.new s.address

/-! ## Every connection is registered -/

/-- A page, and the answer to one, comes from a device: not from the address that marks a free
link. -/
def fromDevice : Action → Bool
  | .packet packet =>
    match packet.body with
    | .page _ _ | .pageResponse _ => packet.sourceAddress ≠ Address.kEmpty
    | _ => true
  | _ => true

/-- Neither a connection nor a page that waits for the host has the address of a free link. -/
structure Devices (k : Connections) : Prop where
  link : k.link Address.kEmpty = none
  scan : ∀ scan, k.pageScan = some scan → scan.bdAddr ≠ Address.kEmpty

/-- A new controller has no connection at all, and no page. -/
theorem Devices.new (own : Address) : Devices (BrEdrController.new own).connections :=
  ⟨HashMap.findBy_empty, nofun⟩

/-- A step with the address of a device keeps it. -/
theorem Effect.devices (he : Effect s i s' out) (hi : fromDevice i.action = true)
    (hk : Coherent s.connections) (hd : Devices s.connections) : Devices s'.connections := by
  have hrelease : ∀ {handle connection} (lm : LinkManager),
      s.aclConnections[handle]? = some connection → Devices (s.connections.release handle lm) := by
    intro handle connection lm hacl
    refine ⟨?_, hd.scan⟩
    rw [hk.link_release hacl, hd.link, ite_self]
  have hmodify : ∀ {handle connection} (f : AclConnection → AclConnection),
      (∀ c, (f c).address = c.address) → s.aclConnections[handle]? = some connection →
      Devices { s.connections with acl := s.aclConnections.modify handle f } := by
    intro handle connection f hf hacl
    refine ⟨?_, hd.scan⟩
    rw [show s.aclConnections = s.connections.acl from rfl, hk.link_modify hacl hf, if_neg]
    · exact hd.link
    · intro heq
      have hmem := hk.link_of_mem hacl
      rw [heq, hd.link] at hmem
      cases hmem
  cases he with
  | quiet hq =>
    obtain ⟨ts, hch, -⟩ := hq
    rw [hch.connections]
    exact hd
  | noTask | sent | reported | refused | collided | rejected | masked | created | turnedDown =>
    exact ⟨hd.link, hd.scan⟩
  | @accepted _ _ _ _ lm _ _ hscan hl hfree _ _ hch =>
    rw [hch.connections]
    refine ⟨?_, nofun⟩
    refine (hk.link_establish (c := s.newConnection ..) hfree hl lm _).trans ?_
    rw [if_neg]
    · exact hd.link
    · exact hd.scan _ hscan
  | paged _ _ hch | gaveUp _ _ hch =>
    rw [hch.connections]
    exact ⟨hd.link, hd.scan⟩
  | scanned hact _ hb =>
    refine ⟨hd.link, ?_⟩
    rintro scan hscan
    cases hscan
    simpa [hact, fromDevice, hb, newConnection] using hi
  | connected hact _ hb hpage hp hfree _ hch =>
    rw [hch.connections]
    refine ⟨?_, hd.scan⟩
    rw [hk.link_establish (c := s.newConnection ..) hfree (link_of_page hk hpage hp), if_neg]
    · exact hd.link
    · simpa [hact, fromDevice, hb, newConnection] using hi
  | released _ hacl _ _ _ hch | dropped _ _ _ hacl _ _ _ hch =>
    rw [hch.connections]
    exact hrelease _ hacl
  | switched _ _ _ hacl _ _ hch | answered _ _ _ hacl _ _ hch =>
    rw [hch.connections]
    exact hmodify _ (fun _ => rfl) hacl
  | policy _ hacl => exact hmodify _ (fun _ => rfl) hacl
  | reset => exact Devices.new s.address

/-- A run with addresses of devices keeps it. -/
theorem run_devices {own tr}
    (h : machine.Run (fun _ i => fromDevice i.action = true) (new own) tr s) :
    Coherent s.connections ∧ Devices s.connections := by
  refine h.invariant (fun s => Coherent s.connections ∧ Devices s.connections)
    ⟨Coherent.new own, Devices.new own⟩ ?_
  rintro s i s' out ⟨hk, hd⟩ hi hstep
  have he := effect_of_step hstep
  exact ⟨he.coherent hk, he.devices hi hk hd⟩

/-- **In every run each peer has at most one connection, the peer that is paged has none, and the
peers of the link manager are the peers that have a connection.** -/
theorem links_registered {own : Address} {tr : List (Input × List Output)}
    (h : machine.Run (fun _ i => fromDevice i.action = true) (new own) tr s) :
    s.aclConnections.UniqueBy AclConnection.address ∧
      (∀ page, s.page = some page → ∀ (handle : UInt16) connection,
        s.aclConnections[handle]? = some connection → connection.address ≠ page.bdAddr) ∧
      ∀ peer, s.lm.Registers peer ↔ ∃ (handle : UInt16) (connection : AclConnection),
        s.aclConnections[handle]? = some connection ∧ connection.address = peer := by
  obtain ⟨hk, hd⟩ := run_devices h
  refine ⟨hk.unique, ?_, ?_⟩
  · intro page hpage handle connection hacl
    exact HashMap.findBy_eq_none.mp (hk.paging page hpage) handle connection hacl
  · intro peer
    constructor
    · rintro ⟨hp, hmem⟩
      have hcnt := hk.registered peer hp
      cases hl : s.connections.link peer with
      | none =>
        rw [hl] at hcnt
        exact absurd hmem (List.count_eq_zero.mp hcnt)
      | some connection =>
        obtain ⟨⟨handle, hacl⟩, hbd⟩ := HashMap.mem_of_findBy hl
        exact ⟨handle, connection, hacl, hbd⟩
    · rintro ⟨handle, connection, hacl, rfl⟩
      have hl := hk.link_of_mem hacl
      have hp : connection.address ≠ Address.kEmpty := by
        intro heq
        rw [heq, hd.link] at hl
        cases hl
      have hcnt := hk.registered _ hp
      rw [hl] at hcnt
      exact ⟨hp, List.count_pos_iff.mp (hcnt ▸ Nat.one_pos)⟩

/-- The host lets itself be paged. -/
def hostScans (env : Env) : Input := ⟨env, .command (.writeScanEnable true)⟩

/-- A peer pages the controller. -/
def peerPages (env : Env) (own peer : Address) : Input := ⟨env, .packet ⟨peer, own, .page 0 true⟩⟩

/-- The host accepts the page of a peer. -/
def hostAccepts (env : Env) (peer : Address) : Input :=
  ⟨env, .command (.acceptConnectionRequest peer false)⟩

/-- The tables are visited in their order, when the clock starts. -/
def start : Env := ⟨IterOrder.id _, IterOrder.id _, 0⟩

/-- One peer pages and is accepted. -/
theorem links_registered_one_peer : ∃ tr s,
    machine.Run (fun _ i => fromDevice i.action = true) (new 1) tr s ∧ s.lm.Registers 2 ∧
      ∃ (handle : UInt16) (connection : AclConnection),
        s.aclConnections[handle]? = some connection ∧ connection.address = 2 := by
  refine machine.run_and [hostScans start, peerPages start 1 2, hostAccepts start 2]
    (by decide +kernel) (by decide +kernel) fun tr s hrun hreg => ?_
  exact ((links_registered hrun).2.2 2).mp hreg

/-- A connection with the peer 00:00:00:00:00:00 has no link. -/
theorem empty_peer_unregistered : ∃ tr s, machine.Run (fun _ _ => True) (new 1) tr s ∧
    s.aclConnections.size ≤ 7 ∧ ¬ ∀ peer, s.lm.Registers peer ↔
      ∃ (handle : UInt16) (connection : AclConnection),
        s.aclConnections[handle]? = some connection ∧ connection.address = peer := by
  have hx : machine.ExecTo (fun _ s => s.aclConnections.size ≤ 7 ∧
      ((s.aclConnections[(0 : UInt16)]?).map AclConnection.address) = some Address.kEmpty) (new 1)
      [hostScans start, peerPages start 1 Address.kEmpty, hostAccepts start Address.kEmpty] := by
    decide +kernel
  obtain ⟨tr, s, hrun, hsize, hacl⟩ := machine.exists_free_run hx
  refine ⟨tr, s, hrun, hsize, ?_⟩
  intro h
  obtain ⟨connection, hacl, hbd⟩ := Option.map_eq_some_iff.mp hacl
  exact ((h Address.kEmpty).mpr ⟨0, connection, hacl, hbd⟩).1 rfl

/-! ## A connection is made while a link is free -/

/-- The action makes a connection.
Source: `AcceptConnectionRequest`,
`IncomingPageResponsePacket` -/
def establishes (s : BrEdrController) : Action → Bool
  | .command (.acceptConnectionRequest bdAddr _) =>
    (s.connections.scanFor bdAddr).isSome && (s.connections.link bdAddr).isNone
  | .packet packet =>
    match packet.body with
    | .pageResponse _ =>
      decide (Reaches s.address packet) && (s.connections.pageFor packet.sourceAddress).isSome
    | _ => false
  | _ => false

/-- A connection that is made finds a free link. -/
def HasSlot (s : BrEdrController) (i : Input) : Prop :=
  s.establishes i.action = true → Address.kEmpty ∈ s.lm.peers

instance HasSlot.decidable (s : BrEdrController) (i : Input) : Decidable (HasSlot s i) :=
  inferInstanceAs (Decidable (_ → _))

/-- The actions that make connections: pages and their answers on either side, with the settings of
the host and the passing of time that they need. -/
def connects : Action → Bool
  | .command (.createConnection _ _) | .command (.acceptConnectionRequest _ _)
  | .command (.writeDefaultLinkPolicySettings _) | .command (.writeScanEnable _)
  | .command (.setEventMask _) | .command (.setClassOfDevice _)
  | .command (.setPageTimeout _) => true
  | .packet ⟨_, _, .page _ _⟩ | .packet ⟨_, _, .pageResponse _⟩ => true
  | .task | .paging => true
  | _ => false

/-- What holds while connections are only made. -/
structure Making (s : BrEdrController) : Prop where
  coherent : Coherent s.connections
  sco : s.scoConnections = ∅
  last : s.lastAclHandle ≤ ConnectionHandle.kAclRangeEnd

/-- Eight peers have too few connections for the handles to run out. -/
theorem exists_unused_handle {k} (hk : Coherent k) :
    ∃ handle ≤ ConnectionHandle.kAclRangeEnd, k.acl[handle]? = none := by
  by_contra hall
  push Not at hall
  have htoNat : ∀ n : Fin 256, (UInt16.ofNat n).toNat = n := fun n =>
    UInt16.toNat_ofNat_of_lt' (n.isLt.trans (by decide))
  have hused : ∀ n : Fin 256, ∃ c, k.acl[UInt16.ofNat n]? = some c := by
    intro n
    refine Option.ne_none_iff_exists'.mp (hall _ ?_)
    rw [UInt16.le_iff_toNat_le, htoNat]
    exact Nat.le_of_lt_succ n.isLt
  choose c hc using hused
  have hinj : Function.Injective fun n => (c n).address := by
    intro n n' heq
    have hh := hk.unique _ _ _ _ (hc n) (hc n') heq
    have hnat := congrArg UInt16.toNat hh
    rw [htoNat, htoNat] at hnat
    exact Fin.ext hnat
  -- every peer but one is registered
  have hmem : ∀ n, (c n).address ∈ (Address.kEmpty :: k.lm.peers).toFinset := by
    intro n
    rw [List.mem_toFinset, List.mem_cons]
    by_cases hp : (c n).address = Address.kEmpty
    · exact .inl hp
    · have hcnt := hk.registered _ hp
      rw [hk.link_of_mem (hc n)] at hcnt
      exact .inr (List.count_pos_iff.mp (hcnt ▸ Nat.one_pos))
  have hcard := Finset.card_le_card_of_injOn (s := Finset.univ) _ (fun n _ => hmem n) hinj.injOn
  have hlen := List.toFinset_card_le (Address.kEmpty :: k.lm.peers)
  rw [List.length_cons, k.lm.length_peers] at hlen
  rw [Finset.card_univ, Fintype.card_fin] at hcard
  exact absurd (hcard.trans hlen) (by decide)

/-- A handle is always found. -/
theorem unused_returns (hk : Coherent s.connections)
    (hlast : s.lastAclHandle ≤ ConnectionHandle.kAclRangeEnd) :
    Returns (ConnectionHandle.getUnusedHandle s.aclConnections ConnectionHandle.kAclRangeStart
      ConnectionHandle.kAclRangeEnd s.lastAclHandle) := by
  obtain ⟨handle, hh, hfree⟩ := exists_unused_handle hk
  exact ConnectionHandle.getUnusedHandle_returns (by decide) ⟨UInt16.zero_le, hlast⟩
    ⟨UInt16.zero_le, hh⟩ hfree

/-- Making a connection aborts exactly when no link is free. -/
theorem createAcl_ne_assertion_iff (hs : Making s) {peer role} :
    s.createAclConnection peer role ≠ .error .assertion ↔ Address.kEmpty ∈ s.lm.peers := by
  obtain ⟨⟨unused, last⟩, hunused⟩ := unused_returns hs.coherent hs.last
  have hadd : (assertSome (s.lm.addLink peer) ≠ .error .assertion) ↔
      Address.kEmpty ∈ s.lm.peers := by
    rw [assertSome_ne_assertion_iff, ← not_iff_not, not_not]
    exact LinkManager.replace_eq_none
  unfold createAclConnection
  rw [bind_ne_error_iff, hunused]
  simp [bind_ne_error_iff, hadd]

/-- With a free link a connection is made. -/
theorem createAcl_returns (hk : Coherent s.connections)
    (hlast : s.lastAclHandle ≤ ConnectionHandle.kAclRangeEnd)
    (hfree : Address.kEmpty ∈ s.lm.peers) (peer role) : Returns
    (s.createAclConnection peer role) := by
  obtain ⟨⟨unused, last⟩, hunused⟩ := unused_returns hk hlast
  obtain ⟨lm, hlm⟩ := Option.ne_none_iff_exists'.mp fun h => LinkManager.replace_eq_none.mp h hfree
  exact ⟨_, bind_eq_ok.mpr ⟨_, hunused, bind_eq_ok.mpr ⟨lm, assertSome_eq_ok.mpr hlm, rfl⟩⟩⟩

/-- A new ACL connection leaves the synchronous ones. -/
theorem createAcl_tables {peer role} : Yields (s.createAclConnection peer role) fun r =>
    r.2.scoConnections = s.scoConnections ∧ r.2.lastAclHandle ≤ ConnectionHandle.kAclRangeEnd := by
  intro r hr
  obtain ⟨handle, last, lm, hh, -, rfl⟩ := createAcl_ok r hr
  exact ⟨rfl, ConnectionHandle.search_last (by decide) hh⟩

/-- A step that makes no connection, and leaves the tables of handles alone. -/
def Passes (s : BrEdrController) (i : Input) : Prop :=
  s.establishes i.action = false ∧ ∃ s' out, machine.step s i = .ok (s', out) ∧
    s'.scoConnections = s.scoConnections ∧ s'.lastAclHandle = s.lastAclHandle

/-- A step that makes a connection. -/
def Makes (s : BrEdrController) (i : Input) : Prop :=
  s.establishes i.action = true ∧ ∃ peer role, ∃ f : UInt16 × BrEdrController →
    BrEdrController × List Output,
    machine.step s i = (do let r ← s.createAclConnection peer role; .ok (f r)) ∧
    ∀ r, (f r).1.scoConnections = r.2.scoConnections ∧ (f r).1.lastAclHandle = r.2.lastAclHandle

/-- The synchronous connections and the last handle are as before. -/
def SameTables (s s' : BrEdrController) : Prop :=
  s'.scoConnections = s.scoConnections ∧ s'.lastAclHandle = s.lastAclHandle

/-- An event is scheduled. -/
theorem scheduleEvent_tables {code event} : SameTables s (s.scheduleEvent code event) := by
  rw [scheduleEvent_eq]
  exact ⟨rfl, rfl⟩

/-- The events of an accepted connection are scheduled. -/
theorem scheduleAccepted_tables {bdAddr role handle} :
    SameTables s (s.scheduleAccepted bdAddr role handle) := by
  obtain ⟨ts, hevs, -⟩ := scheduleAccepted_eq (s := s) bdAddr role handle
  rw [hevs]
  exact ⟨rfl, rfl⟩

/-- A command that cannot touch the tables of handles returns. -/
theorem command_tables (env : Env) {c} (hc : c.unsynchronous = true) :
    ∃ r, s.command env c = .ok r ∧ SameTables s r.1 := by
  cases c with
  | createConnection =>
    refine ⟨_, rfl, ?_⟩
    unfold createConnection
    split_ifs <;> exact ⟨rfl, rfl⟩
  | createConnectionCancel =>
    refine ⟨_, rfl, ?_⟩
    unfold createConnectionCancel
    split_ifs
    · exact scheduleEvent_tables
    · exact ⟨rfl, rfl⟩
  | rejectConnectionRequest =>
    refine ⟨_, rfl, ?_⟩
    unfold rejectConnectionRequest
    split_ifs <;> exact ⟨rfl, rfl⟩
  | switchRole =>
    refine ⟨_, rfl, ?_⟩
    unfold switchRole
    split
    · exact ⟨rfl, rfl⟩
    · split_ifs
      · exact ⟨rfl, rfl⟩
      · exact ⟨rfl, rfl⟩
      · exact scheduleEvent_tables
  | writeLinkPolicySettings =>
    refine ⟨_, rfl, ?_⟩
    unfold writeLinkPolicySettings
    split_ifs <;> exact ⟨rfl, rfl⟩
  | writeDefaultLinkPolicySettings =>
    refine ⟨_, rfl, ?_⟩
    unfold writeDefaultLinkPolicySettings
    split_ifs <;> exact ⟨rfl, rfl⟩
  | writeScanEnable | setEventMask | setClassOfDevice | setPageTimeout => exact ⟨_, rfl, rfl, rfl⟩
  | _ => cases hc

/-- A page arrives. -/
theorem incomingPage_tables {env bdAddr classOfDevice} {allow : Bool} :
    SameTables s (s.incomingPage env bdAddr classOfDevice allow).1 := by
  unfold incomingPage
  split_ifs <;> exact ⟨rfl, rfl⟩

/-- A task is run. -/
theorem runTask_tables : SameTables s s.runTask.1 := by
  unfold runTask
  split
  · exact ⟨rfl, rfl⟩
  · split <;> exact ⟨rfl, rfl⟩

/-- The page goes on. -/
theorem paging_tables {env} : SameTables s (s.paging env).1 := by
  unfold paging
  split
  · exact ⟨rfl, rfl⟩
  · split_ifs <;> exact ⟨rfl, rfl⟩

variable {try_ : Bool}

/-- Accepting a page makes a connection if there is none. -/
theorem establishes_accept {bdAddr} :
    s.establishes (.command (.acceptConnectionRequest bdAddr try_)) =
      ((s.connections.scanFor bdAddr).isSome && (s.connections.link bdAddr).isNone) := rfl

/-- The answer to the page that is going on makes a connection. -/
theorem establishes_response {packet} (hb : packet.body = .pageResponse try_) :
    s.establishes (.packet packet) =
      (decide (Reaches s.address packet) &&
        (s.connections.pageFor packet.sourceAddress).isSome) := by
  unfold establishes
  simp only [hb]

variable {env : Env}

/-- Accepting makes a connection, or leaves the tables of handles alone. -/
theorem connects_accept {bdAddr}
    (hsco : s.scoConnections = ∅ ∨ (s.connections.scanFor bdAddr).isSome) :
    Passes s ⟨env, .command (.acceptConnectionRequest bdAddr try_)⟩ ∨
      Makes s ⟨env, .command (.acceptConnectionRequest bdAddr try_)⟩ := by
  have hstep : machine.step s ⟨env, .command (.acceptConnectionRequest bdAddr try_)⟩ = (do
      let r ← s.acceptConnectionRequest env bdAddr try_
      .ok (r.1, [.status r.2])) := rfl
  unfold Passes Makes
  rw [hstep, establishes_accept]
  unfold acceptConnectionRequest
  unfold Connections.scanFor at hsco ⊢
  rw [show s.connections.pageScan = s.pageScan from rfl] at hsco ⊢
  cases hscan : s.pageScan.filter fun scan => scan.bdAddr = bdAddr with
  | none =>
    rw [hscan] at hsco
    have hempty : s.scoConnections = ∅ := hsco.resolve_right nofun
    -- there is no synchronous connection to accept either
    have hpend : s.pendingScoConnection env bdAddr = none := by
      unfold pendingScoConnection getScoConnection getScoConnectionHandle
      rw [hempty, HashMap.keyBy_eq_none.mpr HashMap.findBy_empty]
      rfl
    rw [hpend]
    exact .inl ⟨rfl, _, _, rfl, rfl, rfl⟩
  | some scan =>
    obtain rfl : scan.bdAddr = bdAddr := of_decide_eq_true (Option.filter_eq_some_iff.mp hscan).2
    unfold acceptPage
    dsimp only
    cases hl : s.getAclConnectionHandle env scan.bdAddr with
    | some =>
      have hsome : (s.connections.link scan.bdAddr).isNone = false := by
        rw [Option.isNone_eq_false_iff, Option.isSome_iff_ne_none, ne_eq, ← link_eq_none, hl]
        nofun
      rw [hsome]
      exact .inl ⟨rfl, _, _, rfl, rfl, rfl⟩
    | none =>
      rw [link_eq_none.mp hl]
      refine .inr ⟨rfl, scan.bdAddr, acceptorRole scan try_, fun r =>
        let s := r.2.scheduleAccepted scan.bdAddr (acceptorRole scan try_) r.1
        let s := s.sendLinkLayerPacket s.address scan.bdAddr (.pageResponse try_)
        ({ s with
          page := s.page.filter fun page => page.bdAddr ≠ scan.bdAddr
          pageScan := none }, [.status .success]), ?_, fun r => scheduleAccepted_tables⟩
      cases s.createAclConnection scan.bdAddr (acceptorRole scan try_) <;> rfl

/-- An answer makes a connection, or leaves the tables of handles alone. -/
theorem connects_response {packet} (hb : packet.body = .pageResponse try_) :
    Passes s ⟨env, .packet packet⟩ ∨ Makes s ⟨env, .packet packet⟩ := by
  unfold Passes Makes
  rw [establishes_response hb]
  by_cases hrch : Reaches s.address packet
  · rw [step_reaching env hrch, decide_eq_true hrch, hb]
    dsimp only [receive]
    unfold incomingPageResponse Connections.pageFor
    rw [show s.connections.page = s.page from rfl]
    cases hpage : s.page.filter fun page => page.bdAddr = packet.sourceAddress with
    | none => exact .inl ⟨rfl, _, _, rfl, rfl, rfl⟩
    | some page =>
      refine .inr ⟨rfl, packet.sourceAddress, initiatorRole page try_, fun r =>
        ({ r.2 with page := none }, (if initiatorRole page try_ = .peripheral then
            r.2.sendEvent .roleChange (.roleChange ErrorCode.success.toUInt8 packet.sourceAddress
              (initiatorRole page try_))
          else []) ++ r.2.sendEvent .connectionComplete
            (.connectionComplete ErrorCode.success.toUInt8 r.1 packet.sourceAddress .acl)),
        rfl, fun r => ⟨rfl, rfl⟩⟩
  · rw [step_dropped env hrch, decide_eq_false hrch]
    exact .inl ⟨rfl, _, _, rfl, rfl, rfl⟩

/-- A step that returns and makes no connection. -/
theorem passes_of_ok {r} (h : machine.step s i = .ok r) (hi : s.establishes i.action = false)
    (hr : SameTables s r.1) : Passes s i :=
  ⟨hi, r.1, r.2, h, hr⟩

/-- A page arrives, and is taken or not. -/
theorem passes_page {packet classOfDevice} {allow : Bool}
    (hb : packet.body = .page classOfDevice allow) : Passes s ⟨env, .packet packet⟩ := by
  have hi : s.establishes (.packet packet) = false := by
    unfold establishes
    simp only [hb]
  by_cases hrch : Reaches s.address packet
  · have hstep := step_reaching env hrch
    rw [hb] at hstep
    exact passes_of_ok hstep hi incomingPage_tables
  · exact passes_of_ok (step_dropped env hrch) hi ⟨rfl, rfl⟩

/-- A command that makes no connection. -/
theorem passes_command {c} (hc : c.unsynchronous = true) (hi : s.establishes (.command c) = false) :
    Passes s ⟨env, .command c⟩ := by
  obtain ⟨r, h, hr⟩ := command_tables (s := s) env hc
  refine passes_of_ok (r := (r.1, [.status r.2])) ?_ hi hr
  change (do let r ← s.command env c; .ok (r.1, [Output.status r.2])) = _
  rw [h]
  rfl

/-- A command returns, or makes a connection. -/
theorem connects_command {c} (hc : connects (.command c) = true) (hsco : s.scoConnections = ∅) :
    Passes s ⟨env, .command c⟩ ∨ Makes s ⟨env, .command c⟩ := by
  cases c with
  | acceptConnectionRequest => exact connects_accept (.inl hsco)
  | createConnection | writeDefaultLinkPolicySettings | writeScanEnable | setEventMask
    | setClassOfDevice | setPageTimeout => exact .inl (passes_command rfl rfl)
  | _ => cases hc

/-- Every step of these either makes a connection or passes. -/
theorem connects_cases (hi : connects i.action = true) (hsco : s.scoConnections = ∅) :
    Passes s i ∨ Makes s i := by
  obtain ⟨env, action⟩ := i
  cases action with
  | command => exact connects_command hi hsco
  | packet packet =>
    obtain ⟨source, destination, body⟩ := packet
    cases body with
    | page => exact .inl (passes_page rfl)
    | pageResponse => exact connects_response rfl
    | _ => cases hi
  | task => exact .inl (passes_of_ok rfl rfl runTask_tables)
  | paging => exact .inl (passes_of_ok rfl rfl paging_tables)
  | checkExpiring => cases hi

/-- A new controller can make connections. -/
theorem Making.new (own : Address) : Making (new own) := ⟨Coherent.new own, rfl, UInt16.zero_le⟩

/-- A step keeps what making a connection relies on. -/
theorem Making.step (hs : Making s) (hi : connects i.action = true)
    (h : machine.step s i = .ok (s', out)) : Making s' := by
  have hk := (effect_of_step h).coherent hs.coherent
  rcases connects_cases hi hs.sco with ⟨-, s₁, out₁, h₁, hsco, hlast⟩ | ⟨-, peer, role, f, h₁, hf⟩
  · cases h.symm.trans h₁
    exact ⟨hk, hsco.trans hs.sco, hlast ▸ hs.last⟩
  · obtain ⟨⟨handle, s₁⟩, hcreate, h⟩ := bind_eq_ok.mp (h₁.symm.trans h)
    obtain ⟨hsco, hlast⟩ := createAcl_tables _ hcreate
    obtain ⟨hfsco, hflast⟩ := hf (handle, s₁)
    rw [Except.ok.inj h] at hfsco hflast
    exact ⟨hk, hfsco.trans (hsco.trans hs.sco), hflast ▸ hlast⟩

/-- One step aborts exactly when it makes a connection without a free link. -/
theorem step_ne_assertion_iff (hs : Making s) (hi : connects i.action = true) :
    machine.step s i ≠ .error .assertion ↔ HasSlot s i := by
  unfold HasSlot
  rcases connects_cases hi hs.sco with ⟨hno, s₁, out₁, h₁, -, -⟩ | ⟨hyes, peer, role, f, h₁, -⟩
  · rw [h₁, hno]
    simp
  · rw [h₁, hyes, bind_ne_error_iff, createAcl_ne_assertion_iff hs]
    simp

/-- **No assertion fails exactly when every connection that is made finds a free link.** -/
theorem registers_iff (own : Address) (is : List Input) (his : ∀ i ∈ is, connects i.action = true) :
    machine.exec (new own) is ≠ .error .assertion ↔ machine.Meets HasSlot (new own) is :=
  Machine.exec_avoids_iff (P := Making) (fun _ _ => step_ne_assertion_iff)
    (fun _ _ _ _ hs hi h => hs.step hi h) (Making.new own) his

/-- The pages of some peers, each accepted before the next. -/
def acceptAll (own : Address) (peers : List Address) : List Input :=
  hostScans start :: peers.flatMap fun peer => [peerPages start own peer, hostAccepts start peer]

/-- Seven peers are accepted. -/
theorem registers_iff_seven_peers :
    machine.exec (new 8) (acceptAll 8 [1, 2, 3, 4, 5, 6, 7]) ≠ .error .assertion :=
  (registers_iff 8 (acceptAll 8 [1, 2, 3, 4, 5, 6, 7]) (by decide)).mpr (by decide +kernel)

/-- The eighth peer makes the controller abort. -/
theorem eighth_peer_aborts :
    machine.exec (new 9) (acceptAll 9 [1, 2, 3, 4, 5, 6, 7, 8]) = .error .assertion := by
  decide +kernel

end BrEdrController

end RootCanal.BrEdr
