import RootCanal.BrEdr.ScoEffects

/-!
# Synchronous connections and their peers

A synchronous connection is looked up by the address of its peer, and its ACL connection may only be
closed when there is none any more.  Both rest on each synchronous connection having an ACL
connection with its peer, and on there being one at most for each peer.

Neither is checked where a synchronous connection is created.  `IncomingScoConnectionRequest` does
not ask for an ACL connection (`request_without_link`), and both it and `SetupSynchronousConnection`
refuse only while one is pending, so that one which is opened gets a second beside it.
**`sco_with_links`: in every run in which one is asked for only where it may be (`ScoFree`), every
synchronous connection has its ACL connection, and no two have the same peer.**

Source: `bredr_controller.cc` `IncomingScoConnectionRequest`, `SetupSynchronousConnection`,
`AddScoConnection`
-/

namespace RootCanal.BrEdr.BrEdrController

open Lib RootCanal.Hci

/-- A synchronous connection that is created has an ACL connection with its peer, and is the only
one. -/
def ScoFree (s : BrEdrController) (i : Input) : Prop :=
  ∀ peer ∈ s.asks i.action, s.pendingScoConnection i.env peer = none →
    s.connections.link peer ≠ none ∧ s.scoWith peer = none

instance ScoFree.decidable (s : BrEdrController) (i : Input) : Decidable (ScoFree s i) :=
  -- not by trying every address
  @Option.decidableForallMem _ _ (fun _ => inferInstance) (s.asks i.action)

/-- Every synchronous connection has an ACL connection with its peer, and no two have the same
peer. -/
structure ScoLinked (s : BrEdrController) : Prop where
  linked : s.scoConnections.Every fun c => s.connections.link c.address ≠ none
  unique : s.scoConnections.UniqueBy ScoConnection.address

variable {s s' : BrEdrController} {i : Input} {out : List Output}

/-- A new controller has no synchronous connection. -/
theorem ScoLinked.new (own : Address) : ScoLinked (new own) :=
  ⟨HashMap.every_empty, HashMap.uniqueBy_empty⟩

/-- The connections that are left when none is lost. -/
theorem ScoLinked.stay (hs : ScoLinked s) (hstay : LinksStay s s') :
    s.scoConnections.Every fun c => s'.connections.link c.address ≠ none :=
  fun handle c hc => hstay c.address (hs.linked handle c hc)

/-- A step keeps synchronous connections on links. -/
theorem ScoLinked.step (hs : ScoLinked s) (hk : Coherent s.connections) (hfree : ScoFree s i)
    (he : ScoEffect s i s') : ScoLinked s' := by
  cases he with
  | kept hsco hstay => exact ⟨hsco ▸ hs.stay hstay, hsco ▸ hs.unique⟩
  | asked hask hpend _ _ hsco hstay =>
    obtain ⟨hl, hn⟩ := hfree _ hask hpend
    constructor
    · rw [hsco]
      exact (hs.stay hstay).insert (hstay _ hl)
    · rw [hsco]
      exact hs.unique.insert hn
  | opened hc haddr _ hsco hstay =>
    constructor
    · rw [hsco]
      exact (hs.stay hstay).insert (haddr ▸ hs.stay hstay _ _ hc)
    · rw [hsco]
      exact hs.unique.replace hc haddr
  | erased hsco hstay =>
    constructor
    · rw [hsco]
      exact (hs.stay hstay).erase
    · rw [hsco]
      exact hs.unique.erase
  | @closed _ _ _ hacl hsco hn hconn =>
    -- what is left was there before, and is with another peer
    have hsub : ∀ (h : UInt16) c, s'.scoConnections[h]? = some c →
        s.scoConnections[h]? = some c := by
      intro h c hc
      rcases hsco with hsco | ⟨other, hsco⟩
      · rwa [hsco] at hc
      · rw [hsco, HashMap.getElem?_erase'] at hc
        split at hc
        · cases hc
        · exact hc
    constructor
    · intro h c hc
      have hoth := HashMap.findBy_eq_none.mp hn h c hc
      rw [hconn, hk.link_release hacl, if_neg (Ne.symm hoth)]
      exact hs.linked h c (hsub h c hc)
    · intro h h' c c' hc hc'
      exact hs.unique h h' c c' (hsub h c hc) (hsub h' c' hc')
  | reset hsco => exact ⟨hsco ▸ HashMap.every_empty, hsco ▸ HashMap.uniqueBy_empty⟩

/-- **In every run in which synchronous connections are only asked for where they may be, each has
an ACL connection with its peer, no two have the same peer, and a lookup by the peer does not depend
on the order of the table.** -/
theorem sco_with_links {own : Address} {tr : List (Input × List Output)}
    (h : machine.Run ScoFree (new own) tr s) :
    ScoLinked s ∧ ∀ env env' peer, s.getScoConnection env peer = s.getScoConnection env' peer := by
  have hboth : Coherent s.connections ∧ ScoLinked s := by
    refine h.invariant (fun s => Coherent s.connections ∧ ScoLinked s)
      ⟨Coherent.new own, ScoLinked.new own⟩ ?_
    rintro s i s' out ⟨hk, hs⟩ hfree hstep
    exact ⟨(effect_of_step hstep).coherent hk, hs.step hk hfree (scoEffect_of_step hk hstep)⟩
  refine ⟨hboth.2, ?_⟩
  intro env env' peer
  unfold getScoConnection getScoConnectionHandle
  rw [hboth.2.unique.keyBy_congr env.scoOrder env'.scoOrder]

/-- The parameters of a voice connection: 64 kbit/s each way, with any of the HV packets. -/
def voice : ScoConnectionParameters := ⟨8000, 8000, 0xffff, 0x60, 0xff, 0x3c7⟩

/-- The host asks for a voice connection over an ACL connection. -/
def hostSetsUp (env : Env) (handle : UInt16) (datapath : ScoDatapath) : Input :=
  ⟨env, .command (.setupSynchronousConnection handle voice datapath)⟩

/-- The host closes a connection. -/
def hostDisconnects (env : Env) (handle : UInt16) : Input :=
  ⟨env, .command (.disconnect handle ErrorCode.remoteUserTerminatedConnection.toUInt8)⟩

/-- A peer asks for a voice connection. -/
def peerSetsUp (env : Env) (own peer : Address) : Input :=
  ⟨env, .packet ⟨peer, own, .scoConnectionRequest voice 0⟩⟩

/-- A peer has opened a voice connection. -/
def peerAccepts (env : Env) (own peer : Address) : Input :=
  ⟨env,
    .packet ⟨peer, own, .scoConnectionResponse ErrorCode.success.toUInt8 ⟨6, 0, 30, 30, 2, false⟩⟩⟩

theorem sco_with_links_voice :
    ∃ tr s, machine.Run ScoFree (new 1) tr s ∧ s.scoConnections.size = 1 ∧ ScoLinked s ∧
      ∀ env env' peer, s.getScoConnection env peer = s.getScoConnection env' peer := by
  refine machine.run_and [hostScans start, peerPages start 1 2, hostAccepts start 2,
    hostSetsUp start 0 .normal, peerAccepts start 1 2] (by decide +kernel) (by decide +kernel)
    fun tr s hrun _ => ?_
  exact sco_with_links hrun

/-- A request that arrives after the ACL connection is closed leaves a synchronous connection
without one. -/
theorem request_without_link :
    ¬ ∀ tr s, machine.Run (fun _ _ => True) (new 1) tr s → ScoLinked s := by
  intro hall
  have hx : machine.ExecTo (fun _ s => s.connections.link 2 = none ∧
      (s.scoConnections[ConnectionHandle.kScoRangeStart]?).map ScoConnection.address = some 2)
        (new 1)
      [hostScans start, peerPages start 1 2, hostAccepts start 2, hostDisconnects start 0,
        peerSetsUp start 1 2] := by
    decide +kernel
  obtain ⟨tr, s, hrun, hl, hsco⟩ := machine.exists_free_run hx
  obtain ⟨c, hc, haddr⟩ := Option.map_eq_some_iff.mp hsco
  exact (hall tr s hrun).linked _ c hc (haddr ▸ hl)

end RootCanal.BrEdr.BrEdrController
