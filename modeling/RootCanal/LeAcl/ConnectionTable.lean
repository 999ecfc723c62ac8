import RootCanal.LeAcl.Turns

/-!
# The packets of a connection find it

A packet is for the connection that has its two addresses, and the controller takes the first that
it finds.  Nothing keeps it from having two: an advertiser accepts a connect request, and an
initiator a completion, whichever connections there are (`connected_twice`).

**`connections_unique`: while a connect request or a completion that is taken has addresses that no
connection has (`Unconnected`), no two connections have the same addresses, and the lookup of a
packet does not depend on the order of the table.**

Source: `le_controller.cc` `HandleLeConnection`, `acl_connection_handler.cc` `CreateLeConnection`,
`GetLeAclConnectionHandle`
-/

namespace RootCanal.LeAcl

open Lib RootCanal.Hci RootCanal.Gap

namespace LeController

/-- The addresses of a packet that may make a connection. -/
def connects (s : LeController) : Action → Option (Address × Address)
  | .packet ⟨source, destination, .gap (.leConnect _ advertisingType _ _ _)⟩ =>
    if s.outside.advertises ⟨destination, advertisingType⟩ then some (destination, source) else none
  | .packet ⟨source, destination, .gap (.leConnectComplete initiatingType advertisingType _ _ _)⟩ =>
    if s.outside.expectsComplete ⟨destination, initiatingType⟩ ⟨source, advertisingType⟩ then
      some (destination, source) else none
  | _ => none

/-- A packet that may make a connection has addresses that no connection has. -/
def Unconnected (s : LeController) (i : Input) : Prop :=
  ∀ ends ∈ s.connects i.action, s.leAclConnections.findBy LeAclConnection.ends ends = none

instance Unconnected.decidable (s : LeController) (i : Input) : Decidable (Unconnected s i) :=
  -- not by trying every address
  @Option.decidableForallMem _ _ (fun _ => inferInstance) (s.connects i.action)

variable {s s' : LeController} {i : Input} {out : List Output}

/-- A step keeps the addresses apart. -/
theorem uniqueBy_ends_step (hs : s.leAclConnections.UniqueBy LeAclConnection.ends)
    (hi : Unconnected s i) (he : Effect s i s' out) :
    s'.leAclConnections.UniqueBy LeAclConnection.ends := by
  cases he with
  | aside _ has => exact has.connections ▸ hs
  | outside _ hout | created _ hout | cancelled _ hout | asked _ _ hout =>
    exact hout.connections ▸ hs
  | dropped _ hs' | ended hs' => exact hs' ▸ hs
  | ran _ hconn => exact hconn ▸ hs
  | accepted ha hadv hmakes =>
    rw [hmakes.connections]
    refine hs.insert (hi _ ?_)
    rw [ha]
    exact if_pos hadv
  | completed ha hexp hmakes =>
    rw [hmakes.connections]
    refine hs.insert (hi _ ?_)
    rw [ha]
    exact if_pos hexp
  | requested _ hc hr hconn =>
    obtain ⟨_, hask, -⟩ := asked_of_request hr
    rw [hconn]
    exact hs.replace hc hask.keeps.ends
  | received _ hb hc hends hr hconn =>
    obtain ⟨_, hansd, -⟩ := answered_of_incoming hb hends hr
    rw [hconn]
    exact hs.replace hc hansd.keeps.ends
  | encrypting _ _ hc hconn =>
    rw [hconn]
    exact hs.replace hc rfl
  | phyRequested _ _ hs' =>
    rw [hs']
    exact hs.modify fun _ => rfl
  | closed _ hconn =>
    rw [hconn]
    exact hs.erase
  | reset _ hconn =>
    rw [hconn]
    exact HashMap.uniqueBy_empty

/-- **No two connections have the same addresses, and a packet finds the one that has its own.** -/
theorem connections_unique {own : Address} {properties : ControllerProperties}
    {tr : List (Input × List Output)} (h : machine.Run Unconnected (new own properties) tr s) :
    s.leAclConnections.UniqueBy LeAclConnection.ends ∧
    ∀ env localAddress remoteAddress handle, s.getLeAclConnectionHandle env localAddress
      remoteAddress = some handle ↔ ∃ c, s.leAclConnections[handle]? = some c ∧
      c.ends = (localAddress, remoteAddress) := by
  have huniq : s.leAclConnections.UniqueBy LeAclConnection.ends := by
    refine h.invariant (fun s => s.leAclConnections.UniqueBy LeAclConnection.ends)
      HashMap.uniqueBy_empty ?_
    intro s i s' out hs hi hstep
    exact uniqueBy_ends_step hs hi (effect_of_step hstep)
  exact ⟨huniq, fun _ _ _ _ => huniq.keyBy_eq_some_iff⟩

/-- The host advertises. -/
def hostAdvertises : Input :=
  ⟨.bare 0, .command (.gap (.legacyAdvertising (.leSetAdvertisingEnable true)))⟩

/-- A peer sends a connect request. -/
def peerConnects (own peer : Address) : Input :=
  ⟨.bare 0,
    .packet ⟨peer, own, .gap (.leConnect .publicDeviceAddress .publicDeviceAddress 24 0 100)⟩⟩

theorem connections_unique_two_peers : ∃ tr s,
    machine.Run Unconnected (new 1 {}) tr s ∧ s.leAclConnections.size = 2 ∧
    s.leAclConnections.UniqueBy LeAclConnection.ends := by
  refine machine.run_and [hostAdvertises, peerConnects 1 2, hostAdvertises, peerConnects 1 3]
    (by decide +kernel) (by decide +kernel) fun tr s hrun _ => ?_
  exact (connections_unique hrun).1

/-- A peer that is connected connects again. -/
theorem connected_twice : ¬ ∀ tr s, machine.Run (fun _ _ => True) (new 1 {}) tr s →
      s.leAclConnections.UniqueBy LeAclConnection.ends := by
  intro hall
  have hx : machine.ExecTo (fun _ s =>
      (s.leAclConnections[(0x200 : UInt16)]?).map LeAclConnection.ends = some (1, 2) ∧
      (s.leAclConnections[(0x201 : UInt16)]?).map LeAclConnection.ends = some (1, 2))
      (new 1 {}) [hostAdvertises, peerConnects 1 2, hostAdvertises, peerConnects 1 2] := by
    decide +kernel
  obtain ⟨tr, s, hrun, h1, h2⟩ := machine.exists_free_run hx
  obtain ⟨c, hc, hends⟩ := Option.map_eq_some_iff.mp h1
  obtain ⟨c', hc', hends'⟩ := Option.map_eq_some_iff.mp h2
  exact absurd (hall tr s hrun _ _ c c' hc hc' (hends.trans hends'.symm)) (by decide)

end LeController

end RootCanal.LeAcl
