import RootCanal.LeAcl.Phy

/-!
# A Central connection is one that was asked for

An initiator that answers an advertising PDU keeps the address of the advertiser and its own, and
makes the connection when the completion arrives.  Everything is broadcast, so that the completions
of others arrive as well, and so do those of requests that were given up.

`expectsComplete` takes a completion that has **one** of the two addresses, and does not look
whether the initiator is enabled; LE Create Connection Cancel leaves the two addresses.  So
`completed_after_cancel`: a connection that the host has cancelled is made, and reported.

* `Initiator.Awaits`: the initiator is enabled and waits for exactly these two addresses.
* `Orderly`: no initiator comes to have one of the two addresses of a packet in flight without
  awaiting it. A request is not cancelled while its packets are in flight, a PDU is answered only
  with addresses that do not cross those of others, and a controller that accepts a connect request
  to the address it initiates from has no request in flight itself.

**`central_awaited`: in the runs that are orderly, a controller on the phy makes a Central
connection only if its initiator awaits the completion that it received.**  The proof is about the
packets in flight: one that has either of the two addresses of an initiator has both
(`Apart.exact`).

Source: `le_controller.cc` `IncomingLeConnectCompletePacket`, `LeCreateConnectionCancel`,
`ConnectIncomingLeLegacyAdvertisingPdu`, `ConnectIncomingLeExtendedAdvertisingPdu`
-/

namespace RootCanal.Gap

/-- The initiator is enabled and waits for a completion with these addresses. -/
structure Initiator.Awaits (a : Initiator) (ends : Address × AddressWithType) : Prop where
  connectEnable : a.connectEnable = true
  pending : a.pendingConnectRequest = some ends.2
  initiating : a.initiatingAddress = ends.1

instance Initiator.Awaits.decidable (a : Initiator) (ends : Address × AddressWithType) :
    Decidable (a.Awaits ends) :=
  decidable_of_iff (_ ∧ _ ∧ _) ⟨fun h => ⟨h.1, h.2.1, h.2.2⟩, fun h => ⟨h.1, h.2, h.3⟩⟩

/-- The initiator has one of these addresses. -/
def Initiator.Knows (a : Initiator) (ends : Address × AddressWithType) : Prop :=
  a.pendingConnectRequest = some ends.2 ∨ a.initiatingAddress = ends.1

instance Initiator.Knows.decidable (a : Initiator) (ends : Address × AddressWithType) :
    Decidable (a.Knows ends) := inferInstanceAs (Decidable (_ ∨ _))

/-- An initiator with nothing pending and no address of its own knows no addresses with a name. -/
theorem Initiator.not_knows_of_clear {a : Initiator} {ends : Address × AddressWithType}
    (hpend : a.pendingConnectRequest = none) (hclear : a.initiatingAddress = Address.kEmpty)
    (hends : ends.1 ≠ Address.kEmpty) : ¬a.Knows ends := by
  rintro (hknows | hknows)
  · cases hpend.symm.trans hknows
  · exact hends (hknows.symm.trans hclear)

end RootCanal.Gap

namespace RootCanal.LeAcl

open Lib RootCanal.Hci RootCanal.Gap

/-! ## What is in flight -/

/-- The initiating address and the advertiser, of a packet by which a connection is made. -/
def connecting (p : Packet) : Option (Address × AddressWithType) :=
  match p.body with
  | .gap (.leConnect _ advertisingType ..) =>
    some (p.sourceAddress, ⟨p.destinationAddress, advertisingType⟩)
  | .gap (.leConnectComplete _ advertisingType ..) =>
    some (p.destinationAddress, ⟨p.sourceAddress, advertisingType⟩)
  | _ => none

theorem connecting_of_isProcedure {p} (h : p.body.isProcedure) : connecting p = none := by
  obtain ⟨source, destination, body⟩ := p
  cases body <;> first | rfl | cases h

theorem connecting_of_discovers {p} (h : p.body.discovers) : connecting p = none := by
  obtain ⟨source, destination, body⟩ := p
  cases body with
  | gap body => cases body <;> first | rfl | cases h
  | _ => rfl

theorem connecting_of_disconnect {p} (h : ∃ reason, p.body = .disconnect reason) :
    connecting p = none := by
  obtain ⟨reason, h⟩ := h
  rw [connecting, h]

/-! ## What a step does with the initiator -/

/-- The advertiser that a connect request is for. -/
def connectTarget (p : Packet) : Option AddressWithType :=
  match p.body with
  | .gap (.leConnect _ advertisingType ..) => some ⟨p.destinationAddress, advertisingType⟩
  | _ => none

/-- None of the packets sent is one by which a connection is made. -/
def Unconnecting (out : List Output) : Prop := ∀ p ∈ packets out, connecting p = none

/-- What a step makes of the initiator, and the packets it sends by which a connection is made. -/
inductive Initiates (s : LeController) (i : Input) (s' : LeController) (out : List Output) : Prop
  | still : s'.initiator = s.initiator → Unconnecting out → Initiates s i s' out
  | created : s.initiator.connectEnable = false → s'.initiator.pendingConnectRequest = none →
      s'.initiator.connectEnable = true →
        s'.initiator.initiatingAddress = s.initiator.initiatingAddress →
      Unconnecting out → Initiates s i s' out
  | cancelled : i.action = .command (.gap .leCreateConnectionCancel) →
      s'.initiator = { s.initiator with connectEnable := false } → Unconnecting out →
      Initiates s i s' out
  | asked {p : Packet} {advertiser own : AddressWithType} : i.action = .packet p →
      soughtIn p = some advertiser → s.initiator.connectEnable = true →
      s.initiator.pendingConnectRequest = none →
      s.outside.initiatingAddressTo i.env.toEnv advertiser = .ok own →
      s'.initiator = { s.initiator with
        pendingConnectRequest := some advertiser
        initiatingAddress := own.address } →
      (∀ p ∈ packets out, ∀ ends, connecting p = some ends → ends = (own.address, advertiser)) →
      Initiates s i s' out
  | accepted {p : Packet} {advertiser : AddressWithType} : i.action = .packet p →
      connectTarget p = some advertiser → s.outside.advertises advertiser = true →
      s'.initiator = s.initiator.connected advertiser.address →
      (∀ q ∈ packets out, ∀ ends, connecting q = some ends → connecting p = some ends) →
      Initiates s i s' out
  | completed {p : Packet} {ends : Address × AddressWithType} : i.action = .packet p →
      connecting p = some ends → s.initiator.Knows ends →
      s'.initiator = { s.initiator.connected ends.1 with
        pendingConnectRequest := none
        connectEnable := false } → Unconnecting out → Initiates s i s' out
  | reset : s'.initiator = {} → Unconnecting out → Initiates s i s' out

variable {s s' : LeController} {i : Input} {out : List Output}

theorem unconnecting_of_nil (h : packets out = []) : Unconnecting out := by
  unfold Unconnecting
  rw [h]
  exact List.forall_mem_nil _

theorem unconnecting_of_bodies {c c' bodies} (hout : packets out = bodies.map c.sends)
    (h : Keeps c c' bodies) : Unconnecting out := by
  unfold Unconnecting
  rw [hout]
  refine List.forall_mem_map.mpr ?_
  intro body hb
  exact connecting_of_isProcedure (Body.isProcedure_of_suits (h.sent body hb))

theorem unconnecting_of_discovers (h : ∀ p ∈ packets out, p.body.discovers) : Unconnecting out :=
  fun p hp => connecting_of_discovers (h p hp)

/-- What is sent by which a connection is made is the one packet. -/
theorem connecting_of_sends {q : Gap.Packet} (h : Sends q out) : ∀ p ∈ packets out, ∀ ends,
    connecting p = some ends →
      connecting ⟨q.sourceAddress, q.destinationAddress, .gap q.body⟩ = some ends := by
  intro p hp ends hends
  rcases h p hp with hp | rfl
  · cases (connecting_of_discovers hp).symm.trans hends
  · exact hends

/-- What a step does to the initiator. -/
theorem Effect.initiates (h : Effect s i s' out) : Initiates s i s' out := by
  cases h with
  | aside _ has hout => exact .still has.initiator (unconnecting_of_nil hout)
  | outside _ _ hinit hpkts => exact .still hinit (unconnecting_of_discovers hpkts)
  | dropped _ hs' hout | ended hs' hout =>
    subst hs' hout
    exact .still rfl (List.forall_mem_nil _)
  | created _ _ hen hpkts =>
    exact .created hen.idle hen.pending hen.connectEnable hen.initiating
      (unconnecting_of_discovers hpkts)
  | cancelled ha _ hinit hpkts => exact .cancelled ha hinit (unconnecting_of_discovers hpkts)
  | asked ha hadv _ hena hpend hown hinit hsends =>
    refine .asked ha hadv hena hpend hown hinit fun p hp ends hends => ?_
    exact (Option.some.inj (connecting_of_sends hsends p hp ends hends)).symm
  | accepted ha hadvertises _ hinit hsends =>
    exact .accepted ha rfl hadvertises hinit (connecting_of_sends hsends)
  | completed ha hexp _ hinit hout =>
    exact .completed ha rfl (of_decide_eq_true hexp) hinit (unconnecting_of_nil hout)
  | requested _ _ hr _ hinit _ hout =>
    obtain ⟨_, hask, hbs, -⟩ := LeController.asked_of_request hr
    exact .still hinit (unconnecting_of_bodies (hout.trans hbs) hask.keeps)
  | received _ hb _ hends hr _ hinit _ hout =>
    obtain ⟨_, hansd, hbs, -⟩ := LeController.answered_of_incoming hb hends hr
    exact .still hinit (unconnecting_of_bodies (hout.trans hbs) hansd.keeps)
  | encrypting _ _ _ _ hinit _ hout =>
    refine .still hinit ?_
    unfold Unconnecting
    rw [hout]
    exact List.forall_mem_singleton.mpr rfl
  | ran _ _ hinit _ _ hout => exact .still hinit (unconnecting_of_nil hout)
  | phyRequested _ _ hs' hout =>
    subst hs'
    refine .still rfl ?_
    unfold Unconnecting
    rw [hout]
    exact List.forall_mem_singleton.mpr rfl
  | closed _ _ hinit _ _ hout =>
    exact .still hinit fun p hp => connecting_of_disconnect (hout p hp)
  | reset _ _ hinit _ hout =>
    exact .reset hinit fun p hp => connecting_of_disconnect (hout p hp)

/-- A Central connection is made by a completion. -/
theorem Effect.completes_of_central {handle : UInt16} {c : LeAclConnection} (h : Effect s i s' out)
    (hn : s.leAclConnections[handle]? = none) (hc : s'.leAclConnections[handle]? = some c)
    (hr : c.role = .central) :
    ∃ p initiatingType advertisingType interval latency timeout, i.action = .packet p ∧
      p.body = .gap (.leConnectComplete initiatingType advertisingType interval latency timeout) ∧
      s.initiator.Knows (p.destinationAddress, ⟨p.sourceAddress, advertisingType⟩) := by
  -- a step that makes no connection has none with a new handle
  have hreplaced : ∀ {k : UInt16} {c₀ c₁ : LeAclConnection}, s.leAclConnections[k]? = some c₀ →
      s'.leAclConnections = s.leAclConnections.insert k c₁ → False := by
    intro k c₀ c₁ hk hconn
    rw [hconn, HashMap.getElem?_insert'] at hc
    split at hc
    · rename_i heq
      rw [heq, hn] at hk
      cases hk
    · cases hn.symm.trans hc
  have hkept : s'.leAclConnections = s.leAclConnections → False := by
    intro hconn
    rw [hconn, hn] at hc
    cases hc
  cases h with
  | aside _ has => exact (hkept has.connections).elim
  | outside _ hout | created _ hout | cancelled _ hout | asked _ _ hout =>
    exact (hkept hout.connections).elim
  | dropped _ hs' | ended hs' => exact (hkept (congrArg _ hs')).elim
  | ran _ hconn => exact (hkept hconn).elim
  | accepted _ _ hmakes =>
    rw [hmakes.connections, HashMap.getElem?_insert'] at hc
    split at hc
    · cases hc
      cases hr
    · cases hn.symm.trans hc
  | completed ha hexp => exact ⟨_, _, _, _, _, _, ha, rfl, of_decide_eq_true hexp⟩
  | requested _ hk _ hconn | received _ _ hk _ _ hconn | encrypting _ _ hk hconn =>
    exact (hreplaced hk hconn).elim
  | phyRequested _ _ hs' =>
    rw [hs', show (s.setRequestedPhys ..).leAclConnections[handle]? = _
      from HashMap.getElem?_modify' .., hn] at hc
    split at hc
    · rename_i heq
      rw [heq, hn] at hc
      cases hc
    · cases hc
  | closed _ hconn =>
    rw [hconn, HashMap.getElem?_erase'] at hc
    split at hc
    · cases hc
    · cases hn.symm.trans hc
  | reset _ hconn =>
    rw [hconn, Std.ExtTreeMap.getElem?_empty] at hc
    cases hc

/-! ## The condition -/

section condition

variable {κ : Type} [DecidableEq κ]

/-- An address by which a connection is being made is known to the initiator, in what is in
flight. -/
def KnowsInFlight (w : Phy κ) (a : Initiator) : Prop :=
  ∃ y, ∃ p ∈ w.inbox y, ∃ e ∈ connecting p, a.Knows e

/-- Whoever else has one of the addresses awaits both, and what is in flight has both or none. -/
def Fresh (w : Phy κ) (x : κ) (ends : Address × AddressWithType) : Prop :=
  ends.1 ≠ Address.kEmpty ∧
  (∀ y, y ≠ x → (w.node y).initiator.Knows ends → (w.node y).initiator.Awaits ends) ∧
  ∀ y, ∀ p ∈ w.inbox y, ∀ e ∈ connecting p, e.1 = ends.1 ↔ e.2 = ends.2

/-- A PDU is answered with addresses that are fresh, and a connect request to the address that the
controller initiates from is not accepted while a request of its own is in flight. -/
def TakesInOrder (w : Phy κ) (x : κ) (env : Env) (p : Packet) : Prop :=
  ((w.node x).initiator.connectEnable = true → (w.node x).initiator.pendingConnectRequest = none →
    ∀ advertiser ∈ soughtIn p,
    ∀ own ∈ ((w.node x).outside.initiatingAddressTo env.toEnv advertiser).toOption,
      Fresh w x (own.address, advertiser)) ∧
  ∀ advertiser ∈ connectTarget p, (w.node x).outside.advertises advertiser →
    advertiser.address = (w.node x).initiator.initiatingAddress →
    ¬KnowsInFlight w ((w.node x).initiator.connected advertiser.address)

/-- A request is not cancelled while it is in flight, and packets are taken in order. -/
def InOrder (w : Phy κ) (x : κ) (j : Input) : Prop :=
  match j.action with
  | .command c => c = .gap .leCreateConnectionCancel → ¬KnowsInFlight w (w.node x).initiator
  | .packet p => TakesInOrder w x j.env p
  | _ => True

/-- What the controllers on the phy take, they take in order. -/
def Orderly : Phy κ → PhyInput κ → Prop := Phy.Meets InOrder

end condition

section decidable

variable {κ : Type} [DecidableEq κ] [Fintype κ]

instance KnowsInFlight.decidable (w : Phy κ) (a : Initiator) : Decidable (KnowsInFlight w a) :=
  Fintype.decidableExistsFintype

instance Fresh.decidable (w : Phy κ) (x : κ) (ends : Address × AddressWithType) :
    Decidable (Fresh w x ends) :=
  inferInstanceAs (Decidable (_ ∧ _ ∧ _))

instance TakesInOrder.decidable (w : Phy κ) (x : κ) (env : Env) (p : Packet) :
    Decidable (TakesInOrder w x env p) :=
  inferInstanceAs (Decidable (_ ∧ _))

instance InOrder.decidable (w : Phy κ) (x : κ) : (j : Input) → Decidable (InOrder w x j)
  | ⟨_, .command _⟩ => inferInstanceAs (Decidable (_ → ¬_))
  | ⟨env, .packet p⟩ => TakesInOrder.decidable w x env p
  | ⟨_, .runTask⟩ | ⟨_, .tick⟩ | ⟨_, .expire _⟩ => isTrue trivial

instance Orderly.decidable (w : Phy κ) (i : PhyInput κ) : Decidable (Orderly w i) :=
  Phy.Meets.decidable InOrder w i

end decidable

/-! ## The runs -/

section runs

variable {κ : Type} [DecidableEq κ] {w w' : Phy κ}

/-- What is in flight and the initiators do not mix. -/
structure Apart (w : Phy κ) : Prop where
  named : ∀ p, w.InFlight p → ∀ ends, connecting p = some ends → ends.1 ≠ Address.kEmpty
  exact : ∀ p, w.InFlight p → ∀ ends, connecting p = some ends → ∀ x,
    (w.node x).initiator.Knows ends → (w.node x).initiator.Awaits ends

/-- What a controller that changes has to satisfy for this to go on. -/
structure Apart.Next (w : Phy κ) (x : κ) (a : Initiator) (ms : List Packet) : Prop where
  sent : ∀ p ∈ ms, ∀ ends, connecting p = some ends → ends.1 ≠ Address.kEmpty ∧
    ∀ y, y ≠ x → (w.node y).initiator.Knows ends → (w.node y).initiator.Awaits ends
  exact : ∀ p, w.InFlight p ∨ p ∈ ms → ∀ ends, connecting p = some ends → a.Knows ends →
    a.Awaits ends

/-- A turn keeps the requests apart. -/
theorem Apart.act {i : PhyInput κ} {x : κ} {v : LeController} {ms : List Packet} (h : Apart w)
    (hnext : Apart.Next w x v.initiator ms) : Apart ((w.take i).act x v ms) := by
  have hnode : ∀ y, (((w.take i).act x v ms).node y) = if y = x then v else w.node y := by
    intro y
    rw [Network.State.act_node, Network.State.take_node]
  have hfl : ∀ {p}, ((w.take i).act x v ms).InFlight p → w.InFlight p ∨ p ∈ ms := by
    intro p hp
    exact (Network.State.inFlight_of_act hp).imp_left Network.State.inFlight_of_take
  constructor
  · intro p hp ends hends
    rcases hfl hp with hp | hp
    · exact h.named p hp ends hends
    · exact (hnext.sent p hp ends hends).1
  · intro p hp ends hends y
    rw [hnode]
    split
    · exact hnext.exact p (hfl hp) ends hends
    · rename_i hne
      rcases hfl hp with hp | hp
      · exact h.exact p hp ends hends y
      · exact (hnext.sent p hp ends hends).2 y hne

/-- What is sent by which a connection is made has the addresses of something in flight. -/
def Relays (w : Phy κ) (out : List Output) : Prop :=
  ∀ p ∈ packets out, ∀ ends, connecting p = some ends → ∃ q, w.InFlight q ∧ connecting q = some ends

omit [DecidableEq κ]

theorem Unconnecting.relays (h : Unconnecting out) : Relays w out := by
  intro p hp ends hends
  cases (h p hp).symm.trans hends

variable {x : κ} {j : Input} {v : LeController}

/-- An initiator that awaits what it knows. -/
theorem Apart.next_of_relays {a : Initiator} (h : Apart w) (hout : Relays w out)
    (ha : ∀ p, w.InFlight p → ∀ ends, connecting p = some ends → a.Knows ends → a.Awaits ends) :
    Apart.Next w x a (packets out) := by
  constructor
  · intro p hp ends hends
    obtain ⟨q, hq, hends⟩ := hout p hp ends hends
    exact ⟨h.named q hq ends hends, fun y _ => h.exact q hq ends hends y⟩
  · rintro p (hp | hp) ends hends
    · exact ha p hp ends hends
    · obtain ⟨q, hq, hends⟩ := hout p hp ends hends
      exact ha q hq ends hends

/-- An initiator that knows nothing of what is in flight. -/
theorem Apart.next_of_unknown {a : Initiator} (h : Apart w) (hout : Relays w out)
    (ha : ∀ p, w.InFlight p → ∀ ends, connecting p = some ends → ¬a.Knows ends) :
    Apart.Next w x a (packets out) :=
  h.next_of_relays hout fun p hp ends hends hknows => absurd hknows (ha p hp ends hends)

/-- An initiator that waits for nothing. -/
theorem Apart.next_of_clear {a : Initiator} (h : Apart w) (hpend : a.pendingConnectRequest = none)
    (hclear : a.initiatingAddress = Address.kEmpty) (hout : Relays w out) :
    Apart.Next w x a (packets out) :=
  h.next_of_unknown hout fun p hp ends hends =>
    Initiator.not_knows_of_clear hpend hclear (h.named p hp ends hends)

theorem not_knows_of_not_inFlight {a : Initiator} (h : ¬KnowsInFlight w a) :
    ∀ p, w.InFlight p → ∀ ends, connecting p = some ends → ¬a.Knows ends := by
  rintro p ⟨y, hp⟩ ends hends hknows
  exact h ⟨y, p, hp, ends, hends, hknows⟩

/-- An initiator that answers a PDU with fresh addresses awaits what it knows. -/
theorem Fresh.exact {ends : Address × AddressWithType} {a : Initiator} (h : Fresh w x ends)
    (ha : a.Awaits ends) {p : Packet} (hp : w.InFlight p) {e} (he : connecting p = some e)
    (hknows : a.Knows e) : a.Awaits e := by
  obtain ⟨y, hp⟩ := hp
  have hiff := h.2.2 y p hp e he
  have hfst : e.1 = ends.1 := by
    rcases hknows with hknows | hknows
    · exact hiff.mpr (Option.some.inj (hknows.symm.trans ha.pending))
    · exact hknows.symm.trans ha.initiating
  have heq : e = ends := Prod.ext hfst (hiff.mp hfst)
  rw [heq]
  exact ha

/-- **A step of a controller that takes its input in order.** -/
theorem Apart.next (h : Apart w) (hj : InOrder w x j)
    (hfl : ∀ p, j.action = .packet p → w.InFlight p)
    (hstep : Initiates (w.node x) j v out) : Apart.Next w x v.initiator (packets out) := by
  cases hstep with
  | still hinit hout =>
    rw [hinit]
    exact h.next_of_relays hout.relays fun p hp ends hends => h.exact p hp ends hends x
  | created hidle hpend _ hinitiating hout =>
    -- an initiator that is not enabled knows nothing of what is in flight
    refine h.next_of_unknown hout.relays ?_
    rintro p hp ends hends (hknows | hknows)
    · cases hpend.symm.trans hknows
    · have haw := h.exact p hp ends hends x (.inr (hinitiating.symm.trans hknows))
      cases hidle.symm.trans haw.connectEnable
  | cancelled ha hinit hout =>
    rw [InOrder, ha] at hj
    rw [hinit]
    exact h.next_of_unknown hout.relays (not_knows_of_not_inFlight (hj rfl))
  | @asked _ advertiser own ha hadv hena hpend hown hinit hout =>
    rw [InOrder, ha] at hj
    have hfresh := hj.1 hena hpend _ hadv _ (toOption_eq_some.mpr hown)
    have haw : v.initiator.Awaits (own.address, advertiser) := by
      rw [hinit]
      exact ⟨hena, rfl, rfl⟩
    constructor
    · intro p hp ends hends
      cases hout p hp ends hends
      exact ⟨hfresh.1, hfresh.2.1⟩
    · rintro p (hp | hp) ends hends hknows
      · exact hfresh.exact haw hp hends hknows
      · cases hout p hp ends hends
        exact haw
  | @accepted p advertiser ha htarget hadvertises hinit hout =>
    rw [InOrder, ha] at hj
    have hrelays : Relays w out := fun q hq ends hends => ⟨p, hfl p ha, hout q hq ends hends⟩
    by_cases hown : advertiser.address = (w.node x).initiator.initiatingAddress
    · -- the address is cleared, so that nothing of what is in flight may be known
      rw [hinit]
      exact h.next_of_unknown hrelays
        (not_knows_of_not_inFlight (hj.2 advertiser htarget hadvertises hown))
    · rw [hinit, Initiator.connected, if_neg hown]
      exact h.next_of_relays hrelays fun p hp ends hends => h.exact p hp ends hends x
  | @completed p ends ha hends hknows hinit hout =>
    have haw := h.exact p (hfl p ha) ends hends x hknows
    rw [hinit]
    refine h.next_of_clear rfl ?_ hout.relays
    exact if_pos haw.initiating.symm
  | reset hinit hout =>
    rw [hinit]
    exact h.next_of_clear rfl rfl hout.relays

end runs

section runs

variable {κ : Type} [DecidableEq κ] {own : κ → Address} {properties : κ → ControllerProperties}
  {w w' : Phy κ} {i : PhyInput κ} {outs : List (κ × Output)}
  {tr : List (PhyInput κ × List (κ × Output))}

omit [DecidableEq κ] in
/-- Nothing is in flight at the start. -/
theorem apart_new : Apart (Phy.new own properties) := by
  constructor
  · rintro p ⟨x, hp⟩
    cases hp
  · rintro p ⟨x, hp⟩
    cases hp

/-- **A step keeps the requests apart**. -/
theorem Apart.step (h : Apart w) (hi : Orderly w i) (hstep : phy.step w i = .ok (w', outs)) :
    Apart w' := by
  rcases Phy.effect_of_step hstep with ⟨-, rfl⟩ | ⟨x, j, v, out, htk, heff, rfl⟩
  · exact h
  · refine h.act (h.next (hi.2 (x, j) htk) ?_ heff.initiates)
    intro p hp
    exact Phy.inFlight_of_taken hi.1 htk hp

/-- **A controller makes a Central connection only when it receives a completion with exactly the
addresses of the request that its initiator is enabled for and has pending.** -/
theorem central_awaited (h : phy.Run Orderly (.new own properties) tr w) (hi : Orderly w i)
    (hstep : phy.step w i = .ok (w', outs)) {x : κ} {handle : UInt16} {c : LeAclConnection}
    (hnone : (w.node x).leAclConnections[handle]? = none)
    (hc : (w'.node x).leAclConnections[handle]? = some c) (hrole : c.role = .central) :
    ∃ env p initiatingType advertisingType interval latency timeout,
      w.taken i = some (x, ⟨env, .packet p⟩) ∧
      p.body = .gap (.leConnectComplete initiatingType advertisingType interval latency timeout) ∧
      (w.node x).initiator.connectEnable = true ∧
      (w.node x).initiator.pendingConnectRequest = some ⟨p.sourceAddress, advertisingType⟩ ∧
      (w.node x).initiator.initiatingAddress = p.destinationAddress := by
  have hw : Apart w := h.invariant Apart apart_new fun _ _ _ _ hw hi hstep => hw.step hi hstep
  rcases Phy.effect_of_step hstep with ⟨-, rfl⟩ | ⟨y, j, v, out, htk, heff, rfl⟩
  · cases hnone.symm.trans hc
  · rw [Network.State.act_node, Network.State.take_node] at hc
    split at hc
    · rename_i hxy
      subst hxy
      obtain ⟨p, initiatingType, advertisingType, interval, latency, timeout, hp, hb, hknows⟩ :=
        heff.completes_of_central hnone hc hrole
      have hfl := Phy.inFlight_of_taken hi.1 htk hp
      have haw := hw.exact p hfl (p.destinationAddress, ⟨p.sourceAddress, advertisingType⟩)
        (by rw [connecting, hb]) x hknows
      obtain ⟨env, action⟩ := j
      cases (show action = _ from hp)
      exact ⟨env, p, initiatingType, advertisingType, interval, latency, timeout, htk, hb,
        haw.connectEnable, haw.pending, haw.initiating⟩
    · cases hnone.symm.trans hc

end runs

/-- The host gives up the connection that it wanted. -/
def cancels {n : Nat} (x : Fin n) : PhyInput (Fin n) :=
  .act x ⟨.bare 0, .command (.gap .leCreateConnectionCancel)⟩

/-- The host wants the LE events. -/
def unmasks {n : Nat} (x : Fin n) : PhyInput (Fin n) :=
  .act x ⟨.bare 0, .command (.gap (.setEventMask 0x3fffffffffffffff))⟩

/-- Three controllers: the second advertises, and the first connects to it. -/
def firstAsksSecond : List (PhyInput (Fin 3)) :=
  [advertiseOn 1, connectTo 0 1, advertises 1, delivers 0, delivers 1]

theorem central_awaited_three : ∃ tr w w' outs c, phy.Run Orderly (.small 3) tr w ∧
    phy.step w (delivers 0) = .ok (w', outs) ∧
      (w'.node 0).leAclConnections[(0x200 : UInt16)]? = some c ∧
    c.role = .central ∧ (w.node 0).initiator.connectEnable = true := by
  have hx : phy.ExecTo (fun _ w => Orderly w (delivers 0) ∧
      (w.node 0).leAclConnections[(0x200 : UInt16)]? = none ∧
      ∃ r ∈ (phy.step w (delivers 0)).toOption,
        ∃ c ∈ (r.1.node 0).leAclConnections[(0x200 : UInt16)]?,
        c.role = .central) (.small 3) firstAsksSecond := by
    decide +kernel
  obtain ⟨tr, w, hrun, hi, hn, ⟨w', outs⟩, hstep, c, hc, hr⟩ :=
    phy.exists_run (C := Orderly) (by decide +kernel) hx
  have hstep := toOption_eq_some.mp hstep
  obtain ⟨_, _, _, _, _, _, _, _, _, hena, _⟩ := central_awaited hrun hi hstep hn hc hr
  exact ⟨tr, w, w', outs, c, hrun, hstep, hc, hr, hena⟩

/-- The completion arrives after the host has cancelled the connection, which is made, and
reported. -/
theorem completed_after_cancel :
    ∃ tr w w' outs, phy.Run (Phy.Meets fun _ _ _ => True) (.small 3) tr w ∧
    phy.step w (delivers 0) = .ok (w', outs) ∧ (w.node 0).initiator.connectEnable = false ∧
    (w.node 0).leAclConnections[(0x200 : UInt16)]? = none ∧
    ((w'.node 0).leAclConnections[(0x200 : UInt16)]?).map LeAclConnection.role = some .central ∧
    (0, Output.event (.leConnectionComplete .success 0x200 .central
      ⟨addressFrom1 (1 : Fin 3), .publicDeviceAddress⟩ 24 0 100)) ∈ outs := by
  have hx : phy.ExecTo (fun _ w => (w.node 0).initiator.connectEnable = false ∧
      (w.node 0).leAclConnections[(0x200 : UInt16)]? = none ∧
      ∃ r ∈ (phy.step w (delivers 0)).toOption,
        ((r.1.node 0).leAclConnections[(0x200 : UInt16)]?).map LeAclConnection.role =
          some .central ∧
        (0, Output.event (.leConnectionComplete .success 0x200 .central
          ⟨addressFrom1 (1 : Fin 3), .publicDeviceAddress⟩ 24 0 100)) ∈ r.2) (.small 3)
      (unmasks 0 :: firstAsksSecond ++ [cancels 0]) := by
    decide +kernel
  obtain ⟨tr, w, hrun, hcancelled, hn, ⟨w', outs⟩, hstep, hmade, hrep⟩ :=
    phy.exists_run (C := Phy.Meets fun _ _ _ => True) (by decide +kernel) hx
  exact ⟨tr, w, w', outs, hrun, toOption_eq_some.mp hstep, hcancelled, hn, hmade, hrep⟩

end RootCanal.LeAcl
