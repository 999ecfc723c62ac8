import Mathlib.Data.Sym.Sym2
import RootCanal.LeAcl.Phy
import RootCanal.LeAcl.ParameterAgreement

/-!
# The law of the connection parameters

The parameters of a connection are written when it is made, when they are updated, when a host
replies to a request for others, and when the connection is subrated.  Each of these has a check of
its own, in units of its own, or none at all.

* `Suits`: what the documentation of the parameters asks of them.
* `Within I`: on a link between two addresses no host gives an interval above `I` of the two; the
  parameters of a connect request and those of an update satisfy the law, a subrate request
  satisfies it even at `I`, and a request is refused for a reason.
* `update_breaks_law`: an update is not checked.

**`connections_lawful`: while the hosts keep to `Within I`, every connection of every controller on
the phy satisfies the law.**  A subrate request is checked against the interval of the end that
makes it, and the other end may have another one by then: this is why there is a bound for all
intervals of a link.

Source: `le_acl_connection.h` `LeAclConnectionParameters`, `le_controller.cc`
-/

namespace RootCanal.LeAcl

open Lib RootCanal.Hci RootCanal.Gap

/-- The law of the connection parameters. The interval is in units of 1.25 ms and the timeout in
units of 10 ms; the two times are compared in hundredths of a millisecond.
Source: `LeAclConnectionParameters` -/
structure Suits (interval factor latency timeout : UInt16) : Prop where
  factor_le : factor.toNat * (latency.toNat + 1) ≤ 500
  lt_half : 2 * (125 * (interval.toNat * factor.toNat * (latency.toNat + 1))) < 1000 * timeout.toNat

instance Suits.decidable (interval factor latency timeout : UInt16) :
    Decidable (Suits interval factor latency timeout) :=
  decidable_of_iff (_ ∧ _) ⟨fun h => ⟨h.1, h.2⟩, fun h => ⟨h.factor_le, h.lt_half⟩⟩

/-- The parameters of a connection satisfy the law. -/
def LeAclConnectionParameters.Lawful (p : LeAclConnectionParameters) : Prop :=
  Suits p.connInterval p.connSubrateFactor p.connPeripheralLatency p.connSupervisionTimeout

variable {I interval factor latency timeout : UInt16}

/-- A smaller interval or factor suits as well. -/
theorem Suits.mono {interval' factor'} (h : Suits interval factor latency timeout)
    (hint : interval' ≤ interval) (hfactor : factor' ≤ factor) :
    Suits interval' factor' latency timeout := by
  have hi : interval'.toNat ≤ interval.toNat := UInt16.le_iff_toNat_le.mp hint
  have hf : factor'.toNat ≤ factor.toNat := UInt16.le_iff_toNat_le.mp hfactor
  have hfactor : factor'.toNat * (latency.toNat + 1) ≤ factor.toNat * (latency.toNat + 1) :=
      Nat.mul_le_mul_right _ hf
  have htime : interval'.toNat * factor'.toNat * (latency.toNat + 1) ≤
      interval.toNat * factor.toNat * (latency.toNat + 1) :=
    Nat.mul_le_mul_right _ (Nat.mul_le_mul hi hf)
  have := h.factor_le
  have := h.lt_half
  constructor <;> omega

/-- Parameters without subrating suit when the latency is in its range and the timeout long
enough. -/
theorem suits_one (hlat : latency.toNat ≤ 499)
    (hto : interval.toNat * (latency.toNat + 1) < 4 * timeout.toNat) :
    Suits interval 1 latency timeout := by
  constructor
  · rw [show (1 : UInt16).toNat = 1 from rfl]
    omega
  · rw [show (1 : UInt16).toNat = 1 from rfl, Nat.mul_one]
    omega

/-- The check of a reply is enough for the law. -/
theorem ReplyChecked.suits {intervalMin intervalMax}
    (h : ReplyChecked intervalMin intervalMax timeout latency) :
    Suits intervalMin 1 latency timeout := by
  have hmax : Suits intervalMax 1 latency timeout := by
    refine suits_one (UInt16.le_iff_toNat_le.mp h.latency_le) ?_
    have hlt := h.lt_timeout
    rw [Nat.add_comm 1, Nat.mul_comm _ intervalMax.toNat] at hlt
    omega
  exact hmax.mono h.interval_le (UInt16.le_refl 1)

/-! ## The hosts -/

/-- Parameters without subrating that satisfy the law, with an interval of at most `I`. -/
def PlainWithin (I interval latency timeout : UInt16) : Prop :=
  interval ≤ I ∧ Suits interval 1 latency timeout

instance PlainWithin.decidable (I interval latency timeout : UInt16) :
    Decidable (PlainWithin I interval latency timeout) := inferInstanceAs (Decidable (_ ∧ _))

/-- A command about a connection gives no interval above `I`, and the parameters of an update and of
a subrate request satisfy the law, the latter for an interval of `I`. -/
def Request.Within (I : UInt16) (c : LeAclConnection) : Request → Prop
  | .leConnectionUpdate _ intervalMax latency timeout =>
    c.role = .central → PlainWithin I intervalMax latency timeout
  | .leRemoteConnectionParameterRequestReply intervalMin .. => intervalMin ≤ I
  | .leRemoteConnectionParameterRequestNegativeReply reason => reason ≠ .success
  | .leSubrateRequest _ subrateMax maxLatency _ timeout => Suits I subrateMax maxLatency timeout
  | _ => True

instance Request.Within.decidable (I : UInt16) (c : LeAclConnection) :
    (request : Request) → Decidable (request.Within I c)
  | .leConnectionUpdate _ _ _ _ => inferInstanceAs (Decidable (_ → PlainWithin ..))
  | .leRemoteConnectionParameterRequestReply .. => inferInstanceAs (Decidable (_ ≤ _))
  | .leRemoteConnectionParameterRequestNegativeReply _ => inferInstanceAs (Decidable (_ ≠ _))
  | .leSubrateRequest .. => inferInstanceAs (Decidable (Suits ..))
  | .leEnableEncryption .. | .leLongTermKeyRequestReply _ | .leLongTermKeyRequestNegativeReply =>
    isTrue trivial

/-- The two addresses of the link on which a packet is sent. -/
def Packet.between (p : Packet) : Sym2 Address := s(p.sourceAddress, p.destinationAddress)

/-- The two addresses of the link of a connection. -/
def LeAclConnection.between (c : LeAclConnection) : Sym2 Address := s(c.ends.1, c.ends.2)

/-- The parameters with which the initiator answers an advertising PDU are within the law. They are
those of the LE 1M PHY, which may be of an earlier command than the one that enabled the
initiator. -/
def LeController.AsksWithin (I : Sym2 Address → UInt16) (s : LeController) (env : Env)
    (p : Packet) : Prop :=
  s.initiator.connectEnable = true → s.initiator.pendingConnectRequest = none →
  ∀ advertiser ∈ soughtIn p, ∀ own ∈ (s.outside.initiatingAddressTo env.toEnv advertiser).toOption,
    PlainWithin (I s(own.address, advertiser.address)) s.initiator.le1mPhy.connectionIntervalMax
      s.initiator.le1mPhy.maxLatency s.initiator.le1mPhy.supervisionTimeout

instance LeController.AsksWithin.decidable (I : Sym2 Address → UInt16)
    (s : LeController) (env : Env) (p : Packet) : Decidable (s.AsksWithin I env p) :=
  inferInstanceAs (Decidable (_ → _ → ∀ advertiser ∈ soughtIn p, ∀ own ∈ _, PlainWithin ..))

/-- The host keeps to the law, and so does the connect request that answers a packet. -/
def KeepsLaw (I : Sym2 Address → UInt16) (s : LeController) (i : Input) : Prop :=
  match i.action with
  | .command (.onConnection handle request) =>
    ∀ c ∈ s.leAclConnections[handle]?, request.Within (I c.between) c
  | .packet p => s.AsksWithin I i.env p
  | _ => True

instance KeepsLaw.decidable (I : Sym2 Address → UInt16) (s : LeController) :
    (i : Input) → Decidable (KeepsLaw I s i)
  | ⟨_, .command (.onConnection handle _)⟩ =>
    @Option.decidableForallMem _ _ (fun _ => Request.Within.decidable ..)
      s.leAclConnections[handle]?
  | ⟨env, .packet p⟩ => LeController.AsksWithin.decidable I s env p
  | ⟨_, .command (.gap _)⟩ | ⟨_, .command (.setEventMaskPage2 _)⟩
  | ⟨_, .command (.leSetDefaultPhy ..)⟩ | ⟨_, .command (.leSetDefaultSubrate ..)⟩
  | ⟨_, .command (.disconnect ..)⟩ | ⟨_, .command (.leSetPhy ..)⟩ | ⟨_, .runTask⟩ | ⟨_, .tick⟩
  | ⟨_, .expire _⟩ => isTrue trivial

/-- The hosts keep to the law. -/
def Within {κ : Type} [DecidableEq κ] (I : Sym2 Address → UInt16) : Phy κ → PhyInput κ → Prop :=
  Phy.Meets fun s x j => KeepsLaw I (s.node x) j

instance Within.decidable {κ : Type} [DecidableEq κ] (I : Sym2 Address → UInt16) (s : Phy κ)
    (i : PhyInput κ) : Decidable (Within I s i) :=
  Phy.Meets.decidable (fun s x j => KeepsLaw I (s.node x) j) s i

/-! ## The connections and the packets -/

/-- The connection satisfies the law, with an interval of at most `I`. -/
def LeAclConnection.Within (I : UInt16) (c : LeAclConnection) : Prop :=
  c.parameters.connInterval ≤ I ∧ c.parameters.Lawful

/-- What a packet makes of a connection is within the law. -/
def Body.Within (I : UInt16) : Body → Prop
  | .gap (.leConnect _ _ interval latency timeout)
  | .gap (.leConnectComplete _ _ interval latency timeout) =>
    PlainWithin I interval latency timeout
  | .leConnectionParameterUpdate status interval latency timeout =>
    status = ErrorCode.success.toUInt8 → PlainWithin I interval latency timeout
  | .llSubrateReq _ subrateMax latency _ timeout => Suits I subrateMax latency timeout
  | .llSubrateInd status factor _ latency _ timeout =>
    status = ErrorCode.success.toUInt8 → Suits I factor latency timeout
  | _ => True

/-- What a packet makes of a connection of its link is within the law. -/
def Packet.Within (I : Sym2 Address → UInt16) (p : Packet) : Prop := p.body.Within (I p.between)

/-- The connections of a controller are within the law. -/
def LeController.Within (I : Sym2 Address → UInt16) (s : LeController) : Prop :=
  s.leAclConnections.Every fun c => c.Within (I c.between)

variable {s s' : LeController} {c c' : LeAclConnection} {request : Request} {body : Body}
  {bodies : List Body}

/-- The subrate of a connection within the law changes to one that is within it for an interval of
`I`. -/
theorem LeAclConnection.Within.withSubrate {continuation} (hc : c.Within I)
    (h : Suits I factor latency timeout) :
    (LeController.withSubrate c factor latency continuation timeout).Within I :=
  ⟨hc.1, h.mono hc.1 (UInt16.le_refl _)⟩

theorem Body.within_of_discovers (h : body.discovers) : body.Within I := by
  cases body with
  | gap body => cases body <;> first | exact trivial | cases h
  | _ => cases h

/-- **A command that keeps to the law leaves the connection within it, and so does what it
sends.** -/
theorem Asked.within (h : Asked c request c' bodies) (hc : c.Within I) (hreq : request.Within I c) :
    c'.Within I ∧ ∀ body ∈ bodies, body.Within I := by
  cases h with
  | update hr =>
    refine ⟨hc, List.forall_mem_singleton.mpr ?_⟩
    intro _
    exact hreq hr
  | reply hchk =>
    have hplain : PlainWithin I _ _ _ := ⟨hreq, hchk.suits⟩
    exact ⟨hplain, List.forall_mem_singleton.mpr fun _ => hplain⟩
  | negativeReply =>
    refine ⟨hc, List.forall_mem_singleton.mpr ?_⟩
    intro hst
    exact absurd hst (toUInt8_ne_success hreq)
  | subrate =>
    exact ⟨hc.withSubrate hreq, List.forall_mem_singleton.mpr fun _ => hreq⟩
  | subrateRequest => exact ⟨hc, List.forall_mem_singleton.mpr hreq⟩
  | updateRequest | negativeKeyReply | keyReply => exact ⟨hc, List.forall_mem_singleton.mpr trivial⟩
  | enable => exact ⟨hc, List.forall_mem_nil _⟩

/-- **A packet within the law leaves the connection within it, and so does what is sent in
answer.** -/
theorem Answered.within (h : Answered s c body c' bodies) (hc : c.Within I) (hb : body.Within I) :
    c'.Within I ∧ ∀ body ∈ bodies, body.Within I := by
  cases h with
  | parameterUpdate =>
    refine ⟨?_, List.forall_mem_nil _⟩
    split
    · rename_i hst
      exact hb hst
    · exact hc
  | subrateUpdate =>
    refine ⟨?_, List.forall_mem_nil _⟩
    split
    · rename_i hst
      exact hc.withSubrate (hb hst)
    · exact hc
  | subrateAccepted _ hacc hfactor hlat hto =>
    obtain ⟨-, -, hmaxLatency, hmaxTimeout, -⟩ := of_decide_eq_true hacc
    -- the latency and the timeout of an accepted request are taken as they are
    rw [show min _ _ = _ from if_pos hmaxLatency] at hlat
    rw [show min _ _ = _ from if_pos hmaxTimeout] at hto
    subst hfactor hlat hto
    have hsuits :=
        hb.mono (UInt16.le_refl I) (Std.min_le_left (b := c.subrateParameters.subrateMax))
    exact ⟨hc.withSubrate hsuits, List.forall_mem_singleton.mpr fun _ => hsuits⟩
  | parameterRefused | subrateRefused =>
    refine ⟨hc, List.forall_mem_singleton.mpr ?_⟩
    intro hst
    exact absurd hst (by decide)
  | parameterRequest | encrypt | encryptResponse | phyUpdate => exact ⟨hc, List.forall_mem_nil _⟩
  | phyReply | phySelect | phyResponse => exact ⟨hc, List.forall_mem_singleton.mpr trivial⟩

section link

variable {I : Sym2 Address → UInt16} {out : List Output}

theorem sends_within {q : Gap.Packet} (h : Sends q out)
    (hq : (Body.gap q.body).Within (I s(q.sourceAddress, q.destinationAddress))) :
    ∀ p ∈ packets out, p.Within I := by
  intro p hp
  rcases h p hp with hp | rfl
  · exact Body.within_of_discovers hp
  · exact hq

/-- What is sent on a connection is within the law when its bodies are. -/
theorem packets_within (hout : packets out = bodies.map c.sends)
    (hbs : ∀ body ∈ bodies, body.Within (I c.between)) : ∀ p ∈ packets out, p.Within I := by
  rw [hout]
  exact List.forall_mem_map.mpr hbs

theorem packets_within_of_disconnect
    (hout : ∀ p ∈ packets out, ∃ reason, p.body = .disconnect reason) :
    ∀ p ∈ packets out, p.Within I := by
  intro p hp
  obtain ⟨_, hb⟩ := hout p hp
  rw [Packet.Within, hb]
  exact trivial

/-- A new connection is within the law when the packet that makes it is. -/
theorem newConnection_within {handle interval latency timeout : UInt16} {resolved : AddressWithType}
    {address own : AddressWithType} {role : Role} (hs : s.Within I)
    (hmakes : s.Makes s' address resolved own role interval latency timeout handle)
    (hplain : PlainWithin (I s(address.address, own.address)) interval latency timeout) :
    s'.Within I := by
  have hlink : (s.newConnection handle address resolved own role interval latency timeout).between =
      s(address.address, own.address) := Sym2.eq_swap
  unfold LeController.Within
  rw [hmakes.connections]
  refine HashMap.Every.insert hs ?_
  rw [hlink]
  exact hplain

/-- A connection that is replaced by one within the law. -/
theorem replaced_within {handle : UInt16} (hs : s.Within I) (hends : c'.ends = c.ends)
    (hc' : c'.Within (I c.between))
    (hconn : s'.leAclConnections = s.leAclConnections.insert handle c') :
    s'.Within I := by
  unfold LeController.Within
  rw [hconn]
  refine HashMap.Every.insert hs ?_
  unfold LeAclConnection.between
  rw [hends]
  exact hc'

/-- **A step of a controller keeps it within the law, and what it sends.** -/
theorem Effect.within {i} (h : Effect s i s' out) (hs : s.Within I) (hi : KeepsLaw I s i)
    (hp : ∀ p, i.action = .packet p → p.Within I) : s'.Within I ∧
      ∀ p ∈ packets out, p.Within I := by
  have hkept : s'.leAclConnections = s.leAclConnections → s'.Within I := by
    intro hconn
    unfold LeController.Within
    rw [hconn]
    exact hs
  cases h with
  | aside _ has hout =>
    rw [hout]
    exact ⟨hkept has.connections, List.forall_mem_nil _⟩
  | outside _ hout _ hpkts | created _ hout _ hpkts | cancelled _ hout _ hpkts =>
    exact ⟨hkept hout.connections, fun p hp => Body.within_of_discovers (hpkts p hp)⟩
  | dropped _ hs' hout | ended hs' hout =>
    subst hs' hout
    exact ⟨hs, List.forall_mem_nil _⟩
  | asked ha hadv hout hena hpend hown _ hsends =>
    rw [KeepsLaw, ha] at hi
    exact ⟨hkept hout.connections, sends_within hsends
      (hi hena hpend _ hadv _ (toOption_eq_some.mpr hown))⟩
  | @accepted source destination _ _ _ _ _ _ _ ha _ hmakes _ hsends =>
    have hplain := hp _ ha
    refine ⟨newConnection_within hs hmakes hplain, sends_within hsends ?_⟩
    rw [show s(destination, source) = s(source, destination) from Sym2.eq_swap]
    exact hplain
  | completed ha _ hmakes _ hout =>
    have hplain := hp _ ha
    rw [hout]
    exact ⟨newConnection_within hs hmakes hplain, List.forall_mem_nil _⟩
  | @requested _ c _ _ ha hc hr hconn _ _ hout =>
    obtain ⟨bodies, hask, hbs, -⟩ := LeController.asked_of_request hr
    rw [KeepsLaw, ha] at hi
    obtain ⟨hc', hsent⟩ := hask.within (hs _ _ hc) (hi c hc)
    exact ⟨replaced_within hs hask.keeps.ends hc' hconn, packets_within (hout.trans hbs) hsent⟩
  | @received p _ c _ ha hb hc hends hr hconn _ _ hout =>
    obtain ⟨bodies, hansd, hbs, -⟩ := LeController.answered_of_incoming hb hends hr
    have hlink : c.between = p.between := by
      unfold LeAclConnection.between
      rw [hends]
      exact Sym2.eq_swap
    obtain ⟨hc', hsent⟩ := hansd.within (hs _ _ hc) (hlink ▸ hp _ ha)
    exact ⟨replaced_within hs hansd.keeps.ends hc' hconn, packets_within (hout.trans hbs) hsent⟩
  | encrypting _ _ hc hconn _ _ hout =>
    rw [hout]
    refine ⟨?_, List.forall_mem_singleton.mpr trivial⟩
    unfold LeController.Within
    rw [hconn]
    have hwithin := hs _ _ hc
    exact HashMap.Every.insert hs hwithin
  | ran _ hconn _ _ _ hout =>
    rw [hout]
    exact ⟨hkept hconn, List.forall_mem_nil _⟩
  | phyRequested _ _ hs' hout =>
    rw [hout, hs']
    exact ⟨HashMap.Every.modify (fun _ hc => hc) hs, List.forall_mem_singleton.mpr trivial⟩
  | closed _ hconn _ _ _ hout =>
    refine ⟨?_, packets_within_of_disconnect hout⟩
    unfold LeController.Within
    rw [hconn]
    exact HashMap.Every.erase hs
  | reset _ hconn _ _ hout =>
    refine ⟨?_, packets_within_of_disconnect hout⟩
    unfold LeController.Within
    rw [hconn]
    exact HashMap.every_empty

end link

/-! ## The controllers on the phy -/

section runs

variable {κ : Type} [DecidableEq κ] {own : κ → Address} {properties : κ → ControllerProperties}
  {I : Sym2 Address → UInt16} {w : Phy κ} {tr : List (PhyInput κ × List (κ × Output))}

/-- The controllers on the phy stay within the law, and what is on its way. -/
theorem holds_within (h : phy.Run (Within I) (.new own properties) tr w) :
    Network.Holds (LeController.Within I) (Packet.Within I) w := by
  refine h.invariant _ ?_ ?_
  · refine ⟨fun _ => HashMap.every_empty, ?_⟩
    rintro p ⟨x, hp⟩
    cases hp
  · intro w i w' outs hw hi hstep
    refine Phy.holds_step hw ?_ hstep
    intro x j v out htk heff
    refine heff.within (hw.node x) (hi.2 (x, j) htk) ?_
    intro p hp
    exact hw.inFlight p (Phy.inFlight_of_taken hi.1 htk hp)

/-- **Every connection of every controller satisfies the law.** -/
theorem connections_lawful (h : phy.Run (Within I) (.new own properties) tr w) (x : κ)
    (handle : UInt16) (c : LeAclConnection) (hc : (w.node x).leAclConnections[handle]? = some c) :
    c.parameters.Lawful :=
  ((holds_within h).node x handle c hc).2

end runs

/-- The second controller advertises, and the first connects to it. -/
def firstToSecond : List (PhyInput (Fin 2)) :=
  [advertiseOn 1, connectTo 0 1, advertises 1, delivers 0, delivers 1, delivers 0]

/-- The host of the Central updates the connection. -/
def updateTo (intervalMax latency timeout : UInt16) : PhyInput (Fin 2) :=
  .act 0
    ⟨.bare 0, .command (.onConnection 0x200 (.leConnectionUpdate 6 intervalMax latency timeout))⟩

/-- The host of the Central asks for a subrate. -/
def subrateTo (factor latency timeout : UInt16) : PhyInput (Fin 2) :=
  .act 0
    ⟨.bare 0, .command (.onConnection 0x200 (.leSubrateRequest factor factor latency 0 timeout))⟩

theorem connections_lawful_subrated : ∃ tr w c, phy.Run (Within fun _ => 40) (.small 2) tr w ∧
    (w.node 1).leAclConnections[(0x200 : UInt16)]? = some c ∧ c.parameters = ⟨40, 4, 0, 1, 3000⟩ ∧
    c.parameters.Lawful := by
  have hx : phy.ExecTo (fun _ w => ∃ c ∈ (w.node 1).leAclConnections[(0x200 : UInt16)]?,
      c.parameters = ⟨40, 4, 0, 1, 3000⟩) (.small 2)
      (firstToSecond ++ [updateTo 40 0 200, delivers 1, subrateTo 4 1 3000, delivers 1]) := by
    decide +kernel
  obtain ⟨tr, w, hrun, c, hc, hpar⟩ := phy.exists_run (C := Within fun _ => 40)
    (by decide +kernel) hx
  exact ⟨tr, w, c, hrun, hc, hpar, connections_lawful hrun 1 0x200 c hc⟩

/-- An update to parameters that the law forbids is sent and taken. -/
theorem update_breaks_law : ∃ tr w c, phy.Run (Phy.Meets fun _ _ _ => True) (.small 2) tr w ∧
    (w.node 1).leAclConnections[(0x200 : UInt16)]? = some c ∧ ¬c.parameters.Lawful := by
  have hx : phy.ExecTo (fun _ w => ∃ c ∈ (w.node 1).leAclConnections[(0x200 : UInt16)]?,
      c.parameters = ⟨3200, 1, 0, 499, 10⟩) (.small 2)
      (firstToSecond ++ [updateTo 3200 499 10, delivers 1]) := by
    decide +kernel
  obtain ⟨tr, w, hrun, c, hc, hpar⟩ := phy.exists_run (C := Phy.Meets fun _ _ _ => True)
    (by decide +kernel) hx
  refine ⟨tr, w, c, hrun, hc, ?_⟩
  rw [hpar]
  exact fun hlaw => absurd hlaw.lt_half (by decide)

end RootCanal.LeAcl
