import RootCanal.LeAcl.Turns
import RootCanal.Lib.Network

/-!
# LE controllers on one phy

Any number of LE controllers on one phy, all running the same code: what one of them sends goes to
every other, and is received there some time later.  `Phy.Meets P` is the condition that packets
come from the phy alone, and that `P` holds of whatever a controller takes.

Source: `model/setup/phy_layer.cc` `Send`
-/

namespace RootCanal.LeAcl

open Lib RootCanal.Hci RootCanal.Gap

/-- LE controllers, and the packets on their way to each. -/
abbrev Phy (κ : Type) := Network.State κ LeController Packet

/-- An input of one of the controllers, or the delivery of a packet. -/
abbrev PhyInput (κ : Type) := Network.Input κ Input Env

/-- A packet arrives. -/
def receive (env : Env) (p : Packet) : Input := ⟨env, .packet p⟩

variable {κ : Type} [DecidableEq κ]

/-- The controllers on the phy. -/
def phy : Machine (Phy κ) (PhyInput κ) (κ × Output) :=
  Network.machine machine Output.packet? receive

namespace Phy

/-- New controllers, with nothing on its way. -/
def new (own : κ → Address) (properties : κ → ControllerProperties) : Phy κ where
  node x := .new (own x) (properties x)
  inbox _ := []

/-- The controller that an input is for, and what it takes. -/
def taken (s : Phy κ) (i : PhyInput κ) : Option (κ × Input) := Network.taken receive s i

/-- A packet is taken from the phy only. -/
def FromPhy : PhyInput κ → Bool
  | .act _ ⟨_, .packet _⟩ => false
  | _ => true

/-- Packets come from the phy, and what a controller takes satisfies `P`. -/
def Meets (P : Phy κ → κ → Input → Prop) (s : Phy κ) (i : PhyInput κ) : Prop :=
  FromPhy i ∧ ∀ r ∈ s.taken i, P s r.1 r.2

instance Meets.decidable (P : Phy κ → κ → Input → Prop) [∀ s x j, Decidable (P s x j)] (s : Phy κ)
    (i : PhyInput κ) : Decidable (Meets P s i) :=
  have : Decidable (∀ r ∈ s.taken i, P s r.1 r.2) := Option.decidableForallMem (s.taken i)
  inferInstanceAs (Decidable (_ ∧ _))

variable {s s' : Phy κ} {i : PhyInput κ} {x : κ} {j : Input} {p : Packet}

omit [DecidableEq κ] in
/-- A packet that a controller takes was on its way. -/
theorem inFlight_of_taken (hi : FromPhy i) (h : s.taken i = some (x, j))
    (hp : j.action = .packet p) : s.InFlight p := by
  rcases Network.taken_cases h with rfl | ⟨n, e, m, -, hm, rfl⟩
  · obtain ⟨env, action⟩ := j
    cases (show action = _ from hp)
    cases hi
  · cases hp
    exact ⟨x, List.mem_of_getElem? hm⟩

/-- **A step on the phy is a step of one controller.** -/
theorem effect_of_step {outs} (h : phy.step s i = .ok (s', outs)) : s.taken i = none ∧ s' = s ∨
    ∃ x j v out, s.taken i = some (x, j) ∧ Effect (s.node x) j v out ∧
      s' = (s.take i).act x v (packets out) := by
  rcases Network.step_of_network h with hidle | ⟨x, j, v, out, htk, hstep, -, hs'⟩
  · exact .inl hidle
  · exact .inr ⟨x, j, v, out, htk, LeController.effect_of_step hstep, hs'⟩

/-- A property of the controllers and one of the packets, kept by the effects. -/
theorem holds_step {N P outs} (hs : Network.Holds N P s)
    (heff : ∀ x j v out, s.taken i = some (x, j) → Effect (s.node x) j v out → N v ∧
      ∀ p ∈ packets out, P p)
    (h : phy.step s i = .ok (s', outs)) : Network.Holds N P s' := by
  refine hs.step ?_ h
  intro x j v out htk hstep
  exact heff x j v out htk (LeController.effect_of_step hstep)

end Phy

/-! ## A connection on the phy -/

/-- The first controller has address 1, the second 2, and so on. -/
def addressFrom1 {n : Nat} (x : Fin n) : Address := BitVec.ofNat 48 (x.val + 1)

/-- Controllers that support LE 2M. -/
def Phy.small (n : Nat) : Phy (Fin n) :=
  .new addressFrom1 fun _ => { leFeatures := LLFeaturesBits.le2mPhy }

/-- A host enables advertising. -/
def advertiseOn {n : Nat} (x : Fin n) : PhyInput (Fin n) :=
  .act x ⟨.bare 0, .command (.gap (.legacyAdvertising (.leSetAdvertisingEnable true)))⟩

/-- A host wants a connection to another controller, with an interval of 30 ms and a timeout of 1
s. -/
def connectTo {n : Nat} (x y : Fin n) : PhyInput (Fin n) :=
  .act x ⟨.bare 0, .command (.gap (.initiate (.leCreateConnection .usePeerAddress
    ⟨addressFrom1 y, .publicDeviceAddress⟩ .publicDeviceAddress
    { scanInterval := 0x60, scanWindow := 0x30, connectionIntervalMin := 24
      connectionIntervalMax := 24, maxLatency := 0, supervisionTimeout := 100 })))⟩

/-- An advertising event is due. -/
def advertises {n : Nat} (x : Fin n) : PhyInput (Fin n) := .act x ⟨.bare (slots 0x800), .tick⟩

/-- The oldest packet on its way to a controller is delivered. -/
def delivers {n : Nat} (x : Fin n) : PhyInput (Fin n) := .deliver x 0 (.bare 0)

end RootCanal.LeAcl
