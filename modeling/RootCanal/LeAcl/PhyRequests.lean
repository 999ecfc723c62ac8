import RootCanal.LeAcl.Pair

/-!
# The PHYs a host asked for

`LeSetPhy` sends LL_PHY_REQ and then remembers the PHYs that the host asked for; `IncomingLlPhyRsp`
selects among them when the Peripheral answers.  The controller remembers one request, for all its
connections, and it does so after the packet was sent, when the answer may have come already.

A `Requesting` is a controller with the command that is under way, whose send call has not returned
yet; beside it stand the PHYs that the host asked for last on each connection (`asked`) and the
connection of the last command that has returned (`last`).  No code reads these two.

* `answer_selects_foreign_phy`: the answer on a connection selects a PHY that was asked for on
  another.
* **`selects_requested`: while an answer comes when the last command that has returned is for its
  connection, and no command for its connection is under way (`InTurn`), the PHYs it selects are
  unchanged or among those asked for last on its connection.**

Source: `le_controller.cc` `LeSetPhy`, `IncomingLlPhyRsp`
-/

namespace RootCanal.LeAcl

open Lib RootCanal.Hci RootCanal.Gap

/-! ## The commands and the answers -/

/-- A controller and the LE Set PHY commands of its host. -/
structure Requesting where
  controller : LeController
  /-- The command whose send call has not returned: its connection and the PHYs. -/
  sending : Option (UInt16 × UInt8 × UInt8) := none
  /-- The transmit and receive PHYs of the latest command for each connection. -/
  asked : HashMap UInt16 (UInt8 × UInt8) := ∅
  /-- The connection of the last command that has returned. -/
  last : Option UInt16 := none

/-- What happens to it. -/
inductive RequestingInput
  | leSetPhy (handle : UInt16) (allPhysNoTransmitPreference allPhysNoReceivePreference : Bool)
      (txPhys rxPhys : UInt8)
  /-- The send call of the command returns. -/
  | returns
  /-- A Peripheral answers. -/
  | answer (env : Env) (source destination : Address) (txPhys rxPhys : UInt8)

/-- The packet with which a Peripheral answers. -/
def phyAnswer (source destination : Address) (txPhys rxPhys : UInt8) : Packet :=
  ⟨source, destination, .llPhyRsp txPhys rxPhys⟩

/-- One step. A command comes only when the one before has returned. -/
def Requesting.step (s : Requesting) : RequestingInput → Except Panic (Requesting × List Output)
  | .leSetPhy handle noTransmitPreference noReceivePreference txPhys rxPhys =>
    let txPhys := s.controller.preferredPhys noTransmitPreference txPhys
    let rxPhys := s.controller.preferredPhys noReceivePreference rxPhys
    match s.sending, s.controller.sendLlPhyReq handle txPhys rxPhys with
    | some _, _ => .ok (s, [])
    | none, .error status => .ok (s, [.event (.gap (.status status))])
    | none, .ok request =>
      .ok ({ s with
        sending := some (handle, txPhys, rxPhys)
        asked := s.asked.insert handle (txPhys, rxPhys) }, [request])
  | .returns =>
    match s.sending with
    | none => .ok (s, [])
    | some (handle, txPhys, rxPhys) =>
      .ok ({ s with
        controller := s.controller.setRequestedPhys handle txPhys rxPhys
        sending := none
        last := some handle }, [.event (.gap (.status .success))])
  | .answer env source destination txPhys rxPhys => do
    let (controller, out) ←
      s.controller.incomingPacket env (phyAnswer source destination txPhys rxPhys)
    .ok ({ s with controller }, out)

/-- A controller with the LE Set PHY commands of its host and the answers to them. -/
def requesting : Machine Requesting RequestingInput Output where
  step := Requesting.step

/-! ## What an answer selects -/

/-- The bit of a PHY. -/
def PhyType.bit : PhyType → UInt8
  | le1m => 0x1
  | le2m => 0x2
  | leCoded => 0x4

/-- The PHY is one of these. -/
def PhyType.isIn (phy : PhyType) (phys : UInt8) : Bool := phys &&& phy.bit ≠ 0

theorem isIn_of_and {a b} {phy : PhyType} (h : a &&& b &&& phy.bit ≠ 0) : phy.isIn b := by
  refine decide_eq_true fun hb => h ?_
  rw [UInt8.and_assoc, hb, UInt8.and_zero]

/-- The PHY selected is the current one, or among both sets. -/
theorem selectPhy_and (a b : UInt8) (current : PhyType) :
    selectPhy (a &&& b) current = current ∨ (selectPhy (a &&& b) current).isIn b := by
  unfold selectPhy
  split
  · rename_i h
    exact .inr (isIn_of_and h)
  · split
    · rename_i h
      exact .inr (isIn_of_and h)
    · split
      · rename_i h
        exact .inr (isIn_of_and h)
      · exact .inl rfl

/-- What an answer makes of the controller. -/
theorem incomingAnswer_cases {s : LeController} {env : Env} {source destination : Address}
    {txPhys rxPhys : UInt8} {r : LeController × List Output}
    (h : s.incomingPacket env (phyAnswer source destination txPhys rxPhys) = .ok r) :
    (r.1 = s ∨ ∃ handle c c', s.getLeAclConnectionHandle env destination source = some handle ∧
      s.leAclConnections[handle]? = some c ∧
      r.1.leAclConnections = s.leAclConnections.insert handle c' ∧
      c'.txPhy = selectPhy (rxPhys &&& s.requestedTxPhys) c.txPhy ∧
      c'.rxPhy = selectPhy (txPhys &&& s.requestedRxPhys) c.rxPhy) ∧
    r.1.requestedTxPhys = s.requestedTxPhys ∧ r.1.requestedRxPhys = s.requestedRxPhys := by
  have h' : s.incomingOnConnection env (phyAnswer source destination txPhys rxPhys) = .ok r := h
  unfold LeController.incomingOnConnection at h'
  split at h'
  · cases h'
    exact ⟨.inl rfl, rfl, rfl⟩
  · rename_i handle hh
    obtain ⟨c, hc, h'⟩ := bind_eq_ok.mp h'
    obtain ⟨r', hr', h'⟩ := bind_eq_ok.mp h'
    obtain ⟨_, -, hr'⟩ := bind_eq_ok.mp hr'
    cases hr'
    cases h'
    exact ⟨.inr ⟨handle, c, _, hh, assertSome_eq_ok.mp hc, rfl, rfl, rfl⟩, rfl, rfl⟩

/-! ## Runs in turn -/

/-- An answer comes when the last command that has returned is for its connection, and no command
for its connection is under way. -/
def InTurn (s : Requesting) : RequestingInput → Prop
  | .answer env source destination _ _ =>
    ∀ handle ∈ s.controller.getLeAclConnectionHandle env destination source,
      s.asked.contains handle → s.last = some handle ∧ s.sending.map Prod.fst ≠ some handle
  | .leSetPhy .. | .returns => True

instance InTurn.decidable (s : Requesting) : (i : RequestingInput) → Decidable (InTurn s i)
  | .answer env source destination _ _ =>
    @Option.decidableForallMem _ _ (fun _ => inferInstance)
      (s.controller.getLeAclConnectionHandle env destination source)
  | .leSetPhy .. | .returns => isTrue trivial

/-- What is remembered is what the last command asked for, unless another one for its connection is
under way; and what is under way is the latest command for its connection. -/
structure Requesting.Remembers (s : Requesting) : Prop where
  last : ∀ handle, s.last = some handle → s.sending.map Prod.fst ≠ some handle →
    s.asked[handle]? = some (s.controller.requestedTxPhys, s.controller.requestedRxPhys)
  sending : ∀ handle phys, s.sending = some (handle, phys) → s.asked[handle]? = some phys

theorem Requesting.Remembers.start (c : LeController) : Remembers { controller := c } := by
  refine ⟨?_, ?_⟩
  · intro handle hlast
    cases hlast
  · intro handle phys hsending
    cases hsending

theorem Requesting.Remembers.step {s s' : Requesting} {i : RequestingInput} {out : List Output}
    (hs : s.Remembers) (h : requesting.step s i = .ok (s', out)) : s'.Remembers := by
  cases i with
  | leSetPhy handle =>
    unfold requesting Requesting.step at h
    dsimp only at h
    split at h
    · cases h
      exact hs
    · cases h
      exact hs
    · rename_i hsending _
      cases h
      refine ⟨?_, ?_⟩
      · intro k hk hne
        have hk' : handle ≠ k := fun heq => hne (congrArg some heq)
        rw [HashMap.getElem?_insert', if_neg hk']
        refine hs.last k hk ?_
        rw [hsending]
        nofun
      · intro k phys hk
        cases hk
        rw [HashMap.getElem?_insert', if_pos rfl]
  | returns =>
    unfold requesting Requesting.step at h
    dsimp only at h
    split at h
    · cases h
      exact hs
    · rename_i handle txPhys rxPhys hsending
      cases h
      refine ⟨?_, nofun⟩
      intro k hk _
      cases hk
      exact hs.sending handle (txPhys, rxPhys) hsending
  | answer =>
    obtain ⟨r, hr, h⟩ := bind_eq_ok.mp h
    cases h
    obtain ⟨-, htx, hrx⟩ := incomingAnswer_cases hr
    refine ⟨?_, hs.sending⟩
    intro k hk hne
    rw [htx, hrx]
    exact hs.last k hk hne

/-- **In every run in turn, the PHYs that an answer selects are, in each direction, unchanged or
among those that the host asked for last on the same connection.** -/
theorem selects_requested {c₀ : LeController} {s s' : Requesting} {env : Env}
    {source destination : Address} {txPhys rxPhys : UInt8} {out : List Output}
    {tr : List (RequestingInput × List Output)}
    (h : requesting.Run InTurn { controller := c₀ } tr s)
    (hi : InTurn s (.answer env source destination txPhys rxPhys))
    (hstep : requesting.step s (.answer env source destination txPhys rxPhys) = .ok (s', out))
    {handle : UInt16} {c c' : LeAclConnection} {phys : UInt8 × UInt8}
    (hasked : s.asked[handle]? = some phys) (hc : s.controller.leAclConnections[handle]? = some c)
    (hc' : s'.controller.leAclConnections[handle]? = some c') :
    (c'.txPhy = c.txPhy ∨ c'.txPhy.isIn phys.1) ∧ (c'.rxPhy = c.rxPhy ∨ c'.rxPhy.isIn phys.2) := by
  have hs : s.Remembers := by
    refine h.invariant Requesting.Remembers (.start c₀) ?_
    intro s i s' out hs _ hstep
    exact hs.step hstep
  obtain ⟨r, hr, hstep⟩ := bind_eq_ok.mp hstep
  cases hstep
  obtain ⟨hr | ⟨k, d, d', hk, hd, hr, htx, hrx⟩, -, -⟩ := incomingAnswer_cases hr
  · rw [show s.controller = r.1 from hr.symm] at hc
    cases hc.symm.trans hc'
    exact ⟨.inl rfl, .inl rfl⟩
  · rw [hr, HashMap.getElem?_insert'] at hc'
    split at hc'
    · rename_i heq
      cases heq
      cases hc'
      cases hd.symm.trans hc
      have hcontains : s.asked.contains handle := by
        rw [Std.ExtTreeMap.contains_eq_isSome_getElem?, hasked]
        rfl
      obtain ⟨hlast, hsending⟩ := hi handle hk hcontains
      cases (hs.last handle hlast hsending).symm.trans hasked
      rw [htx, hrx]
      exact ⟨selectPhy_and .., selectPhy_and ..⟩
    · cases hc.symm.trans hc'
      exact ⟨.inl rfl, .inl rfl⟩

/-- A Central with a connection to each of two Peripherals. -/
def twoPeripherals : LeController :=
  let central := LeController.new 1 Link.supporting2M
  let connection (handle : UInt16) (peer : Address) : LeAclConnection :=
    central.newConnection handle ⟨peer, .publicDeviceAddress⟩ .empty
      ⟨1, .publicDeviceAddress⟩ .central 24 0 100
  { central with leAclConnections := ((∅ : HashMap UInt16 LeAclConnection).insert 0x200
      (connection 0x200 2)).insert 0x201 (connection 0x201 3) }

theorem selects_requested_2m :
    ∃ tr s s' out c c', requesting.Run InTurn { controller := twoPeripherals } tr s ∧
    requesting.step s (.answer (.bare 0) 2 1 0x3 0x3) = .ok (s', out) ∧
    s.controller.leAclConnections[(0x200 : UInt16)]? = some c ∧
    s'.controller.leAclConnections[(0x200 : UInt16)]? = some c' ∧ c.txPhy = .le1m ∧
      c'.txPhy = .le2m ∧
    (c'.txPhy = c.txPhy ∨ c'.txPhy.isIn 0x2) := by
  have hx : requesting.ExecTo (fun _ s => s.asked[(0x200 : UInt16)]? = some (0x2, 0x2) ∧
      InTurn s (.answer (.bare 0) 2 1 0x3 0x3) ∧
      ∃ c ∈ s.controller.leAclConnections[(0x200 : UInt16)]?, c.txPhy = .le1m ∧
      ∃ r ∈ (requesting.step s (.answer (.bare 0) 2 1 0x3 0x3)).toOption,
      ∃ c' ∈ r.1.controller.leAclConnections[(0x200 : UInt16)]?, c'.txPhy = .le2m)
      { controller := twoPeripherals }
      [.leSetPhy 0x201 false false 0x1 0x1, .returns, .leSetPhy 0x200 false false 0x2
        0x2, .returns] := by
    decide +kernel
  obtain ⟨tr, s, hrun, hask, hturn, c, hc, htx, ⟨s', out⟩, hstep, c', hc', htx'⟩ :=
    requesting.exists_run (C := InTurn) (by decide +kernel) hx
  have hstep := toOption_eq_some.mp hstep
  exact ⟨tr, s, s', out, c, c', hrun, hstep, hc, hc', htx, htx',
    (selects_requested hrun hturn hstep hask hc hc').1⟩

/-- The host asks for LE 1M on one connection and for LE 2M on another; the answer on the first
selects LE 2M. -/
theorem answer_selects_foreign_phy : ∃ tr s s' out c c',
    requesting.Run (fun _ _ => True) { controller := twoPeripherals } tr s ∧
    requesting.step s (.answer (.bare 0) 2 1 0x3 0x3) = .ok (s', out) ∧
    s.asked[(0x200 : UInt16)]? = some (0x1, 0x1) ∧
    s.controller.leAclConnections[(0x200 : UInt16)]? = some c ∧
    s'.controller.leAclConnections[(0x200 : UInt16)]? = some c' ∧
    ¬(c'.txPhy = c.txPhy ∨ c'.txPhy.isIn 0x1) := by
  have hx : requesting.ExecTo (fun _ s => s.asked[(0x200 : UInt16)]? = some (0x1, 0x1) ∧
      ∃ c ∈ s.controller.leAclConnections[(0x200 : UInt16)]?,
      ∃ r ∈ (requesting.step s (.answer (.bare 0) 2 1 0x3 0x3)).toOption,
      ∃ c' ∈ r.1.controller.leAclConnections[(0x200 : UInt16)]?,
        ¬(c'.txPhy = c.txPhy ∨ c'.txPhy.isIn 0x1))
      { controller := twoPeripherals }
      [.leSetPhy 0x200 false false 0x1 0x1, .returns, .leSetPhy 0x201 false false 0x2
        0x2, .returns] := by
    decide +kernel
  obtain ⟨tr, s, hrun, hask, c, hc, ⟨s', out⟩, hstep, c', hc', htx⟩ := requesting.exists_free_run hx
  exact ⟨tr, s, s', out, c, c', hrun, toOption_eq_some.mp hstep, hask, hc, hc', htx⟩

end RootCanal.LeAcl
