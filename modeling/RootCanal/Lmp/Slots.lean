import RootCanal.Lmp.Manager

/-!
# What a link leaves in its slot

Links come and go, and each takes the first slot that is free.  `api` is the link manager as it is
called from outside: a call that fails answers with the error, and the link manager goes on.

* **`slots_isolated`**: in every run that does not use the empty address a slot has procedures
  exactly if it is that of a link, and a slot that is free has no command and no packets.  A new
  link therefore begins like the first one.

Source: `lmp/manager.rs`, `ffi.rs` `link_manager_add_link` and the functions after it
-/

namespace RootCanal.Lmp

open Lib

/-- What the controller asks of the link manager. -/
inductive LinkManager.Input
  /-- A command is forwarded; `addresses` are those of the connections. -/
  | hci (c : HciCommand) (addresses : UInt16 → Address)
  | lmp (peer : Address) (p : Packet)
  | tick
  | addLink (ctx : Context) (peer : Address)
  | removeLink (peer : Address)

/-- Source: `link_manager_add_link`, `link_manager_remove_link`, `link_manager_tick`,
`link_manager_ingest_hci`, `link_manager_ingest_lmp` -/
def api : Machine LinkManager LinkManager.Input (Except LinkManagerError (List Output)) where
  step m
    | .hci c addresses => do
      let (m, answer) ← m.ingestHci addresses c
      .ok (m, [answer])
    | .lmp peer p => .ok (m.ingestLmp peer p, [.ok []])
    | .tick => do
      let (m, outs) ← m.tick
      .ok (m, [.ok outs])
    | .addLink ctx peer =>
      match m.addLink ctx peer with
      | .ok m => .ok (m, [.ok []])
      | .error e => .ok (m, [.error e])
    | .removeLink peer => .ok ((m.removeLink peer).1, [(m.removeLink peer).2])

/-- The input does not use the empty address. -/
def LinkManager.Input.Addressed : LinkManager.Input → Prop
  | .hci c _ => c.opCode.hasHandle = false → c.bdAddr ≠ .kEmpty
  | .lmp peer _ => peer ≠ .kEmpty
  | .tick => True
  | .addLink _ peer => peer ≠ .kEmpty
  | .removeLink peer => peer ≠ .kEmpty

/-- A link is added only if there is none with the address. -/
def LinkManager.Input.AddsNew (m : LinkManager) : LinkManager.Input → Prop
  | .addLink _ peer => ∀ i, (m.links i).peer ≠ peer
  | _ => True

/-- A slot has procedures if it is that of a link, and otherwise nothing at all. -/
structure Slot.Ok (slot : Slot) : Prop where
  running : slot.link.tasks ≠ [] ↔ slot.peer ≠ .kEmpty
  hci : slot.peer = .kEmpty → slot.link.hci = none
  lmp : slot.peer = .kEmpty → slot.link.lmp = []

namespace LinkManager

/-- All slots are as they should be; and no two links have one address, if links are `fresh` when
they are added. -/
structure Isolated (fresh : Prop) (m : LinkManager) : Prop where
  slots : ∀ i, (m.links i).Ok
  distinct : fresh → ∀ i j, m.Registered i → (m.links i).peer = (m.links j).peer → i = j

variable {fresh : Prop} {m m' : LinkManager} {i : Fin maxPeerNumber} {slot : Slot} {link : Link}

/-- What holds of a new slot and of the others holds of all. -/
theorem forall_set {Q : Slot → Prop} (hslot : Q slot) (h : ∀ j, j ≠ i → Q (m.links j))
    (j : Fin maxPeerNumber) : Q ((m.set i slot).links j) := by
  by_cases hj : j = i
  · subst hj
    rw [set_links_self]
    exact hslot
  · rw [set_links_of_ne hj]
    exact h j hj

/-- A slot of a link is as it should be as long as it has procedures. -/
theorem ok_of_registered (hpeer : slot.peer ≠ .kEmpty) (htasks : slot.link.tasks ≠ []) : slot.Ok :=
  ⟨iff_of_true htasks hpeer, fun h => absurd h hpeer, fun h => absurd h hpeer⟩

theorem Isolated.set (h : m.Isolated fresh) (hslot : slot.Ok)
    (hpeer : fresh → slot.peer ≠ .kEmpty → ∀ j, (m.links j).peer = slot.peer → j = i) :
    (m.set i slot).Isolated fresh := by
  refine ⟨forall_set (Q := Slot.Ok) hslot fun j _ => h.slots j, fun hfresh j k hreg heq => ?_⟩
  unfold Registered at hreg
  by_cases hj : j = i <;> by_cases hk : k = i
  · rw [hj, hk]
  · subst hj
    rw [set_links_self] at hreg heq
    rw [set_links_of_ne hk] at heq
    exact (hpeer hfresh hreg k heq.symm).symm
  · subst hk
    rw [set_links_of_ne hj] at hreg heq
    rw [set_links_self] at heq
    exact hpeer hfresh (heq ▸ hreg) j heq
  · rw [set_links_of_ne hj] at hreg heq
    rw [set_links_of_ne hk] at heq
    exact h.distinct hfresh j k hreg heq

/-- What is in a slot changes, and the address does not. -/
theorem Isolated.set_link (h : m.Isolated fresh) (hslot : Slot.Ok { m.links i with link }) :
    (m.set i { m.links i with link }).Isolated fresh :=
  h.set hslot fun hfresh hreg j heq => (h.distinct hfresh i j hreg heq.symm).symm

/-- The slot of a link changes that keeps its procedures. -/
theorem Isolated.set_registered (h : m.Isolated fresh) (hreg : m.Registered i)
    (htasks : link.tasks = (m.links i).link.tasks) :
    (m.set i { m.links i with link }).Isolated fresh := by
  refine h.set_link (ok_of_registered hreg ?_)
  show link.tasks ≠ []
  rw [htasks]
  exact (h.slots i).running.mpr hreg

theorem registered_of_getLink {peer} (h : m.getLink peer = some i) (hpeer : peer ≠ .kEmpty) :
    m.Registered i := by
  unfold Registered
  rwa [peer_of_getLink h]

/-- A command is for a link, unless it uses the empty address. -/
theorem registered_of_linkOf {c addresses} (h : m.linkOf addresses c = some i)
    (hc : (Input.hci c addresses).Addressed) : m.Registered i := by
  rw [linkOf_eq] at h
  split at h
  · cases h
  · rename_i hcond
    refine registered_of_getLink h fun hemp => ?_
    cases hh : c.opCode.hasHandle with
    | true => exact hcond (.inr ⟨hh, hemp⟩)
    | false =>
      refine hc hh ?_
      rwa [HciCommand.target, hh] at hemp

/-! ## Ticks -/

/-- No loop ends for good. By induction on the loops. -/
theorem pollTasks_length (ts : List Task) (b : Mail) :
    Yields (pollTasks ts b) fun r => r.1.length = ts.length := by
  induction ts generalizing b with
  | nil => exact .ok rfl
  | cons t ts ih =>
    refine .bind fun r _ => ?_
    refine .seq (ih r.2) fun r' hr => ?_
    exact .ok (congrArg Nat.succ hr)

/-- A tick of a slot that is free does nothing, and the one of a link keeps its procedures. -/
theorem ok_tick {outs} (h : slot.Ok) (htick : slot.link.tick = .ok (link, outs)) :
    Slot.Ok { slot with link } := by
  obtain ⟨⟨ts, b⟩, hpoll, hlink⟩ := bind_eq_ok.mp htick
  cases hlink
  by_cases hpeer : slot.peer = .kEmpty
  · have htasks : slot.link.tasks = [] := not_not.mp fun ht => h.running.mp ht hpeer
    rw [htasks] at hpoll
    cases hpoll
    exact ⟨iff_of_false (not_not.mpr rfl) (not_not.mpr hpeer), h.hci, h.lmp⟩
  · refine ok_of_registered hpeer ?_
    have hlen : ts.length = slot.link.tasks.length := pollTasks_length _ _ _ hpoll
    exact List.length_pos_iff.mp (hlen ▸ List.length_pos_iff.mpr (h.running.mpr hpeer))

/-- By induction on the slots that are still to be polled. -/
theorem Isolated.tickLinks (is : List (Fin maxPeerNumber)) (h : m.Isolated fresh) :
    Yields (LinkManager.tickLinks is m) fun r => r.1.Isolated fresh := by
  induction is generalizing m with
  | nil => exact .ok h
  | cons i is ih =>
    refine .bind fun r htick => ?_
    refine .seq (ih (h.set_link (ok_tick (h.slots i) htick))) fun _ hr => ?_
    exact .ok hr

/-! ## Runs -/

/-- A link is added to a slot that is free, which is then like a new one. -/
theorem Isolated.addLink_eq {ctx peer} (h : m.Isolated fresh) (hadd : m.addLink ctx peer = .ok m') :
    ∃ i, ¬ m.Registered i ∧ m' = m.set i ⟨peer, .new ctx⟩ := by
  unfold LinkManager.addLink at hadd
  split at hadd
  · rename_i i hfree
    cases hadd
    have hpeer := peer_of_getLink hfree
    refine ⟨i, not_not.mpr hpeer, ?_⟩
    show m.set i ⟨peer, ⟨_, (m.links i).link.hci, (m.links i).link.lmp⟩⟩ = _
    rw [(h.slots i).hci hpeer, (h.slots i).lmp hpeer]
    rfl
  · cases hadd

theorem Isolated.removeLink {peer} (h : m.Isolated fresh) (hpeer : peer ≠ .kEmpty) :
    (m.removeLink peer).1.Isolated fresh := by
  unfold LinkManager.removeLink
  split
  · rename_i i hl
    dsimp only
    split
    · exact h.set ⟨iff_of_false (not_not.mpr rfl) (not_not.mpr rfl), fun _ => rfl, fun _ => rfl⟩
        fun _ hreg => absurd rfl hreg
    · exact h.set_registered (registered_of_getLink hl hpeer) rfl
  · exact h

/-- **Every call keeps the slots as they should be.** -/
theorem Isolated.step {input out} (h : m.Isolated fresh) (hin : input.Addressed)
    (hnew : fresh → input.AddsNew m)
    (hstep : api.step m input = .ok (m', out)) : m'.Isolated fresh := by
  cases input with
  | hci c addresses =>
    obtain ⟨⟨m₁, answer⟩, hing, hm⟩ := bind_eq_ok.mp hstep
    cases hm
    unfold ingestHci at hing
    split at hing
    · rename_i i command hl hcommand
      obtain ⟨link, hlink, hm⟩ := bind_eq_ok.mp hing
      cases hm
      obtain ⟨-, -, hlink⟩ := bind_eq_ok.mp hlink
      cases hlink
      exact h.set_registered (registered_of_linkOf hl hin) rfl
    · cases hing
      exact h
  | lmp peer p =>
    cases hstep
    unfold ingestLmp
    split
    · rename_i i hl
      exact h.set_registered (registered_of_getLink hl hin) rfl
    · exact h
  | tick =>
    obtain ⟨r, htick, hm⟩ := bind_eq_ok.mp hstep
    cases hm
    exact h.tickLinks _ r htick
  | addLink ctx peer =>
    have hadd : api.step m (.addLink ctx peer) = .ok (m', out) := hstep
    simp only [api] at hadd
    split at hadd
    · rename_i m₁ hm
      cases hadd
      obtain ⟨i, -, rfl⟩ := h.addLink_eq hm
      exact h.set (ok_of_registered hin nofun) fun hfresh _ j hj => absurd hj (hnew hfresh j)
    · cases hadd
      exact h
  | removeLink =>
    cases hstep
    exact h.removeLink hin

/-- **Successive links of a slot are isolated.** In every run without the empty address: a slot has
procedures exactly if it is that of a link, and is empty otherwise; at most seven are in use, for
different addresses if links are added only for addresses without one; and a new link begins in the
initial state. -/
theorem slots_isolated {fresh : Prop} {tr m}
    (h : api.Run (fun m i => i.Addressed ∧ (fresh → i.AddsNew m)) new tr m) :
    (∀ i, (m.links i).Ok) ∧ (List.finRange maxPeerNumber).countP
    (fun i => decide (m.Registered i)) ≤ 7 ∧
      (fresh → ∀ i j, m.Registered i → (m.links i).peer = (m.links j).peer → i = j) ∧
      ∀ ctx peer m', m.addLink ctx peer = .ok m' → ∃ i, ¬ m.Registered i ∧
        m' = m.set i ⟨peer, .new ctx⟩ := by
  have hinv : m.Isolated fresh := by
    refine h.invariant (Isolated fresh) ⟨fun _ => ⟨?_, fun _ => rfl, fun _ => rfl⟩,
      fun _ _ _ hreg => ?_⟩ ?_
    · exact iff_of_false (not_not.mpr rfl) (not_not.mpr rfl)
    · exact absurd rfl hreg
    · intro m i m' out hm hC hstep
      exact hm.step hC.1 hC.2 hstep
  exact ⟨hinv.slots, List.countP_le_length, hinv.distinct, fun _ _ _ => hinv.addLink_eq⟩

/-- A controller that supports no optional feature. -/
def plain : Context where
  extendedFeatures _ := 0
  publicKey c := ⟨c, .replicate _ (.replicate 16 0)⟩
  sharedSecret
    | .p192, _ => some .p192
    | .p256, _ => some .p256

/-- A link is added, has a command and a packet, and is removed. -/
theorem slots_isolated_removed :
    ∃ tr m, api.Run (fun m i => i.Addressed ∧ (True → i.AddsNew m)) new tr m ∧
    tr.length = 4 ∧ ∀ i, (m.links i).Ok := by
  have hpeer : (1 : Address) ≠ .kEmpty := by decide
  have hrun : ∃ tr m, api.Run (fun m i => i.Addressed ∧ (True → i.AddsNew m)) new tr m ∧
      tr.length = 4 := by
    refine ⟨_, _, .snoc (i := Input.removeLink 1) (.snoc (i := Input.lmp 1 .sres) (.snoc
      (i := Input.hci ⟨.ok .linkKeyRequestReply, 0, 1⟩ fun _ => 1)
        (.snoc (i := Input.addLink plain 1) .nil
      ⟨hpeer, fun _ _ => hpeer.symm⟩ rfl) ⟨fun _ => hpeer, id⟩ rfl) ⟨hpeer, id⟩ rfl)
        ⟨hpeer, id⟩ rfl, rfl⟩
  obtain ⟨tr, m, hrun, hlen⟩ := hrun
  exact ⟨tr, m, hrun, hlen, (slots_isolated hrun).1⟩

end LinkManager

end RootCanal.Lmp
