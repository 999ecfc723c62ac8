import RootCanal.LeAcl.Pair

/-!
# The ends of a connection agree on its PHYs

Only the Central selects PHYs, and it tells the Peripheral by an LL_PHY_UPDATE_IND that names a PHY
for each direction in which it changes and nothing for a direction in which it does not.  The packet
is a difference, read off the PHYs the Central has when it is sent: the Peripheral gets back what
was selected if it applies it to the same PHYs (`selectPhy_indicatePhy`).

It does, as the channel keeps the order: **`phys_agree`: the PHYs of the Peripheral, once the
updates on their way have been applied to them in order, are those of the Central.**  Both hosts may
ask for PHYs at any time, on procedures that overlap.

Source: `le_controller.cc` `IncomingLlPhyReq`, `IncomingLlPhyRsp`, `IncomingLlPhyUpdateInd`
-/

namespace RootCanal.LeAcl

open Lib RootCanal.Hci RootCanal.Gap

/-- The transmit and receive PHYs of the Peripheral after a packet. -/
def applyPhyUpdate (phys : PhyType × PhyType) : Body → PhyType × PhyType
  | .llPhyUpdateInd phyCToP phyPToC _ => (selectPhy phyPToC phys.1, selectPhy phyCToP phys.2)
  | _ => phys

/-- What the update tells of the selected PHY is enough to select it. -/
theorem selectPhy_indicatePhy (selected current : PhyType) :
    selectPhy (indicatePhy selected current) current = selected := by
  cases selected <;> cases current <;> rfl

/-! ## The two ends -/

variable {s s' : LeController} {handle : UInt16} {c c' : LeAclConnection} {a : Action}
  {bodies : List Body}

/-- **The Central tells of the PHYs it selects.** -/
theorem Turn.tells_phys (h : Turn s handle c a s' c' bodies) (hr : c.role = .central) :
    bodies.foldl applyPhyUpdate (c.rxPhy, c.txPhy) = (c'.rxPhy, c'.txPhy) := by
  cases h with
  | aside _ hc _ hbs | ran _ hc _ hbs | phyRequested _ hc _ hbs
  | encrypting _ _ hc _ hbs =>
    rw [hc, hbs]
    rfl
  | requested _ hask => cases hask <;> rfl
  | received _ _ hansd =>
    cases hansd with
    | phySelect | phyResponse =>
      rw [List.foldl_cons, List.foldl_nil, applyPhyUpdate, selectPhy_indicatePhy,
        selectPhy_indicatePhy]
    | phyReply hper | phyUpdate hper | subrateUpdate hper =>
      cases hr.symm.trans hper
    | parameterUpdate => split <;> rfl
    | _ => rfl

/-- **The Peripheral takes the PHYs of an update, and changes them at no other time.** -/
theorem Turn.takes_phys (h : Turn s handle c a s' c' bodies) (hr : c.role = .peripheral) :
    (c'.txPhy, c'.rxPhy) = Link.arrives applyPhyUpdate (c.txPhy, c.rxPhy) a := by
  cases h with
  | aside ha hc | ran ha hc | phyRequested ha hc | encrypting ha _ hc =>
    rw [ha, hc]
    rfl
  | requested ha hask =>
    rw [ha]
    cases hask <;> rfl
  | received ha hb hansd =>
    rw [ha, Link.arrives, hb]
    cases hansd with
    | phySelect hcen | phyResponse hcen | subrateAccepted hcen | subrateRefused hcen =>
      cases hr.symm.trans hcen
    | parameterUpdate | subrateUpdate => split <;> rfl
    | _ => rfl

/-! ## Runs -/

/-- The PHYs of the Peripheral follow those of the Central. -/
def PhysFollow (t : Link) : Prop :=
  Duplex.Follows (fun phys p => applyPhyUpdate phys p.body)
    (fun c : LeAclConnection => (c.rxPhy, c.txPhy)) (fun c => (c.txPhy, c.rxPhy)) .left t

theorem PhysFollow.made {t} (h : t.Made) : PhysFollow t := by
  unfold PhysFollow Duplex.Follows
  simp only [h.inbox, h.phys, List.foldl_nil]

theorem PhysFollow.moves {s s' handle t t' i} (h : PhysFollow t) (ht : t.Coherent) (hi : OnLink i)
    (hmv : Link.Moves s handle t i s' t') : PhysFollow t' :=
  Link.follows_of_moves h hi (fun _ hturn => hturn.tells_phys (ht.role .left))
    (fun _ hturn => hturn.takes_phys (ht.role .right)) hmv

/-- **The PHYs of the Peripheral, with the updates on their way applied in order, are those of the
Central; when nothing is in flight the ends agree.** -/
theorem phys_agree {s₀ s : Pair} {handle : Side → UInt16} {t₀ : Link} {tr : Link.Trace}
    (hs₀ : s₀.Links handle t₀) (hmade : t₀.Made) (h : pair.Run (fun _ i => OnLink i) s₀ tr s) :
    ∃ t, s.Links handle t ∧ (s.inbox .right).foldl (fun phys p => applyPhyUpdate phys p.body)
          ((t.node .right).txPhy, (t.node .right).rxPhy) =
        ((t.node .left).rxPhy, (t.node .left).txPhy) ∧
      ((∀ x, s.inbox x = []) → (t.node .right).txPhy = (t.node .left).rxPhy ∧
        (t.node .right).rxPhy = (t.node .left).txPhy) := by
  obtain ⟨t, hlinks, -, hfollows⟩ := Link.exists_link (fun _ _ t => PhysFollow t) (fun _ _ hi => hi)
    hs₀ hmade.coherent (.made hmade)
    (fun _ _ _ _ _ _ _ _ ht hfollows hi hmv => hfollows.moves ht hi hmv) h
  unfold PhysFollow Duplex.Follows at hfollows
  rw [hlinks.inbox] at hfollows
  refine ⟨t, hlinks, hfollows, ?_⟩
  intro hemp
  rw [show s.inbox Side.left.other = [] from hemp .right] at hfollows
  exact Prod.mk.inj hfollows

/-- Both hosts ask for LE 2M at once, and the procedures overlap. -/
theorem phys_agree_overlapping : ∃ tr s t, pair.Run (fun _ i => OnLink i) Link.joined tr s ∧
    s.Links (fun _ => 0x200) t ∧ (∀ x, s.inbox x = []) ∧ (t.node .left).txPhy = .le2m ∧
    (t.node .right).rxPhy = .le2m := by
  have hx : pair.ExecTo (fun _ s => (∀ x, s.inbox x = []) ∧
      (s.node .left).leAclConnections[(0x200 : UInt16)]?.map LeAclConnection.txPhy = some .le2m)
      Link.joined
      [.act .left ⟨.bare 0, .command (.leSetDefaultPhy false false 3 3)⟩,
        .act .right ⟨.bare 0, .command (.leSetDefaultPhy false false 3 3)⟩,
        .act .left ⟨.bare 0, .command (.leSetPhy 0x200 false false 2 2)⟩,
        .act .right ⟨.bare 0, .command (.leSetPhy 0x200 false false 2 2)⟩,
        .deliver .left (.bare 0), .deliver .right (.bare 0), .deliver .left (.bare 0),
        .deliver .right (.bare 0), .deliver .right (.bare 0)] := by
    decide +kernel
  obtain ⟨tr, s, hrun, hemp, hphy⟩ := pair.exists_run (C := fun _ i => OnLink i)
    (by decide +kernel) hx
  obtain ⟨t, hlinks, -, hagree⟩ := phys_agree Link.joined_links Link.oneToTwo_made hrun
  rw [(hlinks.sole .left).get] at hphy
  have htx : (t.node .left).txPhy = .le2m := Option.some.inj hphy
  exact ⟨tr, s, t, hrun, hlinks, hemp, htx, (hagree hemp).2.trans htx⟩

end RootCanal.LeAcl
