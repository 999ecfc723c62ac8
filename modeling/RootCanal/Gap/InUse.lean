import RootCanal.Gap.PeriodicSyncs
import RootCanal.Gap.SetEffects

/-!
# Legacy and extended advertising exclude each other

A command that belongs to one kind of advertising puts this kind in use and is refused while the
other is.  Some commands about advertising sets belong to neither, and the handlers of packets and
of time select nothing.

* `kinds_step` — what a step makes of the two flags.
* **`kinds_separate`** — the flags are never both set, and are kept until the next reset; what
  belongs to one kind (advertising sets and syncs, the legacy advertiser) is there only while the
  other is not in use.

Source: `le_controller.h`, `le_advertiser.cc`
-/

namespace RootCanal.Gap

open Lib RootCanal.Hci

namespace LeController

variable {s s' t : LeController} {env : Env} {i : Input} {out : List Output}

/-! ## The flags over a step -/

/-- The same kinds of advertising are in use. -/
def SameKinds (s s' : LeController) : Prop :=
  s'.legacyAdvertisingInUse = s.legacyAdvertisingInUse ∧
    s'.extendedAdvertisingInUse = s.extendedAdvertisingInUse

theorem SameKinds.refl (s : LeController) : SameKinds s s := ⟨rfl, rfl⟩

/-- Only the selection before a command sets a flag, and only a reset clears one. -/
theorem sameKinds_execute {c : Command} (hc : c ≠ .reset) : SameKinds s (s.execute env c).1 := by
  cases c with
  | reset => exact absurd rfl hc
  | setEventMask | leSetEventMask => exact .refl s
  | advertisingSets => exact answerSets_fst (.refl s) fun _ _ _ => .refl s
  | _ => exact answer_fst (.refl s) fun _ _ => .refl s

theorem sameKinds_packet {bytes rssi p} (h : s.incomingPacket env bytes rssi p = .ok (s', out)) :
    SameKinds s s' := by
  obtain ⟨source, destination, body⟩ := p
  cases body with
  | leLegacyAdvertisingPdu | leExtendedAdvertisingPdu =>
    obtain ⟨_, _, -, -, h⟩ := afterPdu_eq_ok.mp h
    cases h
    exact .refl s
  | lePeriodicAdvertisingPdu =>
    obtain ⟨_, -, h⟩ := bind_eq_ok.mp h
    cases h
    exact .refl s
  | _ =>
    cases h
    exact .refl s

/-- What a step makes of the flags: a command that is not refused selects its kind. -/
theorem kinds_step (h : s.step i = .ok (s', out)) :
    (i.action = .command .reset ∧ s' = s.reset) ∨ s' = s ∨
    ∃ k t, s.select k = some t ∧ SameKinds t s' ∧ ∀ c, i.action = .command c → c.kind = k := by
  obtain ⟨env, a⟩ := i
  cases a with
  | command c =>
    have hst : (s.command env c).1 = s' := congrArg Prod.fst (Except.ok.inj h)
    rw [← hst]
    unfold command
    cases hsel : s.select c.kind with
    | none => exact .inr (.inl rfl)
    | some t =>
      by_cases hc : c = .reset
      · subst hc
        cases hsel
        exact .inl ⟨rfl, rfl⟩
      · refine .inr (.inr ⟨c.kind, t, hsel, sameKinds_execute hc, ?_⟩)
        rintro _ ⟨⟩
        rfl
  | packet =>
    refine .inr (.inr ⟨.either, s, rfl, sameKinds_packet h, ?_⟩)
    rintro _ ⟨⟩
  | tick =>
    obtain ⟨_, -, h⟩ := bind_eq_ok.mp h
    cases h
    refine .inr (.inr ⟨.either, s, rfl, .refl s, ?_⟩)
    rintro _ ⟨⟩

/-- A selection sets the flag of its kind, while the other is not set. -/
theorem select_kinds {k} (h : s.select k = some t) : SameKinds s t ∧ k = .either ∨
    (k = .legacy ∧ s.extendedAdvertisingInUse = false ∧ t.legacyAdvertisingInUse = true ∧
      t.extendedAdvertisingInUse = false) ∨
    (k = .extended ∧ s.legacyAdvertisingInUse = false ∧ t.extendedAdvertisingInUse = true ∧
      t.legacyAdvertisingInUse = false) := by
  cases k with
  | either =>
    cases h
    exact .inl ⟨.refl s, rfl⟩
  | legacy =>
    simp only [select, Option.ite_none_left_eq_some, Option.some.injEq, Bool.not_eq_true] at h
    obtain ⟨hext, rfl⟩ := h
    exact .inr (.inl ⟨rfl, hext, rfl, hext⟩)
  | extended =>
    simp only [select, Option.ite_none_left_eq_some, Option.some.injEq, Bool.not_eq_true] at h
    obtain ⟨hleg, rfl⟩ := h
    exact .inr (.inr ⟨rfl, hleg, rfl, hleg⟩)

/-- A flag stays set until the next reset. -/
theorem kinds_kept (h : s.step i = .ok (s', out)) (hi : i.action ≠ .command .reset) :
    (s.legacyAdvertisingInUse = true → s'.legacyAdvertisingInUse = true) ∧
    (s.extendedAdvertisingInUse = true → s'.extendedAdvertisingInUse = true) := by
  rcases kinds_step h with ⟨hr, -⟩ | rfl | ⟨k, t, hsel, ⟨hleg, hext⟩, -⟩
  · exact absurd hr hi
  · exact ⟨fun h => h, fun h => h⟩
  · rw [hleg, hext]
    rcases select_kinds hsel with ⟨⟨hl, he⟩, -⟩ | ⟨-, he, hl, -⟩ | ⟨-, hl, he, -⟩
    · rw [hl, he]
      exact ⟨fun h => h, fun h => h⟩
    · exact ⟨fun _ => hl, fun h => absurd (he.symm.trans h) (by decide)⟩
    · exact ⟨fun h => absurd (hl.symm.trans h) (by decide), fun _ => he⟩

/-! ## The legacy advertiser -/

/-- Only a command of legacy advertising enables the legacy advertiser. -/
theorem legacyEnable_step (h : s.step i = .ok (s', out))
    (hen : s'.legacyAdvertiser.advertisingEnable = true) :
    s.legacyAdvertiser.advertisingEnable = true ∨
      ∃ c, i.action = .command (.legacyAdvertising c) := by
  obtain ⟨env, a⟩ := i
  have heff := effect_of_step h
  cases heff with
  | reset => cases hen
  | legacyAdvertising _ _ c => exact .inr ⟨c, rfl⟩
  | connect =>
    unfold incomingLeConnectPacket at hen
    dsimp only at hen
    split at hen
    · cases hen
    · refine .inl ?_
      split at hen
      · exact hen
      · split at hen <;> exact hen
  | tick _ _ htick =>
    obtain ⟨_, -, htick⟩ := bind_eq_ok.mp htick
    cases htick
    exact .inl (Bool.and_eq_true_iff.mp hen).1
  | _ => exact .inl hen

/-! ## What belongs to one kind -/

/-- What belongs to one kind of advertising is there only if this kind is in use. -/
structure Separate (s : LeController) : Prop where
  exclusive : s.legacyAdvertisingInUse = true → s.extendedAdvertisingInUse = false
  sets : ∀ (handle : UInt8) a, s.extendedAdvertisers[handle]? = some a →
    s.extendedAdvertisingInUse = true
  syncs : ∀ (handle : UInt16) sync, s.synchronized[handle]? = some sync →
    s.extendedAdvertisingInUse = true
  legacyAdvertiser : s.legacyAdvertiser.advertisingEnable = true → s.legacyAdvertisingInUse = true

/-- Where nothing of either kind is there. -/
theorem Separate.of_unused (hleg : s.legacyAdvertisingInUse = false)
    (hsets : s.extendedAdvertisers = ∅)
    (hsyncs : s.synchronized = ∅)
    (hdis : s.legacyAdvertiser.advertisingEnable = false) : Separate s := by
  refine ⟨fun h => ?_, fun handle a h => ?_, fun handle sync h => ?_, fun h => ?_⟩
  · exact absurd (hleg.symm.trans h) (by decide)
  · rw [hsets, Std.ExtTreeMap.getElem?_empty] at h
    cases h
  · rw [hsyncs, Std.ExtTreeMap.getElem?_empty] at h
    cases h
  · exact absurd (hdis.symm.trans h) (by decide)

/-- A step that is not a reset, with what it selects. -/
theorem Separate.select {k} (hs : Separate s) (h : s.step i = .ok (s', out))
    (hi : i.action ≠ .command .reset)
    (hsel : s.select k = some t) (hsame : SameKinds t s')
    (hk : ∀ c, i.action = .command c → c.kind = k) :
    Separate s' := by
  have hkept := kinds_kept h hi
  have hcmd := select_kinds hsel
  refine ⟨fun hleg => ?_, fun handle a ha => ?_, fun handle sync hsync => ?_, fun hen => ?_⟩
  · rw [hsame.1] at hleg
    rw [hsame.2]
    rcases hcmd with ⟨⟨hl, he⟩, -⟩ | ⟨-, -, -, he⟩ | ⟨-, -, -, hl⟩
    · exact he.trans (hs.exclusive (hl ▸ hleg))
    · exact he
    · exact absurd (hl.symm.trans hleg) (by decide)
  · -- a set is created by its parameters only, whose command belongs to extended advertising
    have hstep := set_step h handle
    rw [ha] at hstep
    cases ho : s.extendedAdvertisers[handle]? with
    | some a => exact hkept.2 (hs.sets handle a ho)
    | none =>
      rw [ho] at hstep
      cases hstep with
      | parameters _ _ _ hc =>
        cases hk _ hc
        rcases hcmd with ⟨-, hk⟩ | ⟨hk, -⟩ | ⟨-, -, he, -⟩
        · cases hk
        · cases hk
        · exact hsame.2.trans he
  · rcases sync_step h hsync with ⟨_, hold⟩ | ⟨he, -⟩
    · exact hkept.2 (hs.syncs handle _ hold)
    · exact hkept.2 he
  · rcases legacyEnable_step h hen with hold | ⟨_, hc⟩
    · exact hkept.1 (hs.legacyAdvertiser hold)
    · cases hk _ hc
      rcases hcmd with ⟨-, hk⟩ | ⟨-, -, hl, -⟩ | ⟨hk, -⟩
      · cases hk
      · exact hsame.1.trans hl
      · cases hk

theorem Separate.step (hs : Separate s) (h : s.step i = .ok (s', out)) : Separate s' := by
  by_cases hi : i.action = .command .reset
  · obtain ⟨env, _⟩ := i
    cases hi
    cases h
    exact .of_unused rfl rfl rfl rfl
  · rcases kinds_step h with ⟨hr, -⟩ | rfl | ⟨k, t, hsel, hsame, hk⟩
    · exact absurd hr hi
    · exact hs
    · exact hs.select h hi hsel hsame hk

theorem Separate.no_sync (hs : Separate s) (hleg : s.legacyAdvertisingInUse = true)
    (handle : UInt16) : s.synchronized[handle]? = none := by
  cases hget : s.synchronized[handle]? with
  | none => rfl
  | some sync =>
    exact absurd ((hs.exclusive hleg).symm.trans (hs.syncs handle sync hget)) (by decide)

theorem Separate.no_set (hs : Separate s) (hleg : s.legacyAdvertisingInUse = true)
    (handle : UInt8) : s.extendedAdvertisers[handle]? = none := by
  cases hget : s.extendedAdvertisers[handle]? with
  | none => rfl
  | some a => exact absurd ((hs.exclusive hleg).symm.trans (hs.sets handle a hget)) (by decide)

/-- **Legacy and extended advertising are separate.** -/
theorem kinds_separate {own : Address} {properties : ControllerProperties}
    {tr : List (Input × List Output)}
    (h : machine.Run (fun _ _ => True) (new own properties) tr s) :
    ¬ (s.legacyAdvertisingInUse = true ∧ s.extendedAdvertisingInUse = true) ∧
    (∀ i s' out, s.step i = .ok (s', out) → i.action ≠ .command .reset →
      (s.legacyAdvertisingInUse = true → s'.legacyAdvertisingInUse = true) ∧
      (s.extendedAdvertisingInUse = true → s'.extendedAdvertisingInUse = true)) ∧
    (s.legacyAdvertisingInUse = true → (∀ handle : UInt8, s.extendedAdvertisers[handle]? = none) ∧
      ∀ i s' out, s.step i = .ok (s', out) → ∀ handle : UInt16,
        s.synchronized[handle]? = none ∧ s'.synchronized[handle]? = none) ∧
    (s.extendedAdvertisingInUse = true → s.legacyAdvertiser.advertisingEnable = false) := by
  have hs : Separate s := by
    refine h.invariant Separate (.of_unused rfl rfl rfl rfl) ?_
    intro s i s' out hs _ hstep
    exact hs.step hstep
  refine ⟨fun hboth => ?_, fun i s' out hstep hi => kinds_kept hstep hi, fun hleg =>
    ⟨hs.no_set hleg, ?_⟩, fun hext => ?_⟩
  · exact absurd ((hs.exclusive hboth.1).symm.trans hboth.2) (by decide)
  · intro i s' out hstep handle
    refine ⟨hs.no_sync hleg handle, ?_⟩
    by_cases hi : i.action = .command .reset
    · obtain ⟨env, _⟩ := i
      cases hi
      cases hstep
      exact Std.ExtTreeMap.getElem?_empty
    · exact (hs.step hstep).no_sync ((kinds_kept hstep hi).1 hleg) handle
  · refine Bool.eq_false_of_not_eq_true fun hen => ?_
    exact absurd ((hs.exclusive (hs.legacyAdvertiser hen)).symm.trans hext) (by decide)

/-- While the legacy advertiser is enabled no advertising set can be created. -/
theorem kinds_separate_legacy : ∃ tr s, machine.Run (fun _ _ => True) (new 1 {}) tr s ∧
    s.legacyAdvertiser.advertisingEnable = true ∧
      ∀ handle : UInt8, s.extendedAdvertisers[handle]? = none := by
  have hx : machine.ExecTo (fun _ s => s.legacyAdvertiser.advertisingEnable = true ∧
      s.legacyAdvertisingInUse = true) (new 1 {})
      [.host (.legacyAdvertising (.leSetAdvertisingEnable true)),
        .host (.scan (.leSetExtendedScanEnable true .disabled 0 0))] := by
    decide +kernel
  obtain ⟨tr, s, hrun, hen, hleg⟩ := machine.exists_free_run hx
  exact ⟨tr, s, hrun, hen, ((kinds_separate hrun).2.2.1 hleg).1⟩

end LeController

end RootCanal.Gap
