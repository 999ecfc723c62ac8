import RootCanal.Iso.Effects

/-!
# The life of a CIS

The entry of a CIS handle changes only along the transitions of `CisStep`, whatever the step of
the manager: **`Effect.origin`: every entry after a step was there before and took such
transitions, or is new, and then it is a fresh configuration or a fresh remote request.**

What the transitions preserve holds of every entry in every run.  `CisOk` collects it: the
entry is stored under its own handle; a Central CIS never waits for its own host, a Peripheral
one is never in configuration; a CIS out of configuration has an ACL handle and parameters.
`Coherent` adds what ties the entries to the configurations: a Central CIS is configured, and
no two share their identifiers.  **`run_coherent`: every state reached from the initial one is
coherent**, with no condition on the inputs.

One transition is laxer than the state diagram of a CIS: `CisStep.request` asks nothing of the
entry it starts.  The queue names its CIS by handle, and the entry of that handle is taken as it
is found.
-/

namespace RootCanal.Iso

open Lib RootCanal.Hci RootCanal.Llcp

namespace IsoManager

/-! ## Transitions of one entry -/

/-- The transitions of the entry of a CIS. -/
inductive CisStep : Cis → Cis → Prop
  | dataPath {c : Cis} (cToP pToC : Option IsoDataPath) :
      CisStep c { c with isoDataPathCToP := cToP, isoDataPathPToC := pToC }
  | request {c : Cis} (a : UInt16) (p : CisParameters) : CisStep c (requested a p c)
  | respond {c : Cis} : c.role = .central → c.state = .pendingRsp →
      CisStep c { c with state := .connected }
  | fail {c : Cis} : c.role = .central → c.state = .pendingRsp →
      CisStep c { c with state := .configuration, parameters := none }
  | disconnect {c : Cis} : c.role = .central → CisStep c { c with state := .configuration }
  | unlink {c : Cis} : c.role = .central →
      CisStep c { c with aclConnectionHandle := none, state := .configuration }
  | accept {c : Cis} : c.role = .peripheral → c.state = .pendingAccept →
      CisStep c { c with state := .pendingInd }
  | confirm {c : Cis} (p : CisParameters) : c.role = .peripheral → c.state = .pendingInd →
      CisStep c { c with state := .connected, parameters := some p }

/-- Any number of transitions. -/
abbrev CisSteps : Cis → Cis → Prop := Relation.ReflTransGen CisStep

/-- The same CIS: what identifies an entry. -/
structure SameCis (c c' : Cis) : Prop where
  cig : c'.cigId = c.cigId
  cis : c'.cisId = c.cisId
  role : c'.role = c.role
  handle : c'.cisConnectionHandle = c.cisConnectionHandle

theorem SameCis.refl (c : Cis) : SameCis c c := ⟨rfl, rfl, rfl, rfl⟩

theorem SameCis.trans {c₁ c₂ c₃} (h : SameCis c₁ c₂) (h' : SameCis c₂ c₃) : SameCis c₁ c₃ :=
  ⟨h'.cig.trans h.cig, h'.cis.trans h.cis, h'.role.trans h.role, h'.handle.trans h.handle⟩

/-- A step of a stream keeps its identity. -/
theorem CisStep.same {c c'} (h : CisStep c c') : SameCis c c' := by
  cases h <;> exact ⟨rfl, rfl, rfl, rfl⟩

theorem CisSteps.same {c c'} (h : CisSteps c c') : SameCis c c' := by
  induction h with
  | refl => exact SameCis.refl c
  | tail _ hstep ih => exact ih.trans hstep.same

/-- A handle the manager allocates for a CIS. -/
def CisHandle (k : UInt16) : Prop := 0xe00 ≤ k.toNat ∧ k.toNat < 0xefe

/-- Where the entry of a handle in `s'` comes from. -/
inductive Origin (s : IsoManager) (input : Input) (s' : IsoManager) (k : UInt16) : Cis → Prop
  | kept {c c' : Cis} : s.cisConnections[k]? = some c → CisSteps c c' → Origin s input s' k c'
  | configured {env : Env} {g i : UInt8} {sduC sduP : UInt32} {update : CigConfig → CigConfig}
      {cises : List (UInt8 × CisConfig)} {hs : List UInt16} :
      s.checkCig env g sduC sduP cises = .ok () →
      s.configureCig env g update cises = .ok (s', hs) →
      s.cisConnections[k]? = none → CisHandle k →
      Origin s input s' k (configuredCis g i .central k)
  | requested {a : UInt16} {q : CisReq} : input = .llcp a (.cisReq q) →
      s.cisConnections[k]? = none → CisHandle k → Origin s input s' k (requestedCis a k q)

/-! ## Configuring a CIG -/

/-- What a CIG command leaves: the links and the queue are untouched, the configurations grow,
the entries are kept and the new ones are Central connections in configuration. -/
structure CigConfigured (s : IsoManager) (g : UInt8) (cises : List (UInt8 × CisConfig))
    (s' : IsoManager) : Prop where
  links : s'.aclConnections = s.aclConnections
  requests : s'.cisConnectionRequests = s.cisConnectionRequests
  cig : ∀ g' : UInt8, (s'.cigConfig[g']?).isSome ↔ g = g' ∨ (s.cigConfig[g']?).isSome
  cisKept : ∀ key : UInt8 × UInt8, (s.cisConfig[key]?).isSome → (s'.cisConfig[key]?).isSome
  cisNew : ∀ (key : UInt8 × UInt8) cfg, s'.cisConfig[key]? = some cfg →
    s.cisConfig[key]? = some cfg ∨ (key.1 = g ∧ (key.2, cfg) ∈ cises)
  kept : ∀ (k : UInt16) c, s.cisConnections[k]? = some c → s'.cisConnections[k]? = some c
  new : ∀ (k : UInt16) c, s'.cisConnections[k]? = some c → s.cisConnections[k]? = some c ∨
    (s.cisConnections[k]? = none ∧ CisHandle k ∧
      ∃ i, c = configuredCis g i .central k ∧ (s'.cisConfig[(g, i)]?).isSome)

/-- What configuring a group does. -/
theorem configureCig_spec {env s s' g update cises hs}
    (heq : s.configureCig env g update cises = .ok (s', hs)) : CigConfigured s g cises s' := by
  refine configureCises_induct (CigConfigured s g cises) ?_ ?_ heq
  · intro s₁ s₂ h i cfg hmem hs₁ hnew
    -- the configuration is stored first, whichever way the connection is found
    have hcisNew : ∀ (key : UInt8 × UInt8) cfg',
        (s₁.cisConfig.insert (g, i) cfg)[key]? = some cfg' →
        s.cisConfig[key]? = some cfg' ∨ (key.1 = g ∧ (key.2, cfg') ∈ cises) := by
      intro key cfg' hkey
      rw [HashMap.getElem?_insert'] at hkey
      split at hkey
      · rename_i hgi
        subst hgi
        cases hkey
        exact Or.inr ⟨rfl, hmem⟩
      · exact hs₁.cisNew key cfg' hkey
    have hgrown : ∀ key : UInt8 × UInt8, (s₁.cisConfig[key]?).isSome →
        ((s₁.cisConfig.insert (g, i) cfg)[key]?).isSome := by
      intro key hkey
      rw [HashMap.getElem?_insert']
      split
      · rfl
      · exact hkey
    have hcisKept : ∀ key : UInt8 × UInt8, (s.cisConfig[key]?).isSome →
        ((s₁.cisConfig.insert (g, i) cfg)[key]?).isSome :=
      fun key hkey => hgrown key (hs₁.cisKept key hkey)
    have hcisAdded : ((s₁.cisConfig.insert (g, i) cfg)[(g, i)]?).isSome := by
      rw [HashMap.getElem?_insert', if_pos rfl]
      rfl
    have hold : ∀ (k : UInt16) c, s₁.cisConnections[k]? = some c → s.cisConnections[k]? = some c ∨
        (s.cisConnections[k]? = none ∧ CisHandle k ∧ ∃ j, c = configuredCis g j .central k ∧
          ((s₁.cisConfig.insert (g, i) cfg)[(g, j)]?).isSome) := by
      intro k c hk
      rcases hs₁.new k c hk with hk | ⟨hn, hrg, j, hj, hcfg⟩
      · exact Or.inl hk
      · exact Or.inr ⟨hn, hrg, j, hj, hgrown _ hcfg⟩
    rcases newCisConnection_ok hnew with ⟨rfl, -⟩ | ⟨hh, rfl, -⟩
    · exact ⟨hs₁.links, hs₁.requests, hs₁.cig, hcisKept, hcisNew, hs₁.kept, hold⟩
    · obtain ⟨hfree, hrg⟩ := newCisConnectionHandle_ok hh
      have hfree₁ : s₁.cisConnections[h]? = none := hfree
      have hent : ∀ (k : UInt16) c,
          (insertCis _ (configuredCis g i .central h)).cisConnections[k]? = some c ↔
            (k = h ∧ c = configuredCis g i .central h) ∨ s₁.cisConnections[k]? = some c :=
        fun k c => insertCis_eq_some _ k hfree
      refine ⟨hs₁.links, hs₁.requests, hs₁.cig, hcisKept, hcisNew, ?_, ?_⟩
      · intro k c hk
        exact (hent k c).mpr (Or.inr (hs₁.kept k c hk))
      · intro k c hk
        rcases (hent k c).mp hk with ⟨rfl, rfl⟩ | hk
        · refine Or.inr ⟨?_, hrg, i, rfl, hcisAdded⟩
          cases hpre : s.cisConnections[k]? with
          | none => rfl
          | some c =>
            have hkept := hs₁.kept k c hpre
            rw [hfree₁] at hkept
            cases hkept
        · exact hold k c hk
  · refine ⟨rfl, rfl, ?_, fun _ h => h, fun _ _ h => Or.inl h, fun _ _ h =>
      h, fun _ _ h => Or.inl h⟩
    intro g'
    by_cases hg : g = g'
    · simp [hg]
    · simp [hg]

/-! ## Where entries come from -/

section origin

variable {env : Env} {s s' : IsoManager} {out : List Output} {input : Input} {k : UInt16}
  {c c' : Cis}

/-- Taking the next request moves at most the entry it names. -/
theorem Started.entry (h : Started env s s' out) (hk : s'.cisConnections[k]? = some c') :
    ∃ c, s.cisConnections[k]? = some c ∧ CisSteps c c' := by
  cases h with
  | idle => exact ⟨c', hk, .refl⟩
  | @sent r _ _ _ p c _ _ _ _ hc =>
    rw [startRequest_getElem?] at hk
    split at hk
    · rename_i hr
      rw [hc] at hk
      cases hk
      exact ⟨c, hr ▸ hc, .single (.request r.aclConnectionHandle p)⟩
    · exact ⟨c', hk, .refl⟩

/-- The central that waits for the response. -/
theorem awaitsRsp_iff {a} : awaitsRsp a c = true ↔
    c.aclConnectionHandle = some a ∧ c.role = .central ∧ c.state = .pendingRsp := by
  exact decide_eq_true_iff

/-- The peripheral that waits for the indication. -/
theorem awaitsInd_iff {a} : awaitsInd a c = true ↔
    c.aclConnectionHandle = some a ∧ c.role = .peripheral ∧ c.state = .pendingInd := by
  exact decide_eq_true_iff

theorem terminates_iff {a q} : terminates a q c = true ↔
    c.aclConnectionHandle = some a ∧ c.cigId = q.cigId ∧ c.cisId = q.cisId := by
  exact decide_eq_true_iff

/-- What a step does to the entry of a handle, up to the state `s₁` from which the next request is
started. `next` is whether there is such a start. -/
inductive Fate (s : IsoManager) (input : Input) (s₁ : IsoManager) (k : UInt16) :
    Bool → Option Cis → Option Cis → Prop
  | same {next : Bool} {o : Option Cis} :
      (∀ a reason, input = .removeAclConnection a reason →
        ∀ c ∈ o, c.aclConnectionHandle ≠ some a) →
      Fate s input s₁ k next o o
  | configured {env : Env} {g i : UInt8} {sduC sduP : UInt32} {update : CigConfig → CigConfig}
      {cises : List (UInt8 × CisConfig)} {hs : List UInt16} :
        s.checkCig env g sduC sduP cises = .ok () →
      s.configureCig env g update cises = .ok (s₁, hs) → CisHandle k →
      Fate s input s₁ k false none (some (configuredCis g i .central k))
  | requested {a : UInt16} {q : CisReq} : input = .llcp a (.cisReq q) → CisHandle k →
      Fate s input s₁ k false none (some (requestedCis a k q))
  | dataPath {cmd : Command} {c : Cis} (cToP pToC : Option IsoDataPath) : input = .hci cmd →
      Fate s input s₁ k false (some c)
        (some { c with isoDataPathCToP := cToP, isoDataPathPToC := pToC })
  | accepted {cmd : Command} {c : Cis} :
      input = .hci cmd → c.role = .peripheral → c.state = .pendingAccept →
      Fate s input s₁ k false (some c) (some { c with state := .pendingInd })
  | rejected {c : Cis} :
      c.role = .peripheral → c.state = .pendingAccept → Fate s input s₁ k false (some c) none
  | established {a : UInt16} {packet : LlcpPacket} {c : Cis} :
      input = .llcp a packet → awaitsRsp a c = true →
      Fate s input s₁ k true (some c) (some { c with state := .connected })
  | failed {a : UInt16} {c : Cis} : awaitsRsp a c = true →
      Fate s input s₁ k true (some c) (some { c with state := .configuration, parameters := none })
  | confirmed {a : UInt16} {packet : LlcpPacket} {c : Cis} (p : CisParameters) :
      input = .llcp a packet → awaitsInd a c = true →
      Fate s input s₁ k false (some c) (some { c with state := .connected, parameters := some p })
  | disconnected {p : Disconnect} {c : Cis} {o : Option Cis} : input = .hci (.disconnect p) →
      p.connectionHandle = k → c.state = .connected ∨ c.state = .pendingRsp →
      o = (if c.role = .central then some { c with state := .configuration } else none) →
      Fate s input s₁ k false (some c) o
  | unlinked {a : UInt16} {reason : ErrorCode} {c : Cis} {o : Option Cis} :
      input = .removeAclConnection a reason → c.aclConnectionHandle = some a →
      o = (if c.role = .central then
        some { c with aclConnectionHandle := none, state := .configuration } else none) →
      Fate s input s₁ k false (some c) o
  | removedCig {p : LeRemoveCig} {c : Cis} :
      input = .hci (.leRemoveCig p) → s₁ = s.dropCig p.cigId →
      (s.cigConfig[p.cigId]?).isSome → s.cigActive p.cigId = false → c.role = .central →
        c.cigId = p.cigId →
      c.state = .configuration → Fate s input s₁ k false (some c) none
  | terminated {a : UInt16} {q : CisTerminateInd} {c : Cis} : input = .llcp a (.cisTerminateInd q) →
      terminates a q c = true → Fate s input s₁ k false (some c) none

/-- A step up to the start of the next request: the entries, the queue and the links. -/
structure Passed (s : IsoManager) (input : Input) (next : Bool) (s₁ : IsoManager) : Prop where
  entry : ∀ k : UInt16, Fate s input s₁ k next s.cisConnections[k]? s₁.cisConnections[k]?
  queue : (s₁.cisConnectionRequests.Sublist s.cisConnectionRequests ∧
    ∀ r ∈ s₁.cisConnectionRequests,
      ∀ reason, input ≠ .removeAclConnection r.aclConnectionHandle reason) ∨
    ∃ p rs, next = true ∧ input = .hci (.leCreateCis p) ∧
      s.checkCisRequests p.cisConfig [] = .ok rs ∧ s₁.cisConnectionRequests = rs.reverse
  links : ∀ b : UInt16, (∀ reason, input ≠ .removeAclConnection b reason) →
    (s.aclConnections[b]?).isSome →
    (s₁.aclConnections[b]?).isSome

section unlost

variable {s₁ : IsoManager} {next : Bool} {h : UInt16} {o : Option Cis} {f : Cis → Cis}
  (hin : ∀ a reason, input ≠ .removeAclConnection a reason)
  (hqueue : s₁.cisConnectionRequests = s.cisConnectionRequests)
  (hlinks : s₁.aclConnections = s.aclConnections)

include hin

include hqueue hlinks in
/-- The entries change in a step that is not the loss of a link, and the rest stays. -/
theorem passed_entries
    (hentry : ∀ k : UInt16, Fate s input s₁ k next s.cisConnections[k]? s₁.cisConnections[k]?) :
    Passed s input next s₁ where
  entry := hentry
  queue := .inl ⟨hqueue ▸ .refl _, fun _ _ => hin _⟩
  links _ _ hb := hlinks ▸ hb

include hqueue hlinks in
/-- One entry changes. -/
theorem passed_entry
    (heq : ∀ k : UInt16, s₁.cisConnections[k]? = if h = k then o else s.cisConnections[k]?)
    (hfate : Fate s input s₁ h next s.cisConnections[h]? o) : Passed s input next s₁ := by
  refine passed_entries hin hqueue hlinks fun k => ?_
  rw [heq]
  split
  · rename_i hk
    exact hk ▸ hfate
  · exact .same fun a reason h => absurd h (hin a reason)

theorem passed_modifyCis (hc : s.cisConnections[h]? = some c)
    (hfate : Fate s input (s.modifyCis h f) h next (some c) (some (f c))) :
    Passed s input next (s.modifyCis h f) := by
  refine passed_entry (h := h) (o := some (f c)) hin rfl rfl (fun k => ?_) (hc ▸ hfate)
  rw [modifyCis_getElem?, hc]
  rfl

theorem passed_removeCis (hc : s.cisConnections[h]? = some c)
    (hfate : Fate s input (s.removeCis h) h false (some c) none) :
    Passed s input false (s.removeCis h) :=
  passed_entry hin rfl rfl (fun _ => removeCis_getElem? ..) (hc ▸ hfate)

include hqueue hlinks in
/-- Nothing changes that concerns CISes. -/
theorem passed_same (hent : s₁.cisConnections = s.cisConnections) : Passed s input false s₁ :=
  passed_entries hin hqueue hlinks fun _ => hent ▸ .same fun a reason h => absurd h (hin a reason)

end unlost

/-- A group is configured. -/
theorem passed_configured {g sduC sduP update cises hs cmd}
    (hchk : s.checkCig env g sduC sduP cises = .ok ())
    (hconf : s.configureCig env g update cises = .ok (s', hs)) :
    Passed s (.hci cmd) false s' := by
  have hspec := configureCig_spec hconf
  refine passed_entries nofun hspec.requests hspec.links fun k => ?_
  cases hk : s.cisConnections[k]? with
  | some c =>
    rw [hspec.kept k c hk]
    exact .same nofun
  | none =>
    cases hk' : s'.cisConnections[k]? with
    | none => exact .same nofun
    | some c' =>
      rcases hspec.new k c' hk' with hold | ⟨-, hrg, i, rfl, -⟩
      · cases hk.symm.trans hold
      · exact .configured hchk hconf hrg

/-- A group is removed. -/
theorem passed_dropCig {p : LeRemoveCig} (hkn : (s.cigConfig[p.cigId]?).isSome)
    (hact : s.cigActive p.cigId = false) :
    Passed s (.hci (.leRemoveCig p)) false (s.dropCig p.cigId) := by
  refine passed_entries nofun rfl rfl fun k => ?_
  rw [dropCig_entry]
  cases hk : s.cisConnections[k]? with
  | none => exact .same nofun
  | some c =>
    rw [Option.filter_some]
    split
    · exact .same nofun
    · rename_i hdrop
      simp only [decide_eq_true_eq, not_or, not_not] at hdrop
      have hidle := HashMap.any_eq_false.mp hact k c hk
      rw [hdrop.1, hdrop.2] at hidle
      exact .removedCig rfl rfl hkn hact hdrop.1 hdrop.2 (by simpa using hidle)

/-- An ACL connection is lost. -/
theorem passed_dropLink {a reason} :
    Passed s (.removeAclConnection a reason) false (s.dropLink a) where
  entry k := by
    rw [dropLink_entry]
    cases s.cisConnections[k]? with
    | none => exact .same fun _ _ _ _ hc => absurd hc (Option.not_mem_none _)
    | some c =>
      by_cases ha : c.aclConnectionHandle = some a
      · refine .unlinked rfl ha ?_
        by_cases hr : c.role = .central <;> simp [unlink, ha, hr]
      · have hkept : ((some c).filter fun c => c.role = .central ∨
            c.aclConnectionHandle ≠ some a).map (unlink a) = some c := by simp [unlink, ha]
        rw [hkept]
        refine .same ?_
        rintro _ _ ⟨⟩ _ ⟨⟩
        exact ha
  queue := by
    refine .inl ⟨List.filter_sublist, fun r hr _ hin => ?_⟩
    cases hin
    simp [dropLink] at hr
  links b hin hb := by
    have hne : a ≠ b := fun h => hin reason (h ▸ rfl)
    show ((s.aclConnections.erase a)[b]?).isSome
    rw [HashMap.getElem?_erase', if_neg hne]
    exact hb

/-- The next request is started because CISes are requested, or because a request in flight is
answered. -/
def StartsNext (s : IsoManager) (input : Input) (s₁ : IsoManager) : Prop :=
  (∃ p, input = .hci (.leCreateCis p) ∧ s.cisConnectionRequests = [] ∧
    s₁.cisConnections = s.cisConnections) ∨
    ∃ (h : UInt16) (c : Cis), s.cisConnections[h]? = some c ∧ c.state = .pendingRsp ∧
      ∀ c', s₁.cisConnections[h]? = some c' → c'.state ≠ .pendingRsp

theorem startsNext_answered {a h f} (hc : s.cisConnections[h]? = some c)
    (haw : awaitsRsp a c = true) (hf : (f c).state ≠ .pendingRsp) : StartsNext s input
    (s.modifyCis h f) := by
  obtain ⟨-, -, hst⟩ := awaitsRsp_iff.mp haw
  refine .inr ⟨h, c, hc, hst, fun c' hc' => ?_⟩
  rw [modifyCis_getElem?, if_pos rfl, hc] at hc'
  cases hc'
  exact hf

/-- **What a step does up to the start of the next request**, if there is such a start. -/
theorem Effect.passed (he : Effect env s input s' out) : Passed s input false s' ∨
    ∃ s₁ out', Passed s input true s₁ ∧ StartsNext s input s₁ ∧ Started env s₁ s' out' := by
  cases he with
  | refused | broadcast | skipped => exact .inl (passed_same nofun rfl rfl rfl)
  | configured _ _ hchk hconf => exact .inl (passed_configured hchk hconf)
  | removedCig hkn hact => exact .inl (passed_dropCig hkn hact)
  | created hchk hemp _ hstr =>
    refine .inr ⟨_, _, ?_, ?_, hstr⟩
    · exact ⟨fun _ => .same nofun, .inr ⟨_, _, rfl, rfl, hchk, rfl⟩, fun _ _ h => h⟩
    · exact .inl ⟨_, rfl, hemp, rfl⟩
  | accepted hc hr hst => exact .inl (passed_modifyCis nofun hc (.accepted rfl hr hst))
  | rejected hc hr hst => exact .inl (passed_removeCis nofun hc (.rejected hr hst))
  | @dataPath _ _ h f _ _ hf =>
    cases hc : s.cisConnections[h]? with
    | none =>
      refine .inl (passed_entry (h := h) (o := none) nofun rfl rfl (fun k => ?_) (hc ▸ .same nofun))
      rw [modifyCis_getElem?, hc]
      rfl
    | some c =>
      refine .inl (passed_modifyCis nofun hc ?_)
      rw [hf c]
      exact .dataPath _ _ rfl
  | disconnected hc hst =>
    refine .inl
      (passed_entry nofun (endCis_requests ..) (endCis_aclConnections ..)
      (endCis_getElem? _ _ · hc) ?_)
    exact hc ▸ .disconnected rfl rfl hst rfl
  | @linkAdded a role =>
    refine .inl ⟨fun _ => .same nofun, .inl ⟨.refl _, nofun⟩, fun b _ hb => ?_⟩
    show ((s.aclConnections.insert a role)[b]?).isSome
    rw [HashMap.getElem?_insert']
    split
    · rfl
    · exact hb
  | linkLost => exact .inl passed_dropLink
  | requestReceived hnew =>
    obtain ⟨hfree, hrg⟩ := newCisConnectionHandle_ok hnew
    refine .inl (passed_entry nofun rfl rfl (insertCis_getElem? _ · _) ?_)
    exact hfree ▸ .requested rfl hrg
  | established hc haw _ _ hstr =>
    exact .inr ⟨_, _, passed_modifyCis nofun hc (.established rfl haw),
      startsNext_answered hc haw (by nofun), hstr⟩
  | failed hc haw _ hstr =>
    exact .inr ⟨_, _, passed_modifyCis nofun hc (.failed haw),
      startsNext_answered hc haw (by nofun), hstr⟩
  | confirmed hc haw => exact .inl (passed_modifyCis nofun hc (.confirmed _ rfl haw))
  | terminated hc hterm => exact .inl (passed_removeCis nofun hc (.terminated rfl hterm))

/-- An entry that stays took transitions. -/
theorem Fate.steps {s₁ next} (h : Fate s input s₁ k next (some c) (some c')) : CisSteps c c' := by
  cases h with
  | same => exact .refl
  | dataPath => exact .single (.dataPath _ _)
  | accepted _ hr hst => exact .single (.accept hr hst)
  | established _ haw =>
    obtain ⟨-, hr, hst⟩ := awaitsRsp_iff.mp haw
    exact .single (.respond hr hst)
  | failed haw =>
    obtain ⟨-, hr, hst⟩ := awaitsRsp_iff.mp haw
    exact .single (.fail hr hst)
  | confirmed p _ haw =>
    obtain ⟨-, hr, hst⟩ := awaitsInd_iff.mp haw
    exact .single (.confirm p hr hst)
  | disconnected _ _ _ ho =>
    split at ho
    · cases ho
      exact .single (.disconnect (by assumption))
    · cases ho
  | unlinked _ _ ho =>
    split at ho
    · cases ho
      exact .single (.unlink (by assumption))
    · cases ho

/-- A Central entry stays one, in configuration if it was, unless its CIG is removed or it is
terminated. -/
theorem Fate.central {s₁ next o} (h : Fate s input s₁ k next (some c) o) (hr : c.role = .central) :
    (∃ c', o = some c' ∧ SameCis c c' ∧ (c.state = .configuration → c'.state = .configuration)) ∨
      next = false ∧
      ((∃ p, input = .hci (.leRemoveCig p) ∧ s₁ = s.dropCig p.cigId ∧
        (s.cigConfig[p.cigId]?).isSome ∧ s.cigActive p.cigId = false ∧ c.cigId = p.cigId) ∨
        ∃ a q, input = .llcp a (.cisTerminateInd q) ∧ terminates a q c = true) := by
  cases h with
  | same => exact .inl ⟨c, rfl, .refl c, id⟩
  | dataPath => exact .inl ⟨_, rfl, ⟨rfl, rfl, rfl, rfl⟩, id⟩
  | accepted _ hr' | rejected hr' => cases hr.symm.trans hr'
  | established _ haw =>
    obtain ⟨-, -, hst⟩ := awaitsRsp_iff.mp haw
    exact .inl ⟨_, rfl, ⟨rfl, rfl, rfl, rfl⟩, fun hst' => by cases hst.symm.trans hst'⟩
  | failed => exact .inl ⟨_, rfl, ⟨rfl, rfl, rfl, rfl⟩, fun _ => rfl⟩
  | confirmed _ _ haw =>
    obtain ⟨-, hr', -⟩ := awaitsInd_iff.mp haw
    cases hr.symm.trans hr'
  | disconnected _ _ _ ho | unlinked _ _ ho =>
    rw [if_pos hr] at ho
    exact .inl ⟨_, ho, ⟨rfl, rfl, rfl, rfl⟩, fun _ => rfl⟩
  | removedCig hin hdrop hkn hact _ hg => exact .inr ⟨rfl, .inl ⟨_, hin, hdrop, hkn, hact, hg⟩⟩
  | terminated hin hterm => exact .inr ⟨rfl, .inr ⟨_, _, hin, hterm⟩⟩

/-- **Every entry after a step was there before and took transitions, or is new.** -/
theorem Effect.origin (he : Effect env s input s' out) (hk : s'.cisConnections[k]? = some c') :
    Origin s input s' k c' := by
  rcases he.passed with hp | ⟨s₁, _, hp, -, hstr⟩
  · have hfate := hp.entry k
    rw [hk] at hfate
    cases hc : s.cisConnections[k]? with
    | some c =>
      rw [hc] at hfate
      exact .kept hc hfate.steps
    | none =>
      rw [hc] at hfate
      cases hfate with
      | configured hchk hconf hrg => exact .configured hchk hconf hc hrg
      | requested hin hrg => exact .requested hin hc hrg
  · obtain ⟨c₁, hc₁, hsteps⟩ := hstr.entry hk
    have hfate := hp.entry k
    rw [hc₁] at hfate
    cases hc : s.cisConnections[k]? with
    | some c =>
      rw [hc] at hfate
      exact .kept hc (hfate.steps.trans hsteps)
    | none =>
      rw [hc] at hfate
      cases hfate

end origin

/-! ## What holds of every entry -/

/-- What the transitions preserve of the entry of a handle. -/
structure CisOk (k : UInt16) (c : Cis) : Prop where
  /-- It is stored under its own handle. -/
  own : c.cisConnectionHandle = k
  handle : CisHandle k
  central : c.role = .central →
    c.state = .configuration ∨ c.state = .pendingRsp ∨ c.state = .connected
  peripheral : c.role = .peripheral → c.state ≠ .configuration
  link : c.state ≠ .configuration → c.aclConnectionHandle.isSome
  parameters : c.state ≠ .configuration → c.parameters.isSome

/-- A step keeps a stream well formed. -/
theorem CisStep.ok {k c c'} (h : CisStep c c') (hc : CisOk k c) : CisOk k c' := by
  obtain ⟨hown, hh, hcen, hper, hl, hpar⟩ := hc
  cases h with
  | dataPath => exact ⟨hown, hh, hcen, hper, hl, hpar⟩
  | request => exact ⟨hown, hh, fun _ => Or.inr (Or.inl rfl), nofun, fun _ => rfl, fun _ => rfl⟩
  | respond _ hst =>
    have hne : c.state ≠ .configuration := by rw [hst]; decide
    exact ⟨hown, hh, fun _ => Or.inr (Or.inr rfl), nofun, fun _ => hl hne, fun _ => hpar hne⟩
  | fail hr | disconnect hr | unlink hr =>
    refine ⟨hown, hh, fun _ => Or.inl rfl, ?_, fun h => absurd rfl h, fun h => absurd rfl h⟩
    intro hr'
    rw [show c.role = _ from hr'] at hr
    cases hr
  | accept hr hst =>
    have hne : c.state ≠ .configuration := by rw [hst]; decide
    refine ⟨hown, hh, ?_, nofun, fun _ => hl hne, fun _ => hpar hne⟩
    intro hr'
    rw [show c.role = _ from hr'] at hr
    cases hr
  | confirm _ _ hst =>
    have hne : c.state ≠ .configuration := by rw [hst]; decide
    exact ⟨hown, hh, fun _ => Or.inr (Or.inr rfl), nofun, fun _ => hl hne, fun _ => rfl⟩

theorem CisSteps.ok {k c c'} (h : CisSteps c c') (hc : CisOk k c) : CisOk k c' := by
  induction h with
  | refl => exact hc
  | tail _ hstep ih => exact hstep.ok ih

/-- Every stream is well formed, wherever it comes from. -/
theorem Origin.ok {s s' input k c} (h : Origin s input s' k c)
    (hs : ∀ (k : UInt16) c, s.cisConnections[k]? = some c → CisOk k c) : CisOk k c := by
  cases h with
  | kept hc hsteps => exact hsteps.ok (hs k _ hc)
  | configured _ _ _ hrg =>
    exact ⟨rfl, hrg, fun _ => Or.inl rfl, nofun, fun h => absurd rfl h, fun h => absurd rfl h⟩
  | requested _ _ hrg => exact ⟨rfl, hrg, nofun, nofun, fun _ => rfl, fun _ => rfl⟩

/-! ## Entries and configurations -/

/-- A Central CIS has its CIG and CIS configured. -/
def CentralConfigured (s : IsoManager) : Prop :=
  ∀ (k : UInt16) c, s.cisConnections[k]? = some c → c.role = .central →
    (s.cigConfig[c.cigId]?).isSome ∧ (s.cisConfig[(c.cigId, c.cisId)]?).isSome

/-- No two Central CISes share their identifiers. -/
def CentralUnique (s : IsoManager) : Prop :=
  ∀ (k k' : UInt16) c c', s.cisConnections[k]? = some c → s.cisConnections[k']? = some c' →
    c.role = .central → c'.role = .central → c.cigId = c'.cigId → c.cisId = c'.cisId → k = k'

/-- How a step changes the configurations: not at all, by removing a CIG, or by configuring
one. Whether a CIG is configurable does not count. -/
inductive ConfigChange (s s' : IsoManager) : Prop
  | same : (∀ g : UInt8, (s'.cigConfig[g]?).isSome = (s.cigConfig[g]?).isSome) →
      s'.cisConfig = s.cisConfig →
      (∀ (k : UInt16) c', s'.cisConnections[k]? = some c' → c'.role = .central →
        ∃ c, s.cisConnections[k]? = some c ∧ SameCis c c') → ConfigChange s s'
  | removed (g : UInt8) : s' = s.dropCig g → ConfigChange s s'
  | configured {env : Env} {g : UInt8} {sduC sduP : UInt32} {update : CigConfig → CigConfig}
      {cises : List (UInt8 × CisConfig)} {hs : List UInt16} :
      s.checkCig env g sduC sduP cises = .ok () →
      s.configureCig env g update cises = .ok (s', hs) → ConfigChange s s'

section config

variable {env : Env} {s s' : IsoManager} {out : List Output} {input : Input}

theorem Started.configs (h : Started env s s' out) :
    s'.cigConfig = s.cigConfig ∧ s'.cisConfig = s.cisConfig := by
  cases h with
  | idle | sent => exact ⟨rfl, rfl⟩

/-- What a step does to the configurations. -/
theorem Effect.configChange (he : Effect env s input s' out) : ConfigChange s s' := by
  by_cases hconf : ∃ env g sduC sduP update cises hs,
      s.checkCig env g sduC sduP cises = .ok () ∧ s.configureCig env g update cises = .ok (s', hs)
  · obtain ⟨env, g, sduC, sduP, update, cises, hs, hchk, hconf⟩ := hconf
    exact .configured hchk hconf
  have hentries : ∀ (k : UInt16) c', s'.cisConnections[k]? = some c' → c'.role = .central →
      ∃ c, s.cisConnections[k]? = some c ∧ SameCis c c' := by
    intro k c' hk hr
    cases he.origin hk with
    | kept hc hsteps => exact ⟨_, hc, hsteps.same⟩
    | configured hchk hconf' => exact absurd ⟨_, _, _, _, _, _, _, hchk, hconf'⟩ hconf
    | requested => cases hr
  have same (hcig : s'.cigConfig = s.cigConfig) (hcis : s'.cisConfig = s.cisConfig) :
      ConfigChange s s' := .same (fun g => by rw [hcig]) hcis hentries
  cases he with
  | refused | accepted | rejected | dataPath | broadcast | linkAdded | linkLost | skipped
    | requestReceived
  | confirmed | terminated => exact same rfl rfl
  | configured _ _ hchk hconf' => exact .configured hchk hconf'
  | removedCig => exact .removed _ rfl
  | created _ _ htag hstr =>
    obtain ⟨hcig, hcis⟩ := hstr.configs
    refine .same ?_ hcis hentries
    intro g
    rw [hcig]
    exact tagNotConfigurable_isSome htag g
  | disconnected => exact same (endCis_cigConfig ..) (endCis_cisConfig ..)
  | established _ _ _ _ hstr | failed _ _ _ hstr => exact same hstr.configs.1 hstr.configs.2

theorem ConfigChange.centralConfigured (h : ConfigChange s s') (hs : CentralConfigured s) :
    CentralConfigured s' := by
  intro k c' hk hr
  cases h with
  | same hcig hcis hentries =>
    obtain ⟨c, hc, hsame⟩ := hentries k c' hk hr
    have hconf := hs k c hc (hsame.role ▸ hr)
    rw [hcig, hcis, hsame.cig, hsame.cis]
    exact hconf
  | removed g hs' =>
    subst hs'
    obtain ⟨hc, hkept⟩ := (dropCig_getElem? _ _).mp hk
    have hg : c'.cigId ≠ g := hkept.resolve_left fun hne => hne hr
    obtain ⟨hcig, hcis⟩ := hs k c' hc hr
    obtain ⟨cfg, hcfg⟩ := Option.isSome_iff_exists.mp hcis
    refine ⟨?_, Option.isSome_iff_exists.mpr ⟨cfg, ?_⟩⟩
    · show ((s.cigConfig.erase g)[c'.cigId]?).isSome
      rw [HashMap.getElem?_erase', if_neg (Ne.symm hg)]
      exact hcig
    · exact HashMap.mem_retain_iff.mpr ⟨hcfg, decide_eq_true hg⟩
  | configured _ hconf =>
    have hspec := configureCig_spec hconf
    rcases hspec.new k c' hk with hc | ⟨-, -, i, rfl, hcis⟩
    · obtain ⟨hcig, hcis⟩ := hs k c' hc hr
      exact ⟨(hspec.cig _).mpr (Or.inr hcig), hspec.cisKept _ hcis⟩
    · exact ⟨(hspec.cig _).mpr (Or.inl rfl), hcis⟩

/-- One connection is provided for a pair of identifiers only when there is none. -/
theorem newCisConnection_unique {g i h} (hs : CentralUnique s)
    (hnew : s.newCisConnection env g i .central = .ok (s', h)) : CentralUnique s' := by
  rcases newCisConnection_ok hnew with ⟨rfl, -⟩ | ⟨hh, rfl, hfresh⟩
  · exact hs
  obtain ⟨hfree, -⟩ := newCisConnectionHandle_ok hh
  intro k k' c c' hk hk' hr hr' hcig hcis
  have hold := (insertCis_eq_some _ _ hfree).mp hk
  have hold' := (insertCis_eq_some _ _ hfree).mp hk'
  rcases hold with ⟨rfl, rfl⟩ | hold <;> rcases hold' with ⟨hkh', rfl⟩ | hold'
  · exact hkh'.symm
  · exact absurd ⟨hcig.symm, hcis.symm, hr'⟩ (hfresh k' c' hold')
  · exact absurd ⟨hcig, hcis, hr⟩ (hfresh k c hold)
  · exact hs k k' c c' hold hold' hr hr' hcig hcis

theorem ConfigChange.centralUnique (h : ConfigChange s s') (hs : CentralUnique s) :
    CentralUnique s' := by
  cases h with
  | same _ _ hentries =>
    intro k k' c c' hk hk' hr hr' hcig hcis
    obtain ⟨c₀, hc₀, hsame⟩ := hentries k c hk hr
    obtain ⟨c₀', hc₀', hsame'⟩ := hentries k' c' hk' hr'
    refine hs k k' c₀ c₀' hc₀ hc₀' (hsame.role ▸ hr) (hsame'.role ▸ hr') ?_ ?_
    · rw [← hsame.cig, ← hsame'.cig]
      exact hcig
    · rw [← hsame.cis, ← hsame'.cis]
      exact hcis
  | removed _ hs' =>
    subst hs'
    intro k k' c c' hk hk'
    exact hs k k' c c' ((dropCig_getElem? _ _).mp hk).1 ((dropCig_getElem? _ _).mp hk').1
  | configured _ hconf =>
    refine configureCises_induct CentralUnique ?_ ?_ hconf
    · intro s₁ s₂ h i cfg _ hs₁ hnew
      refine newCisConnection_unique ?_ hnew
      exact hs₁
    · exact hs

end config

/-! ## Every run is coherent -/

/-- The entries are in order, and tied to the configurations. -/
structure Coherent (s : IsoManager) : Prop where
  entry : ∀ (k : UInt16) c, s.cisConnections[k]? = some c → CisOk k c
  configured : CentralConfigured s
  unique : CentralUnique s

/-- A new manager is coherent. -/
theorem coherent_new : Coherent new where
  entry _ _ hk := by cases hk
  configured _ _ hk := by cases hk
  unique _ _ _ _ hk := by cases hk

/-- **A step keeps the manager coherent**. -/
theorem Coherent.step {env s s' input out} (hs : Coherent s) (he : Effect env s input s' out) :
    Coherent s' where
  entry _ _ hk := (he.origin hk).ok hs.entry
  configured := he.configChange.centralConfigured hs.configured
  unique := he.configChange.centralUnique hs.unique

/-- **Every state reached from the initial one is coherent.** -/
theorem run_coherent {C tr s} (h : isoManager.Run C new tr s) : Coherent s :=
  h.invariant Coherent coherent_new fun _ _ _ _ hs _ hstep => hs.step (effect_of_step hstep)

end IsoManager

end RootCanal.Iso
