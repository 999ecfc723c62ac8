import RootCanal.Iso.Requests

/-!
# The tables of the ISO manager

Two joint invariants of the CIS connections with the other tables.

* `WellFormed`: an entry is stored under its own handle, is in a state of its role, and out of
  configuration has parameters and a known ACL link.  It holds in the runs whose packets and
  links make sense (`linksKnown`) and whose inputs keep what queued requests point to
  (`keepsQueued`): `run_wellFormed`.
* `Corresponds`: the configured CISes and the Central entries match one to one.  It holds in the
  runs in which no LL_CIS_TERMINATE_IND matches a Central entry (`keepsCentral`), since that
  packet drops the entry and leaves the configuration.
-/

namespace RootCanal.Iso

open Lib RootCanal.Hci RootCanal.Llcp

namespace IsoManager

/-! ## Entries and links -/

/-- Packets come on known links, and a link that comes up is new. -/
def linksKnown (s : IsoManager) : Env × Input → Bool
  | (_, .llcp a _) => s.aclConnections.contains a
  | (_, .addAclConnection a _) => !s.aclConnections.contains a
  | _ => true

/-- The entries of the CIS connections are well formed. -/
structure WellFormed (s : IsoManager) : Prop where
  own : ∀ (k : UInt16) c, s.cisConnections[k]? = some c → c.cisConnectionHandle = k
  central : ∀ (k : UInt16) c, s.cisConnections[k]? = some c → c.role = .central →
    c.state = .configuration ∨ c.state = .pendingRsp ∨ c.state = .connected
  peripheral : ∀ (k : UInt16) c, s.cisConnections[k]? = some c → c.role = .peripheral →
    c.state = .pendingAccept ∨ c.state = .pendingInd ∨ c.state = .connected
  linked : ∀ (k : UInt16) c, s.cisConnections[k]? = some c → c.state ≠ .configuration →
    (∃ a, c.aclConnectionHandle = some a ∧ (s.aclConnections[a]?).isSome) ∧ c.parameters.isSome
  unique : ∀ (k k' : UInt16) c c', s.cisConnections[k]? = some c →
    s.cisConnections[k']? = some c' → c.role = .central → c'.role = .central →
    c.cigId = c'.cigId → c.cisId = c'.cisId → k = k'

/-- What ties an entry to its link: a Peripheral CIS is never requested from here, and a CIS out of
configuration is on a known link. -/
structure EntryLinked (acls : HashMap UInt16 Role) (c : Cis) : Prop where
  peripheral : c.role = .peripheral → c.state ≠ .pendingRsp
  known : c.state ≠ .configuration → ∃ a, c.aclConnectionHandle = some a ∧ (acls[a]?).isSome

/-- The entries and the queued requests are on known links. -/
structure LinkOk (s : IsoManager) : Prop where
  entry : ∀ (k : UInt16) c, s.cisConnections[k]? = some c → EntryLinked s.aclConnections c
  queue : ∀ r ∈ s.cisConnectionRequests, (s.aclConnections[r.aclConnectionHandle]?).isSome

section links

variable {env : Env} {s s' : IsoManager} {out : List Output} {input : Input} {h : UInt16}

/-- An entry in configuration is linked, if it is a Central one. -/
theorem entryLinked_configuration {acls c} (hst : c.state = .configuration) :
    EntryLinked acls c where
  peripheral _ hrsp := by
    rw [hst] at hrsp
    cases hrsp
  known hne := absurd hst hne

/-- The next request starts a Central CIS, on a known link. -/
theorem Started.linkOk (hstr : Started env s s' out) (hl : LinkOk s) (hq : QueueOk s) :
    LinkOk s' := by
  cases hstr with
  | idle => exact hl
  | @sent r _ _ _ _ c hrs _ _ _ hc =>
    have hmem : r ∈ s.cisConnectionRequests := by
      rw [hrs]
      exact List.mem_append_right _ (List.mem_singleton_self r)
    obtain ⟨c₀, hc₀, hrl, -⟩ := hq.queued r hmem
    rw [hc] at hc₀
    cases hc₀
    refine ⟨?_, ?_⟩
    · intro k c' hc'
      rw [startRequest_getElem?] at hc'
      split at hc'
      · rw [hc] at hc'
        cases hc'
        refine ⟨?_, fun _ => ⟨r.aclConnectionHandle, rfl, hl.queue r hmem⟩⟩
        intro hrl'
        rw [show c.role = _ from hrl'] at hrl
        cases hrl
      · exact hl.entry k c' hc'
    · intro r' hr'
      exact hl.queue r' (List.dropLast_subset _ hr')

/-- The entries are on known links up to the start of the next request. -/
theorem LinkOk.passed {s₁ next} (hl : LinkOk s) (hkn : s.linksKnown (env, input) = true)
    (hp : Passed s input next s₁) : LinkOk s₁ := by
  refine ⟨fun k c' hc' => ?_, fun r hr => ?_⟩
  · -- an entry on the link it was on
    have hlinked : ∀ c, s.cisConnections[k]? = some c → c.state ≠ .configuration →
        c'.aclConnectionHandle = c.aclConnectionHandle →
        (∀ b reason, input = .removeAclConnection b reason → c.aclConnectionHandle ≠ some b) →
        ∃ b, c'.aclConnectionHandle = some b ∧ (s₁.aclConnections[b]?).isSome := by
      intro c hc hst heq hne
      obtain ⟨b, hb, hsome⟩ := (hl.entry k c hc).known hst
      exact ⟨b, heq.trans hb, hp.links b (fun reason hin => hne b reason hin hb) hsome⟩
    have hfate := hp.entry k
    rw [hc'] at hfate
    generalize ho : s.cisConnections[k]? = o at hfate
    cases hfate with
    | same hne =>
      exact ⟨(hl.entry k c' ho).peripheral, fun hst => hlinked c' ho hst rfl fun b reason hin =>
        hne b reason hin c' rfl⟩
    | configured => exact entryLinked_configuration rfl
    | @requested a _ hin =>
      subst hin
      have hlk : (s.aclConnections[a]?).isSome :=
          Std.ExtTreeMap.contains_eq_isSome_getElem?.symm.trans hkn
      exact ⟨nofun, fun _ => ⟨a, rfl, hp.links a nofun hlk⟩⟩
    | dataPath _ _ hin =>
      subst hin
      exact ⟨(hl.entry k _ ho).peripheral, fun hst => hlinked _ ho hst rfl nofun⟩
    | accepted hin _ hst =>
      subst hin
      exact ⟨nofun, fun _ => hlinked _ ho (by rw [hst]; decide) rfl nofun⟩
    | established hin haw =>
      subst hin
      obtain ⟨-, -, hst⟩ := awaitsRsp_iff.mp haw
      exact ⟨nofun, fun _ => hlinked _ ho (by rw [hst]; decide) rfl nofun⟩
    | confirmed _ hin haw =>
      subst hin
      obtain ⟨-, -, hst⟩ := awaitsInd_iff.mp haw
      exact ⟨nofun, fun _ => hlinked _ ho (by rw [hst]; decide) rfl nofun⟩
    | failed => exact entryLinked_configuration rfl
    | disconnected _ _ _ ho | unlinked _ _ ho =>
      split at ho
      · cases ho
        exact entryLinked_configuration rfl
      · cases ho
  · rcases hp.queue with ⟨hsub, hoth⟩ | ⟨p, rs, -, rfl, hchk, hrs⟩
    · exact hp.links _ (hoth r hr) (hl.queue r (hsub.subset hr))
    · obtain ⟨-, -, hreq⟩ := checkCisRequests_ok hchk List.nodup_nil nofun
      rw [hrs, List.mem_reverse] at hr
      exact hp.links _ nofun (by rw [(hreq r hr).link]; rfl)

/-- **One step keeps the entries on known links**, when the queue is sound and the input comes on a
known link. -/
theorem LinkOk.step (hl : LinkOk s) (hs : Coherent s) (hq : QueueOk s)
    (hkn : s.linksKnown (env, input) = true)
    (hsafe : s.keepsQueued (env, input) = true) (he : Effect env s input s' out) : LinkOk s' := by
  rcases he.passed with hp | ⟨s₁, _, hp, -, hstr⟩
  · exact hl.passed hkn hp
  · exact hstr.linkOk (hl.passed hkn hp) (hq.passed hs hsafe hp)

end links

theorem linkOk_new : LinkOk new where
  entry _ _ hc := by cases hc
  queue := nofun

theorem wellFormed_of {s} (hs : Coherent s) (hl : LinkOk s) : WellFormed s where
  own k c hc := (hs.entry k c hc).own
  central k c hc := (hs.entry k c hc).central
  peripheral k c hc hr := by
    have hconf := (hs.entry k c hc).peripheral hr
    have hrsp := (hl.entry k c hc).peripheral hr
    revert hconf hrsp
    cases c.state <;> decide
  linked k c hc hst := ⟨(hl.entry k c hc).known hst, (hs.entry k c hc).parameters hst⟩
  unique := hs.unique

/-- **The entries are well formed in every run** whose packets come on known links, whose links are
new when they come up, and whose inputs keep what queued requests point to. -/
theorem run_wellFormed {tr : List ((Env × Input) × List Output)} {s : IsoManager}
    (h : isoManager.Run (fun s i => s.linksKnown i = true ∧ s.keepsQueued i = true) new tr s) :
    WellFormed s := by
  have hinv : (Coherent s ∧ QueueOk s) ∧ LinkOk s := by
    refine h.invariant (fun s => (Coherent s ∧ QueueOk s) ∧ LinkOk s)
      ⟨⟨coherent_new, queueOk_new⟩, linkOk_new⟩ ?_
    rintro s ⟨env, input⟩ s' out ⟨⟨hs, hq⟩, hl⟩ ⟨hkn, hsafe⟩ hstep
    have he := effect_of_step hstep
    exact ⟨⟨hs.step he, hq.step hs hsafe he⟩, hl.step hs hq hkn hsafe he⟩
  exact wellFormed_of hinv.1.1 hinv.2

/-- The peer requests a CIS. -/
def requestReceived (g i : UInt8) : Env × Input :=
  (sampleEnv, .llcp 0x40 (.cisReq {
    cigId := g
    cisId := i
    phyCToP := 1
    phyPToC := 1
    framed := 0
    maxSduCToP := 100
    maxSduPToC := 100
    sduIntervalCToP := 10000
    sduIntervalPToC := 10000
    maxPduCToP := 251
    maxPduPToC := 251
    nse := 1
    subInterval := 10000
    bnCToP := 1
    bnPToC := 1
    ftCToP := 1
    ftPToC := 1
    isoInterval := 8
    cisOffsetMin := 0
    cisOffsetMax := 0
    connEventCount := 0 }))

theorem run_wellFormed_both_roles : ∃ tr s,
    isoManager.Run (fun s i => s.linksKnown i = true ∧ s.keepsQueued i = true) new tr s ∧
      (s.cisConnections[(0xe00 : UInt16)]?).map Cis.state = some .connected ∧
      (s.cisConnections[(0xe02 : UInt16)]?).map Cis.state = some .pendingAccept ∧
      WellFormed s := by
  have hx : isoManager.ExecTo (fun _ s =>
      (s.cisConnections[(0xe00 : UInt16)]?).map Cis.state = some .connected ∧
      (s.cisConnections[(0xe02 : UInt16)]?).map Cis.state = some .pendingAccept) new
      [linkUp, configureCommand 1 [1, 2], createCommand [0xe00, 0xe01], responseReceived,
        requestReceived 1 1] := by
    decide +kernel
  obtain ⟨tr, s, hrun, hone, htwo⟩ := isoManager.exists_run
    (C := fun s i => s.linksKnown i = true ∧ s.keepsQueued i = true) (by decide +kernel) hx
  exact ⟨tr, s, hrun, hone, htwo, run_wellFormed hrun⟩

/-- A queued CIS still names the link it was disconnected on, so the peer terminates it and frees
its handle; the handle is given to a request of the peer, and the answer to the first request starts
this Peripheral CIS as if it were the queued one. -/
theorem peripheral_started_from_queue : ∃ tr s,
    isoManager.Run (fun s i => s.linksKnown i = true) new tr s ∧ ¬ WellFormed s := by
  have hx : isoManager.ExecTo (fun _ s => (s.cisConnections[(0xe01 : UInt16)]?).map
      (fun c => (c.role, c.state)) = some (.peripheral, .pendingRsp)) new
      [linkUp, configureCommand 1 [1, 2], createCommand [0xe01], disconnectCommand 0xe01,
        createCommand [0xe00, 0xe01], terminationReceived 1 2, requestReceived 3 1,
        responseReceived] := by
    decide +kernel
  obtain ⟨tr, s, hrun, hent⟩ := isoManager.exists_run (C := fun s i => s.linksKnown i = true)
    (by decide +kernel) hx
  refine ⟨tr, s, hrun, ?_⟩
  intro hwf
  obtain ⟨c, hc, hst⟩ := Option.map_eq_some_iff.mp hent
  obtain ⟨hr, hrsp⟩ := Prod.mk.inj hst
  have hper := hwf.peripheral _ c hc hr
  rw [hrsp] at hper
  simp at hper

/-! ## Configurations and Central entries -/

/-- The handle is that of a Central CIS with these identifiers. -/
def IsCentral (s : IsoManager) (g i : UInt8) (k : UInt16) : Prop :=
  ∃ c, s.cisConnections[k]? = some c ∧ c.role = .central ∧ c.cigId = g ∧ c.cisId = i

/-- The configured CISes and the Central entries match one to one. -/
structure Corresponds (s : IsoManager) : Prop where
  /-- Each configured CIS is of a configured CIG and has exactly one Central entry. -/
  entry : ∀ g i : UInt8, (s.cisConfig[(g, i)]?).isSome → (s.cigConfig[g]?).isSome ∧
    ∃! k, IsCentral s g i k
  /-- Each Central entry belongs to a configured CIS. -/
  configured : ∀ (k : UInt16) c, s.cisConnections[k]? = some c → c.role = .central →
    (s.cigConfig[c.cigId]?).isSome ∧ (s.cisConfig[(c.cigId, c.cisId)]?).isSome

/-- No termination matches a Central CIS. -/
def keepsCentral (s : IsoManager) : Env × Input → Bool
  | (_, .llcp a (.cisTerminateInd q)) =>
    !s.cisConnections.any fun _ c => terminates a q c && c.role == .central
  | _ => true

/-- Each configured CIS is of a configured CIG and has a Central entry. -/
def Covered (s : IsoManager) : Prop :=
  ∀ g i : UInt8, (s.cisConfig[(g, i)]?).isSome → (s.cigConfig[g]?).isSome ∧ ∃ k, IsCentral s g i k

section correspondence

variable {env : Env} {s s' : IsoManager} {out : List Output} {input : Input} {k h : UInt16}
  {c : Cis}

theorem Started.kept (hstr : Started env s s' out) (hc : s.cisConnections[k]? = some c) :
    ∃ c', s'.cisConnections[k]? = some c' ∧ SameCis c c' := by
  cases hstr with
  | idle => exact ⟨c, hc, .refl c⟩
  | sent =>
    rw [startRequest_getElem?]
    split
    · rename_i hk
      rw [hk, hc]
      exact ⟨_, rfl, (CisStep.request _ _).same⟩
    · exact ⟨c, hc, .refl c⟩

/-- **A Central entry survives every step but the removal of its CIG** and a termination that
matches it. -/
theorem Effect.central_kept (he : Effect env s input s' out)
    (hkeep : s.keepsCentral (env, input) = true) (hc : s.cisConnections[k]? = some c)
    (hr : c.role = .central) :
    (∃ c', s'.cisConnections[k]? = some c' ∧ SameCis c c') ∨ s' = s.dropCig c.cigId := by
  rcases he.passed with hp | ⟨s₁, _, hp, -, hstr⟩
  · have hfate := hp.entry k
    rw [hc] at hfate
    rcases hfate.central hr
      with ⟨c', hc', hsame, -⟩ | ⟨-, ⟨p, -, hdrop, -, -, hg⟩ | ⟨a, q, rfl, hterm⟩⟩
    · exact .inl ⟨c', hc', hsame⟩
    · exact .inr (hg ▸ hdrop)
    · have hone := HashMap.any_eq_false.mp ((Bool.not_eq_true' _).mp hkeep) k c hc
      simp [hterm, hr] at hone
  · have hfate := hp.entry k
    rw [hc] at hfate
    rcases hfate.central hr with ⟨c₁, hc₁, hsame₁, -⟩ | ⟨hnext, -⟩
    · obtain ⟨c', hc', hsame⟩ := hstr.kept hc₁
      exact .inl ⟨c', hc', hsame₁.trans hsame⟩
    · cases hnext

theorem IsCentral.of_kept {g i} (hcen : IsCentral s g i k)
    (hkept : ∀ c, s.cisConnections[k]? = some c → c.role = .central → c.cigId = g →
      ∃ c', s'.cisConnections[k]? = some c' ∧ SameCis c c') : IsCentral s' g i k := by
  obtain ⟨c, hc, hr, hcig, hcis⟩ := hcen
  obtain ⟨c', hc', hsame⟩ := hkept c hc hr hcig
  exact ⟨c', hc', hsame.role.trans hr, hsame.cig.trans hcig, hsame.cis.trans hcis⟩

/-- Storing one configuration with its connection keeps the configurations covered. -/
theorem Covered.configureOne {g i cfg} (hcov : Covered s) (hcig : (s.cigConfig[g]?).isSome)
    (hnew : newCisConnection env { s with cisConfig := s.cisConfig.insert (g, i) cfg } g
      i .central =
      .ok (s', h)) : Covered s' ∧ (s'.cigConfig[g]?).isSome := by
  have hkept : ∀ (k : UInt16) c, s.cisConnections[k]? = some c →
      s'.cisConnections[k]? = some c := by
    rcases newCisConnection_ok hnew with ⟨rfl, -⟩ | ⟨hh, rfl, -⟩
    · exact fun _ _ hc => hc
    · obtain ⟨hfree, -⟩ := newCisConnectionHandle_ok hh
      exact fun k c hc => (insertCis_eq_some _ _ hfree).mpr (Or.inr hc)
  have hthis : ∃ k, IsCentral s' g i k := by
    rcases newCisConnection_ok hnew with ⟨rfl, k, c, hc, hg, hi, hr, -⟩ | ⟨hh, rfl, -⟩
    · exact ⟨k, c, hc, hr, hg, hi⟩
    · obtain ⟨hfree, -⟩ := newCisConnectionHandle_ok hh
      exact ⟨h, _, (insertCis_eq_some _ _ hfree).mpr (Or.inl ⟨rfl, rfl⟩), rfl, rfl, rfl⟩
  have htables : s'.cigConfig = s.cigConfig ∧ s'.cisConfig = s.cisConfig.insert (g, i) cfg := by
    rcases newCisConnection_ok hnew with ⟨rfl, -⟩ | ⟨hh, rfl, -⟩ <;> exact ⟨rfl, rfl⟩
  refine ⟨?_, by rw [htables.1]; exact hcig⟩
  intro g' i' hcfg
  rw [htables.2, HashMap.getElem?_insert'] at hcfg
  rw [htables.1]
  split at hcfg
  · rename_i heq
    cases heq
    exact ⟨hcig, hthis⟩
  · obtain ⟨hcig', k, c, hc, hrs⟩ := hcov g' i' hcfg
    exact ⟨hcig', k, c, hkept k c hc, hrs⟩

theorem Covered.step (hcov : Covered s) (hkeep : s.keepsCentral (env, input) = true)
    (he : Effect env s input s' out) : Covered s' := by
  have hcen := fun {k c} => he.central_kept hkeep (k := k) (c := c)
  cases he.configChange with
  | same hcig hcis =>
    intro g i hcfg
    rw [hcis] at hcfg
    obtain ⟨hg, k, hk⟩ := hcov g i hcfg
    refine ⟨by rw [hcig]; exact hg, k, hk.of_kept fun c hc hr hcg => ?_⟩
    rcases hcen hc hr with hkept | hdrop
    · exact hkept
    · -- the CIG is still configured, so it was not removed
      have hgone := hcig g
      rw [hdrop, hg, hcg] at hgone
      have hn : ((s.dropCig g).cigConfig[g]?) = none := by
        show (s.cigConfig.erase g)[g]? = none
        rw [HashMap.getElem?_erase', if_pos rfl]
      rw [hn] at hgone
      cases hgone
  | removed g hs' =>
    subst hs'
    intro g' i hcfg
    obtain ⟨cfg, hcfg⟩ := Option.isSome_iff_exists.mp hcfg
    obtain ⟨hcfg, hne⟩ := HashMap.mem_retain_iff.mp hcfg
    have hne : g' ≠ g := of_decide_eq_true hne
    obtain ⟨hg, k, c, hc, hr, hcg, hci⟩ := hcov g' i (by rw [hcfg]; rfl)
    refine ⟨?_, k, c, (dropCig_getElem? _ _).mpr ⟨hc, Or.inr (by rw [hcg]; exact hne)⟩,
      hr, hcg, hci⟩
    show ((s.cigConfig.erase g)[g']?).isSome
    rw [HashMap.getElem?_erase', if_neg (Ne.symm hne)]
    exact hg
  | @configured _ g _ _ _ _ _ _ hconf =>
    refine (configureCises_induct (fun s => Covered s ∧ (s.cigConfig[g]?).isSome) ?_ ?_ hconf).1
    · intro s₁ s₂ h i cfg _ hs₁ hnew
      exact hs₁.1.configureOne hs₁.2 hnew
    · refine ⟨?_, ?_⟩
      · intro g' i hcfg
        obtain ⟨hg, k, hk⟩ := hcov g' i hcfg
        refine ⟨?_, k, hk⟩
        rw [HashMap.getElem?_insert']
        split
        · rfl
        · exact hg
      · rw [HashMap.getElem?_insert', if_pos rfl]
        rfl

end correspondence

/-- **The configured CISes and the Central entries match one to one** in every run in which no
LL_CIS_TERMINATE_IND matches a Central entry. -/
theorem run_corresponds {tr : List ((Env × Input) × List Output)} {s : IsoManager}
    (h : isoManager.Run (fun s i => s.keepsCentral i) new tr s) : Corresponds s := by
  have hs := run_coherent h
  have hcov : Covered s := by
    refine h.invariant Covered (fun g i hcfg => by cases hcfg) ?_
    rintro s ⟨env, input⟩ s' out hcov hkeep hstep
    exact hcov.step hkeep (effect_of_step hstep)
  refine ⟨?_, hs.configured⟩
  intro g i hcfg
  obtain ⟨hg, k, hk⟩ := hcov g i hcfg
  refine ⟨hg, k, hk, ?_⟩
  rintro k' ⟨c', hc', hr', hg', hi'⟩
  obtain ⟨c, hc, hr, hg, hi⟩ := hk
  exact hs.unique k' k c' c hc' hc hr' hr (hg'.trans hg.symm) (hi'.trans hi.symm)

theorem run_corresponds_after_disconnect :
    ∃ tr s, isoManager.Run (fun s i => s.keepsCentral i) new tr s ∧
      (s.cisConfig[((1 : UInt8), (2 : UInt8))]?).isSome ∧ Corresponds s := by
  refine isoManager.run_and [linkUp, configureCommand 1 [1, 2], configureCommand 2 [1],
    createCommand [0xe01], responseReceived, disconnectCommand 0xe01,
    (sampleEnv, .hci (.leRemoveCig ⟨2⟩))] (by decide +kernel)
    (by decide +kernel) fun tr s hrun _ => ?_
  exact run_corresponds hrun

/-- The peer terminates a connected CIS: its configuration stays, its Central entry is gone. -/
theorem terminated_leaves_configuration : ∃ tr s, isoManager.Run (fun _ _ => True) new tr s ∧
    (s.cisConfig[((1 : UInt8), (1 : UInt8))]?).isSome ∧ (∀ k, ¬ IsCentral s 1 1 k) ∧
    ¬ Corresponds s := by
  have hx : isoManager.ExecTo (fun _ s =>
      (s.cisConfig[((1 : UInt8), (1 : UInt8))]?).isSome = true ∧
      s.cisConnections.any (fun _ c => c.role == .central && c.cigId == 1 && c.cisId == 1) = false)
      new [linkUp, configureCommand 1 [1], createCommand [0xe00], responseReceived,
        terminationReceived 1 1] := by
    decide +kernel
  obtain ⟨tr, s, hrun, hcfg, hgone⟩ := isoManager.exists_free_run hx
  have hn : ∀ k, ¬ IsCentral s 1 1 k := by
    rintro k ⟨c, hc, hr, hg, hi⟩
    have hone := HashMap.any_eq_false.mp hgone k c hc
    rw [hr, hg, hi] at hone
    cases hone
  refine ⟨tr, s, hrun, hcfg, hn, ?_⟩
  intro hcor
  obtain ⟨-, k, hk, -⟩ := hcor.entry 1 1 hcfg
  exact hn k hk

end IsoManager

end RootCanal.Iso
