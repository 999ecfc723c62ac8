import RootCanal.Iso.Widths

/-!
# When an LE Create CIS runs to its end

The requests of a command are started one after the other, each when the one before has been
answered.  `Awaiting` is the state in between: one request waits for its answer, the others wait
in the queue.

* **`create_completes_iff`: in every reachable state, an accepted LE Create CIS whose requests
  the peer accepts runs to its end exactly when the configuration of every CIS it lists
  fits.**
* The commands check less than that: an SDU size of zero in both directions is accepted and makes
  NSE zero (`accepted_configuration_panics`).
-/

namespace RootCanal.Iso

open Lib RootCanal.Hci RootCanal.Llcp

namespace IsoManager

/-- The configuration of the CIS of a request fits. -/
def RequestConfigFits (s : IsoManager) (r : CisRequest) : Prop :=
  ∀ cig cis, s.cigConfig[r.cigId]? = some cig → s.cisConfig[(r.cigId, r.cisId)]? = some cis →
    ConfigFits cig cis

instance (s : IsoManager) (r : CisRequest) : Decidable (RequestConfigFits s r) :=
  decidable_of_iff (∀ cig ∈ s.cigConfig[r.cigId]?,
    ∀ cis ∈ s.cisConfig[(r.cigId, r.cisId)]?, ConfigFits cig cis)
    ⟨fun h cig cis hcig hcis => h cig hcig cis hcis, fun h cig hcig cis hcis => h cig cis hcig hcis⟩

/-- The request can be started: its CIS is a Central one with a valid configuration. -/
structure Ready (s : IsoManager) (r : CisRequest) : Prop where
  entry : ∃ c, s.cisConnections[r.cisConnectionHandle]? = some c ∧ c.role = .central
  config : ∃ cig cis, s.cigConfig[r.cigId]? = some cig ∧
    s.cisConfig[(r.cigId, r.cisId)]? = some cis ∧ cis.Valid
  handle : r.cisConnectionHandle.toNat < 2 ^ 12

/-- `r` waits for its answer and `rs` wait in the queue, and no other CIS waits for an answer on
their links. -/
structure Awaiting (s : IsoManager) (r : CisRequest) (rs : List CisRequest) (p : CisParameters) :
    Prop where
  queue : s.cisConnectionRequests = rs.reverse
  entry : ∃ c, s.cisConnections[r.cisConnectionHandle]? = some c ∧
    awaitsRsp r.aclConnectionHandle c = true ∧ c.parameters = some p
  only : ∀ r' ∈ r :: rs, ∀ (k : UInt16) c, s.cisConnections[k]? = some c →
    awaitsRsp r'.aclConnectionHandle c = true → k = r.cisConnectionHandle
  ready : ∀ r' ∈ rs, Ready s r'

/-- The peer accepts a request; `answer` gives the packet and the environment it is received
in. -/
def acceptance (answer : CisRequest → Env × CisRsp) (r : CisRequest) : Env × Input :=
  ((answer r).1, .llcp r.aclConnectionHandle (.cisRsp (answer r).2))

section procedure

variable {env : Env} {s s' : IsoManager} {answer : CisRequest → Env × CisRsp} {r : CisRequest}
  {rs : List CisRequest} {cig : CigConfig} {cis : CisConfig} {p : CisParameters}

/-- The requests stay ready while the tables they read stay. -/
theorem Ready.of_tables (hr : Ready s r) (hcig : s'.cigConfig = s.cigConfig)
    (hcis : s'.cisConfig = s.cisConfig)
    (hent : ∀ c, s.cisConnections[r.cisConnectionHandle]? = some c →
      ∃ c', s'.cisConnections[r.cisConnectionHandle]? = some c' ∧ c'.role = c.role) :
    Ready s' r := by
  obtain ⟨c, hc, hrl⟩ := hr.entry
  obtain ⟨c', hc', hrl'⟩ := hent c hc
  refine ⟨⟨c', hc', hrl'.trans hrl⟩, ?_, hr.handle⟩
  rw [hcig, hcis]
  exact hr.config

/-- Taking the next request when no CIS waits for an answer on the links of the queue. -/
theorem awaiting_of_deque {out} (hqu : s.cisConnectionRequests = (r :: rs).reverse)
    (hrdy : ∀ r' ∈ r :: rs, Ready s r')
    (hq : ∀ r' ∈ r :: rs, ∀ (k : UInt16) c, s.cisConnections[k]? = some c →
      awaitsRsp r'.aclConnectionHandle c = false) (hcig : s.cigConfig[r.cigId]? = some cig)
    (hcis : s.cisConfig[(r.cigId, r.cisId)]? = some cis)
    (hdq : s.dequeCisConnectionRequest env = .ok (s', out)) :
    ∃ p, Awaiting s' r rs p ∧ Computed cig cis p ∧ s'.cigConfig = s.cigConfig ∧
      s'.cisConfig = s.cisConfig := by
  rw [List.reverse_cons] at hqu
  have hstr : Started env s s' out := started_of_deque _ hdq
  cases hstr with
  | idle hemp =>
    rw [hemp] at hqu
    exact absurd hqu (by simp)
  | @sent _ _ _ _ p c hrs hcis₁ hcig₁ hp hc =>
    obtain ⟨rfl, hr⟩ := List.append_inj' (hqu.symm.trans hrs) rfl
    cases hr
    rw [hcis] at hcis₁
    rw [hcig] at hcig₁
    cases hcis₁
    cases hcig₁
    obtain ⟨c', hc', hrl⟩ := (hrdy r (List.mem_cons_self ..)).entry
    rw [hc] at hc'
    cases hc'
    refine ⟨p, ⟨?_, ?_, ?_, ?_⟩, new_computed hp, rfl, rfl⟩
    · rw [startRequest_requests, hqu, List.dropLast_concat]
    · refine ⟨requested r.aclConnectionHandle p c, ?_, ?_, rfl⟩
      · rw [startRequest_getElem?, if_pos rfl, hc]
        rfl
      · exact awaitsRsp_iff.mpr ⟨rfl, hrl, rfl⟩
    · intro r' hr' k c' hk haw
      rw [startRequest_getElem?] at hk
      split at hk
      · rename_i hkr
        exact hkr.symm
      · rw [hq r' hr' k c' hk] at haw
        cases haw
    · intro r' hr'
      refine (hrdy r' (List.mem_cons_of_mem _ hr')).of_tables rfl rfl ?_
      intro c₀ hc₀
      rw [startRequest_getElem?]
      split
      · rename_i hrr'
        rw [hrr', hc₀]
        exact ⟨_, rfl, rfl⟩
      · exact ⟨c₀, hc₀, rfl⟩

/-- Once the CIS in flight is connected, no CIS waits for an answer on the links of the
queue. -/
theorem Awaiting.connected (hs : Awaiting s r rs p) :
    let s₁ := s.modifyCis r.cisConnectionHandle fun c => { c with state := .connected }
    s₁.cisConnectionRequests = rs.reverse ∧ (∀ r' ∈ rs, Ready s₁ r') ∧
      ∀ r' ∈ rs, ∀ (k : UInt16) c, s₁.cisConnections[k]? = some c →
        awaitsRsp r'.aclConnectionHandle c = false := by
  refine ⟨hs.queue, ?_, ?_⟩
  · intro r' hr'
    refine (hs.ready r' hr').of_tables rfl rfl ?_
    intro c hc
    rw [modifyCis_getElem?]
    split
    · rename_i hrr'
      rw [hrr', hc]
      exact ⟨_, rfl, rfl⟩
    · exact ⟨c, hc, rfl⟩
  · intro r' hr' k c hk
    by_contra haw
    rw [Bool.not_eq_false] at haw
    rw [modifyCis_getElem?] at hk
    split at hk
    · obtain ⟨c₀, -, rfl⟩ := Option.map_eq_some_iff.mp hk
      cases (awaitsRsp_iff.mp haw).2.2
    · rename_i hne
      exact hne (hs.only r' (List.mem_cons_of_mem _ hr') k c hk haw).symm

/-- The answer to the request in flight is handled exactly when the CIS can be reported and the
next request taken. -/
theorem Awaiting.respond (hs : Awaiting s r rs p) (htrap : (answer r).1.overflowChecks = true)
    (hp : Computed cig cis p) (hfits : RequestFits cig cis)
    (hh : r.cisConnectionHandle.toNat < 2 ^ 12) {is} :
    Returns (isoManager.exec s (acceptance answer r :: is)) ↔ ReportFits cig ∧
      ∃ s' out, (s.modifyCis r.cisConnectionHandle fun c =>
          { c with state := .connected }).dequeCisConnectionRequest (answer r).1 = .ok (s', out) ∧
        Returns (isoManager.exec s' is) := by
  obtain ⟨c, hc, haw, hpar⟩ := hs.entry
  have hfd : s.getCisConnectionHandle (answer r).1 (awaitsRsp r.aclConnectionHandle) =
      some r.cisConnectionHandle := getCisConnectionHandle_unique hc haw
      (hs.only r (List.mem_cons_self ..))
  have hstep (s' : IsoManager) : (∃ out, isoManager.step s (acceptance answer r) = .ok (s', out)) ↔
      ReportFits cig ∧ ∃ out, (s.modifyCis r.cisConnectionHandle fun c =>
          { c with state := .connected }).dequeCisConnectionRequest (answer r).1 =
            .ok (s', out) := by
    have hrsp : (∃ out, isoManager.step s (acceptance answer r) = .ok (s', out)) ↔ _ :=
      llCisRsp_eq_ok (q := (answer r).2) hfd hc hpar
    rw [htrap, report_fits hp hfits hh] at hrsp
    exact hrsp
  rw [Machine.exec_cons_returns]
  constructor
  · rintro ⟨s', out, hs', hrs⟩
    obtain ⟨hrep, out', hdq⟩ := (hstep s').mp ⟨out, hs'⟩
    exact ⟨hrep, s', out', hdq, hrs⟩
  · rintro ⟨hrep, s', out, hdq, hrs⟩
    obtain ⟨out', hs'⟩ := (hstep s').mpr ⟨hrep, out, hdq⟩
    exact ⟨s', out', hs', hrs⟩

/-- The request at the head of the queue is taken and answered, and so on to the end, exactly
when the configurations of all requests fit. -/
theorem deque_completes_iff (htrap : ∀ r, (answer r).1.overflowChecks = true) :
    ∀ {rs : List CisRequest} {env : Env} {s : IsoManager},
      s.cisConnectionRequests = rs.reverse → (∀ r ∈ rs, Ready s r) →
      (∀ r ∈ rs, ∀ (k : UInt16) c, s.cisConnections[k]? = some c →
        awaitsRsp r.aclConnectionHandle c = false) →
      ((∃ s' out, s.dequeCisConnectionRequest env = .ok (s', out) ∧
          Returns (isoManager.exec s' (rs.map (acceptance answer)))) ↔
        ∀ r ∈ rs, RequestConfigFits s r) := by
  intro rs
  -- each answer takes the next request, so the induction is on the requests not yet taken
  induction rs with
  | nil =>
    intro env s hqu _ _
    refine iff_of_true ⟨s, [], ?_, _, rfl⟩ (by simp)
    unfold dequeCisConnectionRequest
    rw [hqu]
    rfl
  | cons r rs ih =>
    intro env s hqu hrdy hq
    have hr : Ready s r := hrdy r (List.mem_cons_self ..)
    obtain ⟨cig, cis, hcig, hcis, hval⟩ := hr.config
    have hfitsIff : RequestConfigFits s r ↔ ConfigFits cig cis := by
      constructor
      · intro h
        exact h cig cis hcig hcis
      · intro h cig' cis' hcig' hcis'
        rw [hcig] at hcig'
        rw [hcis] at hcis'
        cases hcig'
        cases hcis'
        exact h
    have hreturns : Returns (s.dequeCisConnectionRequest env) ↔ RequestFits cig cis := by
      obtain ⟨c, hc, -⟩ := hr.entry
      rw [List.reverse_cons] at hqu
      exact deque_returns_iff hqu hcig hcis hval (Option.isSome_iff_exists.mpr ⟨c, hc⟩)
    -- what the rest of the procedure needs, once the first request is taken
    have hrs {s' : IsoManager} {out : List Output} (hreq : RequestFits cig cis)
        (hdq : s.dequeCisConnectionRequest env = .ok (s', out)) :
        Returns (isoManager.exec s' ((r :: rs).map (acceptance answer))) ↔
          ReportFits cig ∧ ∀ r' ∈ rs, RequestConfigFits s r' := by
      obtain ⟨p, hawaiting, hp, hcig', hcis'⟩ := awaiting_of_deque hqu hrdy hq hcig hcis hdq
      obtain ⟨hqu₁, hrdy₁, hq₁⟩ := hawaiting.connected
      rw [List.map_cons, hawaiting.respond (htrap r) hp hreq hr.handle, ih hqu₁ hrdy₁ hq₁]
      unfold RequestConfigFits
      rw [modifyCis_cigConfig, modifyCis_cisConfig, hcig', hcis']
    rw [List.forall_mem_cons, hfitsIff]
    constructor
    · rintro ⟨s', out, hdq, hx⟩
      have hreq := hreturns.mp ⟨_, hdq⟩
      obtain ⟨hrep, hothers⟩ := (hrs hreq hdq).mp hx
      exact ⟨⟨hreq, hrep⟩, hothers⟩
    · rintro ⟨⟨hreq, hrep⟩, hothers⟩
      obtain ⟨⟨s', out⟩, hdq⟩ := hreturns.mpr hreq
      exact ⟨s', out, hdq, (hrs hreq hdq).mpr ⟨hrep, hothers⟩⟩

/-- The LE Create CIS command passes its checks with these requests. -/
structure Accepted (env : Env) (s : IsoManager) (packet : LeCreateCis) (rs : List CisRequest) :
    Prop where
  checked : s.checkCisRequests packet.cisConfig [] = .ok rs
  idle : s.cisConnectionRequests = []
  hostSupport : env.connectedIsochronousStreamHostSupport = true

theorem configFits_tagged {b : Bool} :
    ConfigFits { cig with configurable := b } cis ↔ ConfigFits cig cis := by
  constructor
  · rintro ⟨⟨h₁, h₂, h₃, h₄, h₅, h₆⟩, ⟨h₇, h₈, h₉⟩⟩
    exact ⟨⟨h₁, h₂, h₃, h₄, h₅, h₆⟩, ⟨h₇, h₈, h₉⟩⟩
  · rintro ⟨⟨h₁, h₂, h₃, h₄, h₅, h₆⟩, ⟨h₇, h₈, h₉⟩⟩
    exact ⟨⟨h₁, h₂, h₃, h₄, h₅, h₆⟩, ⟨h₇, h₈, h₉⟩⟩

instance (env : Env) (s : IsoManager) (packet : LeCreateCis) (rs : List CisRequest) :
    Decidable (Accepted env s packet rs) :=
  decidable_of_iff (s.checkCisRequests packet.cisConfig [] = .ok rs ∧
      s.cisConnectionRequests = [] ∧ env.connectedIsochronousStreamHostSupport = true)
    ⟨fun ⟨h₁, h₂, h₃⟩ => ⟨h₁, h₂, h₃⟩, fun ⟨h₁, h₂, h₃⟩ => ⟨h₁, h₂, h₃⟩⟩

/-- Tagging the CIGs changes nothing that the procedure computes with. -/
theorem requestConfigFits_tagged {cigs} (htag : tagNotConfigurable rs s.cigConfig = .ok cigs) :
    RequestConfigFits { s with cigConfig := cigs, cisConnectionRequests := rs.reverse } r ↔
      RequestConfigFits s r := by
  have hsame := tagNotConfigurable_ok htag r.cigId
  constructor
  · intro h cig cis hcig hcis
    rw [hcig] at hsame
    obtain ⟨cig', hcig', heq⟩ := Option.map_eq_some_iff.mp hsame
    have hfits := (configFits_tagged (b := false)).mpr (h cig' cis hcig' hcis)
    rw [heq] at hfits
    exact configFits_tagged.mp hfits
  · intro h cig cis hcig hcis
    rw [show cigs[r.cigId]? = some cig from hcig] at hsame
    obtain ⟨cig', hcig', heq⟩ := Option.map_eq_some_iff.mp hsame.symm
    have hfits := (configFits_tagged (b := false)).mpr (h cig' cis hcig' hcis)
    rw [heq] at hfits
    exact configFits_tagged.mp hfits

/-- An accepted LE Create CIS takes its first request. -/
theorem create_eq_ok {packet} (hacc : Accepted env s packet rs)
    {cigs} (htag : tagNotConfigurable rs s.cigConfig = .ok cigs) :
    (∃ out, isoManager.step s (env, .hci (.leCreateCis packet)) = .ok (s', out)) ↔
      ∃ out, dequeCisConnectionRequest env
        { s with cigConfig := cigs, cisConnectionRequests := rs.reverse } = .ok (s', out) := by
  show (∃ out, s.hciLeCreateCis env packet = .ok (s', out)) ↔ _
  unfold hciLeCreateCis
  rw [hacc.checked]
  dsimp only
  rw [if_neg (not_not.mpr hacc.idle), if_neg (not_not.mpr hacc.hostSupport)]
  constructor
  · rintro ⟨out, heq⟩
    obtain ⟨cigs', htag', heq⟩ := bind_eq_ok.mp heq
    obtain rfl : cigs = cigs' := Except.ok.inj (htag.symm.trans htag')
    obtain ⟨⟨s₁, started⟩, hdq, heq⟩ := bind_eq_ok.mp heq
    cases heq
    exact ⟨started, hdq⟩
  · rintro ⟨started, hdq⟩
    exact ⟨_, bind_eq_ok.mpr ⟨cigs, htag, bind_eq_ok.mpr ⟨_, hdq, bind_eq_ok.mpr ⟨_, rfl, rfl⟩⟩⟩⟩

/-- The requests of an accepted command can be started, in a reachable state. -/
theorem Accepted.ready {packet} (hacc : Accepted env s packet rs) (hs : Coherent s)
    (hval : ConfigsValid s) : ∀ r ∈ rs, Ready s r := by
  intro r hr
  obtain ⟨-, -, hall⟩ := checkCisRequests_ok hacc.checked List.nodup_nil (by simp)
  obtain ⟨c, hc, hst, hg, hi⟩ := (hall r hr).entry
  have hok := hs.entry _ c hc
  have hrl : c.role = .central := by
    cases hrl : c.role with
    | central => rfl
    | peripheral => exact absurd hst (hok.peripheral hrl)
  obtain ⟨hcig, hcis⟩ := hs.configured _ c hc hrl
  rw [hg] at hcig
  rw [hg, hi] at hcis
  obtain ⟨cig, hcig⟩ := Option.isSome_iff_exists.mp hcig
  obtain ⟨cis, hcis⟩ := Option.isSome_iff_exists.mp hcis
  refine ⟨⟨c, hc, hrl⟩, ⟨cig, cis, hcig, hcis, hval _ cis hcis⟩, ?_⟩
  have := hok.handle.2
  omega

end procedure

/-- **An accepted LE Create CIS whose requests the peer accepts is handled to its end exactly when
the configuration of every CIS it lists fits.** The state is any one that can be reached, with no
CIS waiting for an answer on the links of the command, so that the answers are to its requests.
The build traps arithmetic overflow. -/
theorem create_completes_iff {C : IsoManager → Env × Input → Prop}
    {tr : List ((Env × Input) × List Output)} {s : IsoManager} (hrun : isoManager.Run C new tr s)
    {env : Env} {packet : LeCreateCis} {rs : List CisRequest}
    (haccepted : Accepted env s packet rs)
    (hquiet : ∀ r ∈ rs, ∀ (k : UInt16) c, s.cisConnections[k]? = some c →
      awaitsRsp r.aclConnectionHandle c = false)
    {answer : CisRequest → Env × CisRsp} (htrap : ∀ r, (answer r).1.overflowChecks = true) :
    Returns (isoManager.exec s ((env, .hci (.leCreateCis packet)) :: rs.map (acceptance answer))) ↔
      ∀ r ∈ rs, RequestConfigFits s r := by
  have hrdy := haccepted.ready (run_coherent hrun) (run_configsValid hrun)
  obtain ⟨cigs, htag⟩ : ∃ cigs, tagNotConfigurable rs s.cigConfig = .ok cigs := by
    apply tagNotConfigurable_returns
    intro r hr
    obtain ⟨cig, -, hcig, -⟩ := (hrdy r hr).config
    rw [hcig]
    rfl
  let s₁ : IsoManager := { s with cigConfig := cigs, cisConnectionRequests := rs.reverse }
  have hrdy₁ : ∀ r ∈ rs, Ready s₁ r := by
    intro r hr
    obtain ⟨hent, ⟨cig, cis, hcig, hcis, hval⟩, hh⟩ := hrdy r hr
    have hsome : (cigs[r.cigId]?).isSome := by
      rw [tagNotConfigurable_isSome htag, hcig]
      rfl
    obtain ⟨cig', hcig'⟩ := Option.isSome_iff_exists.mp hsome
    exact ⟨hent, ⟨cig', cis, hcig', hcis, hval⟩, hh⟩
  have hiff : (∃ s' out, s₁.dequeCisConnectionRequest env = .ok (s', out) ∧
      Returns (isoManager.exec s' (rs.map (acceptance answer)))) ↔
      ∀ r ∈ rs, RequestConfigFits s₁ r :=
    deque_completes_iff htrap rfl hrdy₁ hquiet
  have hfits : (∀ r ∈ rs, RequestConfigFits s₁ r) ↔ ∀ r ∈ rs, RequestConfigFits s r :=
    forall₂_congr fun r _ => requestConfigFits_tagged htag
  rw [Machine.exec_cons_returns, ← hfits, ← hiff]
  constructor
  · rintro ⟨s', out, hstep, hrs⟩
    obtain ⟨out', hdq⟩ := (create_eq_ok haccepted htag).mp ⟨out, hstep⟩
    exact ⟨s', out', hdq, hrs⟩
  · rintro ⟨s', out, hdq, hrs⟩
    obtain ⟨out', hstep⟩ := (create_eq_ok haccepted htag).mpr ⟨out, hdq⟩
    exact ⟨s', out', hstep, hrs⟩

/-- The requests of a command that lists two CISes of one CIG. -/
def sampleRequests : List CisRequest := [⟨1, 1, 0x40, 0xe00⟩, ⟨1, 2, 0x40, 0xe01⟩]

/-- The peer accepts with the packet the source itself sends. -/
def sampleAnswer (_ : CisRequest) : Env × CisRsp := (sampleEnv, ⟨0, 0xffffff, 0⟩)

/-- SDUs of 100 octets every 10 ms, in two CISes. -/
theorem create_completes_two_cises : ∃ tr s, isoManager.Run (fun _ _ => True) new tr s ∧
    Accepted sampleEnv s ⟨[⟨0xe00, 0x40⟩, ⟨0xe01, 0x40⟩]⟩ sampleRequests ∧
    Returns
      (isoManager.exec s
      (createCommand [0xe00, 0xe01] :: sampleRequests.map (acceptance sampleAnswer))) := by
  have hx : isoManager.ExecTo (fun _ s =>
      Accepted sampleEnv s ⟨[⟨0xe00, 0x40⟩, ⟨0xe01, 0x40⟩]⟩ sampleRequests ∧
      (s.cisConnections.any fun _ c => awaitsRsp 0x40 c) = false ∧
      ∀ r ∈ sampleRequests, RequestConfigFits s r) new [linkUp, configureCommand 1 [1, 2]] := by
    decide +kernel
  obtain ⟨tr, s, hrun, hacc, hq, hfits⟩ := isoManager.exists_free_run hx
  have hlinks : ∀ r ∈ sampleRequests, r.aclConnectionHandle = 0x40 := by decide
  refine ⟨tr, s, hrun, hacc, (create_completes_iff hrun hacc ?_ fun _ => rfl).mpr hfits⟩
  intro r hr k c hk
  rw [hlinks r hr]
  exact HashMap.any_eq_false.mp hq k c hk

/-- Configure one CIS with SDUs of `maxSdu` octets every 10 ms in both directions. -/
def configureSdu (maxSdu : UInt16) : Env × Input :=
  (sampleEnv, .hci (.leSetCigParameters (sampleCig 1 [⟨1, maxSdu, maxSdu, 1, 1⟩])))

/-- The host's view of the failure: the CIG is configured with success, an LE Create CIS of its
CIS passes every check, and handling it panics. -/
def ConfiguredThenPanics (maxSdu : UInt16) (e : Panic) : Prop :=
  isoManager.ExecTo (fun tr s =>
    tr.map Prod.snd = [[], [.hci (.leSetCigParametersComplete ⟨.success, 1, [0xe00], 1⟩)]] ∧
      Accepted sampleEnv s ⟨[⟨0xe00, 0x40⟩]⟩ [⟨1, 1, 0x40, 0xe00⟩] ∧
      isoManager.step s (createCommand [0xe00]) = .error e) new [linkUp, configureSdu maxSdu]

/-- A CIG without data is accepted, and creating its CIS divides by zero. A CIG with the largest
SDUs is accepted, and its burst number does not fit LL_CIS_REQ. -/
theorem accepted_configuration_panics :
    ConfiguredThenPanics 0 .divideByZero ∧ ConfiguredThenPanics 0xfff .encode := by
  unfold ConfiguredThenPanics
  decide +kernel

end IsoManager

end RootCanal.Iso
