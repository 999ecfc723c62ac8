import RootCanal.Iso.Lifecycle

/-!
# The queue of CIS requests

LE Create CIS fills a queue of requests and starts the first; each answer of the peer starts
the next.  A request names its CIS by handle and by identifiers, and the tables it points into
are changed by other handlers in the meantime.

* `keepsQueued` is the condition under which the queue stays sound: an accepted LE Remove CIG
  does not hit a queued request, nor does an LL_CIS_TERMINATE_IND.  `QueueOk` is the invariant
  it preserves (`QueueOk.step`, `run_queueOk`): a queued request finds a Central CIS in
  configuration with its identifiers, and no two requests name one handle.
* `keepsInFlight` is the condition under which a request in flight is not ended without
  starting the next.

Both conditions read only the input and the state before it.  The runs that break them, and with
them the queue, stand beside each result.
-/

namespace RootCanal.Iso

open Lib RootCanal.Hci RootCanal.Llcp

namespace IsoManager

/-! ## The queue invariant -/

/-- The request finds a Central CIS in configuration with its identifiers. -/
def Queued (s : IsoManager) (r : CisRequest) : Prop :=
  ∃ c, s.cisConnections[r.cisConnectionHandle]? = some c ∧ c.role = .central ∧
    c.state = .configuration ∧ c.cigId = r.cigId ∧ c.cisId = r.cisId

/-- The queue is sound. -/
structure QueueOk (s : IsoManager) : Prop where
  queued : ∀ r ∈ s.cisConnectionRequests, Queued s r
  nodup : (s.cisConnectionRequests.map CisRequest.cisConnectionHandle).Nodup

/-- The input does not take away what a queued request points to: neither by the removal of its
CIG nor by the termination of its CIS. -/
def keepsQueued (s : IsoManager) : Env × Input → Bool
  | (_, .hci (.leRemoveCig p)) =>
    !s.cigConfig.contains p.cigId || s.cigActive p.cigId ||
      s.cisConnectionRequests.all fun r => r.cigId != p.cigId
  | (_, .llcp a (.cisTerminateInd q)) =>
    s.cisConnectionRequests.all fun r =>
      !(s.cisConnections[r.cisConnectionHandle]?).any (terminates a q)
  | _ => true

section queue

variable {env : Env} {s s' : IsoManager} {out : List Output} {input : Input} {r : CisRequest}
  {h k : UInt16} {c c' : Cis}

/-- Entries that differ in role or state have different handles. -/
theorem handle_ne (hc : s.cisConnections[h]? = some c) (hc' : s.cisConnections[k]? = some c')
    (hne : c.role ≠ c'.role ∨ c.state ≠ c'.state) : h ≠ k := by
  rintro rfl
  rw [hc] at hc'
  cases hc'
  exact hne.elim (fun h => h rfl) fun h => h rfl

/-- A request stays queued where its entry is kept. -/
theorem Queued.of_eq (hr : Queued s r)
    (heq : s'.cisConnections[r.cisConnectionHandle]? = s.cisConnections[r.cisConnectionHandle]?) :
    Queued s' r := by
  obtain ⟨c, hc, hrs⟩ := hr
  exact ⟨c, heq.trans hc, hrs⟩

/-- Changing an entry that is not a Central one in configuration leaves the request queued. -/
theorem Queued.modifyCis {f} (hr : Queued s r) (hc : s.cisConnections[h]? = some c)
    (hne : c.role ≠ .central ∨ c.state ≠ .configuration) : Queued (s.modifyCis h f) r := by
  obtain ⟨c₀, hc₀, hrl, hst, -⟩ := id hr
  refine hr.of_eq ?_
  have : h ≠ r.cisConnectionHandle := handle_ne hc hc₀ (by rw [hrl, hst]; exact hne)
  rw [modifyCis_getElem?, if_neg this]

/-- The answer to a request changes no entry that is queued. -/
theorem QueueOk.answered {a f} (hq : QueueOk s) (hc : s.cisConnections[h]? = some c)
    (haw : awaitsRsp a c = true) : QueueOk (s.modifyCis h f) := by
  obtain ⟨-, -, hst⟩ := awaitsRsp_iff.mp haw
  refine ⟨fun r hr => (hq.queued r hr).modifyCis hc (Or.inr ?_), hq.nodup⟩
  rw [hst]
  decide

/-- Taking the next request keeps the queue sound: the others name other handles. -/
theorem Started.queueOk (hstr : Started env s s' out) (hq : QueueOk s) : QueueOk s' := by
  cases hstr with
  | idle => exact hq
  | @sent r rs _ _ p _ hrs =>
    have hsub : (s.startRequest r p).cisConnectionRequests = rs := by
      rw [startRequest_requests, hrs, List.dropLast_concat]
    have hnd := hq.nodup
    rw [hrs, List.map_append, List.nodup_append] at hnd
    obtain ⟨hnd, -, hdisj⟩ := hnd
    refine ⟨?_, by rwa [hsub]⟩
    intro r' hr'
    rw [hsub] at hr'
    have hne : r.cisConnectionHandle ≠ r'.cisConnectionHandle := by
      intro heq
      exact hdisj _ (List.mem_map_of_mem hr') _ (List.mem_singleton_self _) heq.symm
    have hqd : Queued s r' := hq.queued r' (by rw [hrs]; exact List.mem_append_left _ hr')
    refine hqd.of_eq ?_
    rw [startRequest_getElem?, if_neg hne]

/-- The requests of an accepted LE Create CIS form a sound queue. -/
theorem queueOk_of_check {p : LeCreateCis} {rs : List CisRequest} (hs : Coherent s)
    (hchk : s.checkCisRequests p.cisConfig [] = .ok rs) (cigs : HashMap UInt8 CigConfig) :
    QueueOk { s with cigConfig := cigs, cisConnectionRequests := rs.reverse } := by
  obtain ⟨-, hnd, hreq⟩ := checkCisRequests_ok hchk List.nodup_nil nofun
  refine ⟨?_, ?_⟩
  · intro r hr
    obtain ⟨c, hc, hst, hcig, hcis⟩ := (hreq r (List.mem_reverse.mp hr)).entry
    refine ⟨c, hc, ?_, hst, hcig, hcis⟩
    -- a CIS in configuration is a Central one
    cases hrl : c.role with
    | central => rfl
    | peripheral => exact absurd hst ((hs.entry _ c hc).peripheral hrl)
  · rw [List.map_reverse, List.nodup_reverse]
    exact hnd

/-- The queue is sound up to the start of the next request. -/
theorem QueueOk.passed {s₁ next} (hq : QueueOk s) (hs : Coherent s)
    (hsafe : s.keepsQueued (env, input) = true) (hp : Passed s input next s₁) : QueueOk s₁ := by
  have keep : ∀ r, (next = false → r ∈ s.cisConnectionRequests) → Queued s r → Queued s₁ r := by
    rintro r hmem ⟨c, hc, hr, hst, hcig, hcis⟩
    have hfate := hp.entry r.cisConnectionHandle
    rw [hc] at hfate
    rcases hfate.central hr
      with ⟨c', hc', hsame, hstay⟩ | ⟨hnext, ⟨p, rfl, -, hkn, hact, hg⟩ | ⟨a, q, rfl, hterm⟩⟩
    · exact ⟨c', hc', hsame.role.trans hr, hstay hst, hsame.cig.trans hcig, hsame.cis.trans hcis⟩
    · simp only [keepsQueued, Std.ExtTreeMap.contains_eq_isSome_getElem?, hkn, hact,
        Bool.not_true, Bool.false_or, List.all_eq_true] at hsafe
      have hne := hsafe r (hmem hnext)
      simp [← hcig, hg] at hne
    · have hkeep := List.all_eq_true.mp hsafe r (hmem hnext)
      simp [hc, hterm] at hkeep
  rcases hp.queue with ⟨hsub, -⟩ | ⟨p, rs, hnext, -, hchk, hrs⟩
  · exact ⟨fun r hr => keep r (fun _ => hsub.subset hr) (hq.queued r (hsub.subset hr)),
      hq.nodup.sublist (hsub.map _)⟩
  · have hnew := queueOk_of_check hs hchk s.cigConfig
    refine ⟨fun r hr => keep r (fun hf => by cases hnext.symm.trans hf)
      (hnew.queued r (hrs ▸ hr)), ?_⟩
    rw [hrs]
    exact hnew.nodup

/-- **One step keeps the queue sound** when its input keeps what the requests point to. -/
theorem QueueOk.step (hq : QueueOk s) (hs : Coherent s)
    (hsafe : s.keepsQueued (env, input) = true) (he : Effect env s input s' out) :
    QueueOk s' := by
  rcases he.passed with hp | ⟨s₁, _, hp, -, hstr⟩
  · exact hq.passed hs hsafe hp
  · exact hstr.queueOk (hq.passed hs hsafe hp)

end queue

theorem queueOk_new : QueueOk new := ⟨nofun, List.nodup_nil⟩

/-- **In every run whose inputs keep what the requests point to, the queue is sound.** -/
theorem run_queueOk {tr s} (h : isoManager.Run (fun s i => s.keepsQueued i) new tr s) :
    Coherent s ∧ QueueOk s := by
  refine h.invariant (fun s => Coherent s ∧ QueueOk s) ⟨coherent_new, queueOk_new⟩ ?_
  rintro s ⟨env, input⟩ s' out ⟨hs, hq⟩ hsafe hstep
  have he := effect_of_step hstep
  exact ⟨hs.step he, hq.step hs hsafe he⟩

/-! ## Lookups -/

/-- Every queued request refers to a CIS connection and to a pair of identifiers whose CIG and
CIS are configured. -/
def QueueResolves (s : IsoManager) : Prop :=
  ∀ r ∈ s.cisConnectionRequests, (s.cisConnections[r.cisConnectionHandle]?).isSome ∧
    (s.cigConfig[r.cigId]?).isSome ∧ (s.cisConfig[(r.cigId, r.cisId)]?).isSome

instance (s : IsoManager) : Decidable (QueueResolves s) :=
  inferInstanceAs (Decidable (∀ r ∈ s.cisConnectionRequests, _))

/-- The input is one whose handler takes the next request from the queue. -/
def takesNext : Input → Bool
  | .hci (.leCreateCis _) | .llcp _ (.cisRsp _) | .llcp _ (.rejectExtInd _) => true
  | _ => false

section lookups

variable {env : Env} {s : IsoManager}

/-- A queue that is in order resolves. -/
theorem QueueOk.resolves (hq : QueueOk s) (hs : Coherent s) : QueueResolves s := by
  intro r hr
  obtain ⟨c, hc, hrl, -, hcig, hcis⟩ := hq.queued r hr
  have hconf := hs.configured _ c hc hrl
  rw [hcig, hcis] at hconf
  exact ⟨by rw [hc]; rfl, hconf⟩

theorem burstNumber_lookups {maxSdu} : LookupsFound (burstNumber maxSdu) := by
  unfold burstNumber
  simp only
  split <;> nofun

theorem orElse_lookups {α : Type} {o : Option α} {x : Except Panic α} (hx : LookupsFound x) :
    LookupsFound (orElse o x) := by
  cases o with
  | none => exact hx
  | some a => exact LookupsFound.ok a

theorem selectPhy_lookups {phys} : LookupsFound (selectPhy phys) := by
  unfold selectPhy
  split_ifs <;> nofun

theorem phyType_lookups {phy} : LookupsFound (phyType phy) := by
  unfold phyType
  split_ifs <;> nofun

theorem parameters_lookups {chk : Bool} {cig : CigConfig} {cis : CisConfig} :
    LookupsFound (CisParameters.new chk cig cis) := by
  refine (orElse_lookups burstNumber_lookups).bind fun _ _ => ?_
  refine (orElse_lookups burstNumber_lookups).bind fun _ _ => ?_
  refine Checked.mul_lookups.bind fun _ _ => ?_
  refine Checked.div_lookups.bind fun _ _ => ?_
  refine selectPhy_lookups.bind fun _ _ => ?_
  exact selectPhy_lookups.bind fun _ _ => LookupsFound.ok _

theorem transportLatency_lookups {chk : Bool} {delay interval ft sdu} {framed : Bool} :
    LookupsFound (transportLatency chk delay interval ft sdu framed) := by
  refine Checked.mul_lookups.bind fun _ _ => ?_
  refine Checked.mul_lookups.bind fun _ _ => ?_
  refine Checked.add_lookups.bind fun _ _ => ?_
  split
  · exact Checked.add_lookups
  · exact Checked.sub_lookups

theorem establishedCentral_lookups {chk : Bool} {h p} :
    LookupsFound (establishedCentral chk h p) := by
  refine LookupsFound.bind transportLatency_lookups fun _ _ => ?_
  refine LookupsFound.bind transportLatency_lookups fun _ _ => ?_
  refine phyType_lookups.bind fun _ _ => ?_
  exact phyType_lookups.bind fun _ _ => LookupsFound.ok _

theorem sendHciEvent_lookups {e} : LookupsFound (sendHciEvent e) := by
  unfold sendHciEvent
  split <;> nofun

theorem sendLlcpPacket_lookups {a p} : LookupsFound (sendLlcpPacket a p) := by
  unfold sendLlcpPacket
  split <;> nofun

theorem reply_lookups {e} : LookupsFound (reply s e) :=
  sendHciEvent_lookups.bind fun _ _ => LookupsFound.ok _

/-- Taking the next request finds what it looks up when the queue resolves. -/
theorem QueueResolves.deque (hq : QueueResolves s) :
    LookupsFound (s.dequeCisConnectionRequest env) := by
  unfold dequeCisConnectionRequest
  split
  · exact LookupsFound.ok _
  · rename_i r hlast
    obtain ⟨hent, hcig, hcis⟩ := hq r (List.mem_of_getLast? hlast)
    refine (LookupsFound.unwrap hcis).bind fun _ _ => ?_
    refine (LookupsFound.unwrap hcig).bind fun _ _ => ?_
    refine parameters_lookups.bind fun _ _ => ?_
    refine sendLlcpPacket_lookups.bind fun _ _ => ?_
    exact (LookupsFound.unwrap hent).bind fun _ _ => LookupsFound.ok _

/-- The queue resolves as well once one entry has changed. -/
theorem QueueResolves.modifyCis {h f} (hq : QueueResolves s) : QueueResolves (s.modifyCis h f) := by
  intro r hr
  obtain ⟨hent, hcig, hcis⟩ := hq r hr
  refine ⟨?_, hcig, hcis⟩
  rw [modifyCis_getElem?]
  split
  · rename_i hh
    rw [Option.isSome_map, hh]
    exact hent
  · exact hent

/-- LE Create CIS finds what it looks up. -/
theorem hciLeCreateCis_lookups {p : LeCreateCis} (hs : Coherent s) :
    LookupsFound (s.hciLeCreateCis env p) := by
  unfold hciLeCreateCis
  split
  · exact reply_lookups
  rename_i rs hchk
  split
  · exact reply_lookups
  split
  · exact reply_lookups
  have hrsv := (queueOk_of_check hs hchk s.cigConfig).resolves ⟨hs.entry, hs.configured, hs.unique⟩
  obtain ⟨cigs, hcigs⟩ := tagNotConfigurable_returns fun r hr =>
    (hrsv r (List.mem_reverse.mpr hr)).2.1
  rw [hcigs]
  refine LookupsFound.bind (x := .ok cigs) (LookupsFound.ok _) ?_
  rintro _ ⟨⟩
  refine LookupsFound.bind (QueueResolves.deque ?_) fun _ _ =>
    sendHciEvent_lookups.bind fun _ _ => LookupsFound.ok _
  intro r hr
  obtain ⟨hent, hcig, hcis⟩ := hrsv r hr
  exact ⟨hent, by rw [tagNotConfigurable_isSome hcigs]; exact hcig, hcis⟩

/-- A response finds what it looks up. -/
theorem llCisRsp_lookups {a q} (hs : Coherent s) (hq : QueueResolves s) :
    LookupsFound (s.llCisRsp env a q) := by
  unfold llCisRsp
  split
  · exact LookupsFound.ok _
  rename_i h hsome
  obtain ⟨c, hc, haw⟩ := getCisConnectionHandle_some hsome
  obtain ⟨-, -, hst⟩ := awaitsRsp_iff.mp haw
  have hpar : c.parameters.isSome := (hs.entry h c hc).parameters (by rw [hst]; decide)
  have hent : (s.modifyCis h fun cis => { cis with state := .connected }).cisConnections[h]? =
      some { c with state := .connected } := by
    rw [modifyCis_getElem?, if_pos rfl, hc]
    rfl
  simp only
  rw [hent]
  refine LookupsFound.bind (LookupsFound.unwrap rfl) ?_
  rintro _ ⟨⟩
  refine (LookupsFound.unwrap hpar).bind fun _ _ => ?_
  refine sendLlcpPacket_lookups.bind fun _ _ => ?_
  refine establishedCentral_lookups.bind fun _ _ => ?_
  refine sendHciEvent_lookups.bind fun _ _ => ?_
  exact hq.modifyCis.deque.bind fun _ _ => LookupsFound.ok _

/-- A rejection finds what it looks up. -/
theorem llRejectExtInd_lookups {a q} (hq : QueueResolves s) :
    LookupsFound (s.llRejectExtInd env a q) := by
  unfold llRejectExtInd
  split
  · exact LookupsFound.ok _
  split
  · exact LookupsFound.ok _
  rename_i h hsome
  obtain ⟨c, hc, -⟩ := getCisConnectionHandle_some hsome
  refine (LookupsFound.unwrap (by rw [hc]; rfl)).bind fun _ _ => ?_
  refine sendHciEvent_lookups.bind fun _ _ => ?_
  exact hq.modifyCis.deque.bind fun _ _ => LookupsFound.ok _

/-- No handler that takes the next request fails a lookup. -/
theorem takesNext_lookups {input} (hs : Coherent s) (hq : QueueResolves s)
    (hinput : takesNext input = true) : LookupsFound (isoManager.step s (env, input)) := by
  unfold takesNext at hinput
  split at hinput
  · exact hciLeCreateCis_lookups hs
  · rename_i a q
    exact llCisRsp_lookups (q := q) hs hq
  · exact llRejectExtInd_lookups hq
  · cases hinput

end lookups

/-- **Every request in the queue resolves, and taking the next one never fails a lookup**, in
every state of a run whose inputs keep what the requests point to: by itself, and in each of the
handlers that do so. -/
theorem queued_requests_resolve {tr : List ((Env × Input) × List Output)} {s : IsoManager}
    (h : isoManager.Run (fun s i => s.keepsQueued i) new tr s) :
    QueueResolves s ∧ (∀ env, LookupsFound (s.dequeCisConnectionRequest env)) ∧
      ∀ env input, takesNext input = true → LookupsFound (isoManager.step s (env, input)) := by
  obtain ⟨hs, hq⟩ := run_queueOk h
  have hrsv := hq.resolves hs
  refine ⟨hrsv, fun env => hrsv.deque, ?_⟩
  intro env input hinput
  exact takesNext_lookups hs hrsv hinput

/-! ## Histories to run -/

/-- A build that traps overflow, whose controller supports connected isochronous streams and
visits its connections in the order of their handles. -/
def sampleEnv : Env where
  leFeatures := LLFeaturesBits.connectedIsochronousStreamHostSupport
  advertiserInfo _ := none
  order := IterOrder.id UInt16
  overflowChecks := true
  lcm a b := some (UInt32.ofNat (Nat.lcm a.toNat b.toNat))

/-- Configure CISes for an SDU every 10 ms in both directions. -/
def sampleCig (g : UInt8) (cises : List CisParametersConfig) : LeSetCigParameters where
  cigId := g
  sduIntervalCToP := 10000
  sduIntervalPToC := 10000
  framing := .disabled
  maxTransportLatencyCToP := 40
  maxTransportLatencyPToC := 40
  cisConfig := cises

/-- Configure CISes with SDUs of 100 octets in both directions. -/
def configureCommand (g : UInt8) (ids : List UInt8) : Env × Input :=
  (sampleEnv, .hci (.leSetCigParameters (sampleCig g (ids.map fun i => ⟨i, 100, 100, 1, 1⟩))))

/-- Create CISes on the link `0x40`. -/
def createCommand (handles : List UInt16) : Env × Input :=
  (sampleEnv, .hci (.leCreateCis ⟨handles.map fun h => ⟨h, 0x40⟩⟩))

/-- The link `0x40` comes up, with this side as Central. -/
def linkUp : Env × Input := (sampleEnv, .addAclConnection 0x40 .central)

/-- The peer accepts the CIS that is being requested. -/
def responseReceived : Env × Input := (sampleEnv, .llcp 0x40 (.cisRsp ⟨0, 0xffffff, 0⟩))

/-- The host disconnects a CIS. -/
def disconnectCommand (h : UInt16) : Env × Input := (sampleEnv, .hci (.disconnect ⟨h, 0x13⟩))

/-- The peer terminates a CIS. -/
def terminationReceived (g i : UInt8) : Env × Input :=
  (sampleEnv, .llcp 0x40 (.cisTerminateInd ⟨g, i, 0x13⟩))

/-- Two CISes are requested, the second still queued when another CIG is removed. -/
def removeOtherCig : List (Env × Input) :=
  [linkUp, configureCommand 1 [1, 2], configureCommand 2 [1], createCommand [0xe00, 0xe01],
    (sampleEnv, .hci (.leRemoveCig ⟨2⟩))]

theorem queued_requests_resolve_removeOtherCig : ∃ tr s,
    isoManager.Run (fun s i => s.keepsQueued i) new tr s ∧ s.cisConnectionRequests ≠ [] ∧
      QueueResolves s ∧ ∀ env, LookupsFound (s.dequeCisConnectionRequest env) := by
  refine isoManager.run_and removeOtherCig (by decide +kernel) (by decide +kernel)
    fun tr s hrun _ => ?_
  obtain ⟨hrsv, hdq, -⟩ := queued_requests_resolve hrun
  exact ⟨hrsv, hdq⟩

/-- Two CISes of two CIGs are requested, and the CIG of the second, which is still queued and so
in configuration, is removed. -/
def removeQueuedCig : List (Env × Input) :=
  [linkUp, configureCommand 1 [1], configureCommand 2 [1], createCommand [0xe00, 0xe01],
    (sampleEnv, .hci (.leRemoveCig ⟨2⟩))]

/-- The queued request dangles, and the answer to the first request ends in a failed lookup. -/
theorem queued_request_dangles : ∃ tr s, isoManager.Run (fun _ _ => True) new tr s ∧
    ¬ QueueResolves s ∧ ¬ LookupsFound (isoManager.step s responseReceived) := by
  have hx : isoManager.ExecTo (fun _ s => ¬ QueueResolves s ∧
      isoManager.step s responseReceived = .error .unwrapNone) new removeQueuedCig := by
    decide +kernel
  obtain ⟨tr, s, hrun, hqu, hstep⟩ := isoManager.exists_free_run hx
  exact ⟨tr, s, hrun, hqu, fun hfd => hfd hstep⟩

/-! ## A queued request waits for one in flight -/

/-- Some CIS waits for the answer to its request. -/
def inFlight (s : IsoManager) : Bool := s.cisConnections.any fun _ c => c.state == .pendingRsp

theorem inFlight_eq_false {s : IsoManager} : s.inFlight = false ↔
    ∀ (k : UInt16) c, s.cisConnections[k]? = some c → c.state ≠ .pendingRsp := by
  unfold inFlight
  rw [HashMap.any_eq_false]
  simp

theorem inFlight_iff {s : IsoManager} : s.inFlight = true ↔
    ∃ (k : UInt16) (c : Cis), s.cisConnections[k]? = some c ∧ c.state = .pendingRsp := by
  rw [← Bool.not_eq_false, inFlight_eq_false]
  push Not
  rfl

/-- A request waits in the queue only while another is in flight. -/
def QueueServed (s : IsoManager) : Prop := s.cisConnectionRequests ≠ [] → s.inFlight = true

/-- While requests wait in the queue, the input does not end the CIS in flight by a disconnection,
a termination or the loss of its link: these start no other request. Requests on the lost link
itself do not count, as they end with it. -/
def keepsInFlight (s : IsoManager) : Env × Input → Bool
  | (_, .hci (.disconnect p)) =>
    s.cisConnectionRequests.isEmpty ||
      !(s.cisConnections[p.connectionHandle]?).any fun c => c.state == .pendingRsp
  | (_, .llcp a (.cisTerminateInd q)) =>
    s.cisConnectionRequests.isEmpty ||
      !s.cisConnections.any fun _ c => terminates a q c && c.state == .pendingRsp
  | (_, .removeAclConnection a _) =>
    s.cisConnectionRequests.all (fun r => r.aclConnectionHandle == a) ||
      !s.cisConnections.any fun _ c => c.aclConnectionHandle == some a && c.state == .pendingRsp
  | _ => true

section served

variable {env : Env} {s s' : IsoManager} {out : List Output} {input : Input}

/-- Taking the next request leaves the queue empty, or puts one in flight. -/
theorem Started.served (hstr : Started env s s' out) : QueueServed s' := by
  intro hqu
  cases hstr with
  | idle hemp => exact absurd hemp hqu
  | @sent r _ _ _ p c _ _ _ _ hc =>
    refine inFlight_iff.mpr ⟨r.cisConnectionHandle, requested r.aclConnectionHandle p c, ?_, rfl⟩
    rw [startRequest_getElem?, if_pos rfl, hc]
    rfl

/-- **One step keeps the queue served** when its input keeps the CIS in flight. -/
theorem QueueServed.step (hq : QueueServed s) (hkeep : s.keepsInFlight (env, input) = true)
    (he : Effect env s input s' out) : QueueServed s' := by
  rcases he.passed with hp | ⟨s₁, _, -, -, hstr⟩
  · intro hleft
    rcases hp.queue with ⟨hsub, hoth⟩ | ⟨_, _, hnext, -⟩
    · have hqu : s.cisConnectionRequests ≠ [] := fun hnil =>
          hleft (List.sublist_nil.mp (hnil ▸ hsub))
      obtain ⟨k, c, hc, hst⟩ := inFlight_iff.mp (hq hqu)
      have hfate := hp.entry k
      rw [hc] at hfate
      generalize ho : s'.cisConnections[k]? = o at hfate
      cases hfate with
      | same => exact inFlight_iff.mpr ⟨k, c, ho, hst⟩
      | dataPath => exact inFlight_iff.mpr ⟨k, _, ho, hst⟩
      | accepted _ _ hst' | rejected _ hst' | removedCig _ _ _ _ _ _ hst' =>
        cases hst.symm.trans hst'
      | confirmed _ _ haw =>
        obtain ⟨-, -, hst'⟩ := awaitsInd_iff.mp haw
        cases hst.symm.trans hst'
      | disconnected hin hk =>
        subst hin
        simp [keepsInFlight, hk, hc, hst, hqu] at hkeep
      | @unlinked a reason _ _ hin ha =>
        subst hin
        simp only [keepsInFlight, Bool.or_eq_true, Bool.not_eq_true'] at hkeep
        rcases hkeep with hall | hidle
        · obtain ⟨r, hr⟩ := List.exists_mem_of_ne_nil _ hleft
          have hra := List.all_eq_true.mp hall r (hsub.subset hr)
          exact absurd (by rw [beq_iff_eq.mp hra]) (hoth r hr reason)
        · have hone := HashMap.any_eq_false.mp hidle k c hc
          simp [ha, hst] at hone
      | terminated hin hterm =>
        subst hin
        simp only [keepsInFlight, Bool.or_eq_true, List.isEmpty_iff, Bool.not_eq_true'] at hkeep
        have hone := HashMap.any_eq_false.mp (hkeep.resolve_left hqu) k c hc
        simp [hterm, hst] at hone
    · cases hnext
  · exact hstr.served

end served

/-- **A request waits in the queue only while another is in flight**, in every state of a run
whose inputs do not end the CIS in flight under waiting requests. -/
theorem queue_waits_for_one_in_flight {tr : List ((Env × Input) × List Output)}
    {s : IsoManager} (h : isoManager.Run (fun s i => s.keepsInFlight i) new tr s)
    (hqueue : s.cisConnectionRequests ≠ []) :
    ∃ (k : UInt16) (c : Cis), s.cisConnections[k]? = some c ∧ c.state = .pendingRsp := by
  refine inFlight_iff.mp (h.invariant QueueServed (fun hne => absurd rfl hne) ?_ hqueue)
  rintro s ⟨env, input⟩ s' out hs hkeep hstep
  exact hs.step hkeep (effect_of_step hstep)

theorem queue_waits_after_response : ∃ tr s,
    isoManager.Run (fun s i => s.keepsInFlight i) new tr s ∧ s.cisConnectionRequests ≠ [] ∧
      ∃ (k : UInt16) (c : Cis), s.cisConnections[k]? = some c ∧ c.state = .pendingRsp := by
  refine isoManager.run_and
    [linkUp, configureCommand 1 [1, 2, 3], createCommand [0xe00, 0xe01, 0xe02], responseReceived]
    (by decide +kernel) (by decide +kernel) fun tr s hrun hqu => ?_
  exact queue_waits_for_one_in_flight hrun hqu

/-- The host disconnects the CIS in flight while another waits: nothing is in flight any more,
the other still waits, and LE Create CIS is answered with Command Disallowed. -/
theorem queue_waits_for_nothing :
    ∃ tr s, isoManager.Run (fun _ _ => True) new tr s ∧ s.cisConnectionRequests ≠ [] ∧
    (∀ (k : UInt16) c, s.cisConnections[k]? = some c → c.state ≠ .pendingRsp) ∧
    isoManager.step s (createCommand [0xe00]) =
      .ok (s, [.hci (.leCreateCisStatus ⟨.commandDisallowed, 1⟩)]) := by
  have hx : isoManager.ExecTo (fun _ s => s.cisConnectionRequests ≠ [] ∧
      s.inFlight = false ∧
      isoManager.step s (createCommand [0xe00]) =
        .ok (s, [.hci (.leCreateCisStatus ⟨.commandDisallowed, 1⟩)])) new
      [linkUp, configureCommand 1 [1, 2], createCommand [0xe00, 0xe01],
        disconnectCommand 0xe00] := by
    decide +kernel
  obtain ⟨tr, s, hrun, hqu, hidle, hstep⟩ := isoManager.exists_free_run hx
  exact ⟨tr, s, hrun, hqu, inFlight_eq_false.mp hidle, hstep⟩

end IsoManager

end RootCanal.Iso
