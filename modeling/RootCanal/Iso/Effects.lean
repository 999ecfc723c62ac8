import RootCanal.Iso.Updates

/-!
# What a step of the ISO manager can do

Every handler is inverted once here; no later module unfolds one.

* `Started` lists the two outcomes of taking the next request from the queue.
* `Effect` lists the outcomes of a step, each with the conditions under which it happens and
  with everything that was sent.  **`effect_of_step`: whatever a step returns is one of them.**

An invariant is then one case for each constructor of `Effect`.
-/

namespace RootCanal.Iso

open Lib RootCanal.Hci RootCanal.Llcp

namespace IsoManager

/-! ## Taking the next request -/

/-- What taking the next request from the queue does: nothing when there is none, otherwise the
last request is sent and its entry waits for the answer. -/
inductive Started (env : Env) (s : IsoManager) : IsoManager → List Output → Prop
  | idle : s.cisConnectionRequests = [] → Started env s s []
  | sent {r : CisRequest} {rs : List CisRequest} {cisCfg : CisConfig} {cig : CigConfig}
      {p : CisParameters} {c : Cis} :
      s.cisConnectionRequests = rs ++ [r] →
      s.cisConfig[(r.cigId, r.cisId)]? = some cisCfg →
      s.cigConfig[r.cigId]? = some cig →
      CisParameters.new env.overflowChecks cig cisCfg = .ok p →
      s.cisConnections[r.cisConnectionHandle]? = some c →
      Started env s (s.startRequest r p)
        [.llcp r.aclConnectionHandle (.cisReq (cisReq r cig cisCfg p))]

/-- The next request is started. -/
theorem started_of_deque {env s} :
    Yields (s.dequeCisConnectionRequest env) fun r => Started env s r.1 r.2 := by
  unfold dequeCisConnectionRequest
  split
  · rename_i hn
    exact .ok (.idle (List.getLast?_eq_none_iff.mp hn))
  · rename_i r hlast
    obtain ⟨rs, hrs⟩ := List.getLast?_eq_some_iff.mp hlast
    refine .unwrap fun cisCfg hcisCfg => .unwrap fun cig hcig => .bind fun p hp => ?_
    refine yields_packet (.unwrap fun c hc => ?_)
    exact .ok (.sent hrs hcisCfg hcig hp hc)

/-! ## The effects -/

/-- The command is one that starts a CIS. -/
def startsCis : Command → Bool
  | .leCreateCis _ | .leAcceptCisRequest _ => true
  | _ => false

/-- The output is an event that reports on a CIS: requested, established or disconnected. -/
def aboutCis : Output → Bool
  | .hci (.disconnectionComplete _) | .hci (.leCisEstablishedV1 _) | .hci (.leCisRequest _) => true
  | _ => false

/-- The packet finds no CIS that waits for it. -/
def Skips (s : IsoManager) (a : UInt16) : LlcpPacket → Prop
  | .cisReq _ => False
  | .cisRsp _ => ∀ (k : UInt16) c, s.cisConnections[k]? = some c → awaitsRsp a c = false
  | .rejectExtInd q => q.rejectOpcode = Opcode.llCisReq →
      ∀ (k : UInt16) c, s.cisConnections[k]? = some c → awaitsRsp a c = false
  | .cisInd _ => ∀ (k : UInt16) c, s.cisConnections[k]? = some c → awaitsInd a c = false
  | .cisTerminateInd q =>
    ∀ (k : UInt16) c, s.cisConnections[k]? = some c → terminates a q c = false

/-- Everything a step can do, with what it sends. -/
inductive Effect (env : Env) (s : IsoManager) : Input → IsoManager → List Output → Prop
  /-- The command is refused. -/
  | refused {cmd : Command} {e : Event} {status : ErrorCode} :
      e.answer? = some status → status ≠ .success → Effect env s (.hci cmd) s [.hci e]
  /-- A CIG is configured, by either of the two commands. -/
  | configured {cmd : Command} {e : Event} {g : UInt8} {sduC sduP : UInt32}
      {update : CigConfig → CigConfig} {cises : List (UInt8 × CisConfig)} {s' : IsoManager}
      {hs : List UInt16} :
      startsCis cmd = false → e.answer? = some .success →
      s.checkCig env g sduC sduP cises = .ok () →
      s.configureCig env g update cises = .ok (s', hs) → Effect env s (.hci cmd) s' [.hci e]
  /-- A CIG that is not active is removed. -/
  | removedCig {p : LeRemoveCig} :
      (s.cigConfig[p.cigId]?).isSome → s.cigActive p.cigId = false →
      Effect env s (.hci (.leRemoveCig p)) (s.dropCig p.cigId)
        [.hci (.leRemoveCigComplete ⟨.success, p.cigId, 1⟩)]
  /-- CISes are requested, and the first request is started. -/
  | created {p : LeCreateCis} {rs : List CisRequest} {cigs : HashMap UInt8 CigConfig}
      {s' : IsoManager} {out : List Output} :
      s.checkCisRequests p.cisConfig [] = .ok rs → s.cisConnectionRequests = [] →
      tagNotConfigurable rs s.cigConfig = .ok cigs →
      Started env { s with cigConfig := cigs, cisConnectionRequests := rs.reverse } s' out →
      env.connectedIsochronousStreamHostSupport = true →
      Effect env s (.hci (.leCreateCis p)) s' (out ++ [.hci (.leCreateCisStatus ⟨.success, 1⟩)])
  /-- A remote request is accepted. -/
  | accepted {p : LeAcceptCisRequest} {c : Cis} {a : UInt16} :
      s.cisConnections[p.connectionHandle]? = some c → c.role = .peripheral →
      c.state = .pendingAccept → c.aclConnectionHandle = some a →
      Effect env s (.hci (.leAcceptCisRequest p))
        (s.modifyCis p.connectionHandle fun c => { c with state := .pendingInd })
        [.llcp a (.cisRsp ⟨0, 0xffffff, 0⟩), .hci (.leAcceptCisRequestStatus ⟨.success, 1⟩)]
  /-- A remote request is rejected. -/
  | rejected {p : LeRejectCisRequest} {c : Cis} {a : UInt16} {code : UInt8} :
      s.cisConnections[p.connectionHandle]? = some c → c.role = .peripheral →
      c.state = .pendingAccept → c.aclConnectionHandle = some a →
      Effect env s (.hci (.leRejectCisRequest p)) (s.removeCis p.connectionHandle)
        [.llcp a (.rejectExtInd ⟨Opcode.llCisReq, code⟩),
          .hci (.leRejectCisRequestComplete ⟨.success, p.connectionHandle, 1⟩)]
  /-- The data paths of a CIS change, and nothing else of it. -/
  | dataPath {cmd : Command} {e : Event} {h : UInt16} {f : Cis → Cis} :
      startsCis cmd = false → e.answer? = some .success →
      (∀ c, f c = { c with
        isoDataPathCToP := (f c).isoDataPathCToP
        isoDataPathPToC := (f c).isoDataPathPToC }) →
      Effect env s (.hci cmd) (s.modifyCis h f) [.hci e]
  /-- The broadcast tables change, and nothing else. -/
  | broadcast {cmd : Command} {bigs : HashMap UInt8 BigConfig} {bises : HashMap UInt16 Bis}
      {es : List Event} :
      startsCis cmd = false →
      (∀ e ∈ es, aboutCis (.hci e) = false) → es.filterMap Event.answer? = [.success] →
      Effect env s (.hci cmd) { s with bigConfig := bigs, bisConnections := bises }
        (es.map Output.hci)
  /-- A CIS is disconnected by the host. -/
  | disconnected {p : Disconnect} {c : Cis} {a : UInt16} :
      s.cisConnections[p.connectionHandle]? = some c →
      c.state = .connected ∨ c.state = .pendingRsp → c.aclConnectionHandle = some a →
      Effect env s (.hci (.disconnect p)) (s.endCis p.connectionHandle c)
        [.llcp a (.cisTerminateInd ⟨c.cigId, c.cisId, p.reason⟩),
          .hci (.disconnectStatus ⟨.success, 1⟩),
          .hci
            (.disconnectionComplete ⟨.success, p.connectionHandle,
            .connectionTerminatedByLocalHost⟩)]
  /-- An ACL link comes up. -/
  | linkAdded {a : UInt16} {role : Role} :
      Effect env s (.addAclConnection a role) (s.addAclConnection a role) []
  /-- An ACL link is lost. -/
  | linkLost {a : UInt16} {reason : ErrorCode} :
      Effect env s (.removeAclConnection a reason) (s.dropLink a)
        ((s.lostEvents env a reason).map Output.hci)
  /-- A packet that no CIS waits for is skipped. -/
  | skipped {a : UInt16} {packet : LlcpPacket} :
      s.Skips a packet → Effect env s (.llcp a packet) s []
  /-- The peer requests a CIS. -/
  | requestReceived {a h : UInt16} {q : CisReq} :
      s.newCisConnectionHandle = .ok h →
      Effect env s (.llcp a (.cisReq q)) (s.insertCis (requestedCis a h q))
        [.hci (.leCisRequest ⟨a, h, q.cigId, q.cisId⟩)]
  /-- The peer accepts the request of a CIS, which is established. -/
  | established {a h : UInt16} {q : CisRsp} {c : Cis} {p : CisParameters}
      {ev : LeCisEstablishedV1} {s' : IsoManager} {out : List Output} :
      s.cisConnections[h]? = some c → awaitsRsp a c = true → c.parameters = some p →
      establishedCentral env.overflowChecks h p = .ok ev →
      Started env (s.modifyCis h fun c => { c with state := .connected }) s' out →
      Effect env s (.llcp a (.cisRsp q)) s'
        (.llcp a (.cisInd ⟨0, 0, p.cigSyncDelay, p.cisSyncDelay, 0⟩) ::
          .hci (.leCisEstablishedV1 ev) :: out)
  /-- The peer rejects the request of a CIS. -/
  | failed {a h : UInt16} {q : RejectExtInd} {c : Cis} {s' : IsoManager} {out : List Output} :
      s.cisConnections[h]? = some c → awaitsRsp a c = true →
      q.rejectOpcode = Opcode.llCisReq →
      Started env (s.modifyCis h fun c => { c with state := .configuration, parameters := none })
        s' out →
      Effect env s (.llcp a (.rejectExtInd q)) s'
        (.hci (.leCisEstablishedV1 (cisFailed .remoteUserTerminatedConnection h)) :: out)
  /-- The Central confirms an accepted CIS, which is established. -/
  | confirmed {a h : UInt16} {q : CisInd} {c : Cis} {p : CisParameters}
      {ev : LeCisEstablishedV1} :
      s.cisConnections[h]? = some c → awaitsInd a c = true → c.parameters = some p →
      establishedPeripheral env.overflowChecks h
        { p with cigSyncDelay := q.cigSyncDelay, cisSyncDelay := q.cisSyncDelay } = .ok ev →
      Effect env s (.llcp a (.cisInd q))
        (s.modifyCis h fun c => { c with
          state := .connected
          parameters := some
            { p with cigSyncDelay := q.cigSyncDelay, cisSyncDelay := q.cisSyncDelay } })
        [.hci (.leCisEstablishedV1 ev)]
  /-- The peer terminates a CIS. -/
  | terminated {a h : UInt16} {q : CisTerminateInd} {c : Cis} {reason : ErrorCode} :
      s.cisConnections[h]? = some c → terminates a q c = true →
      ErrorCode.tryFrom q.errorCode = some reason →
      Effect env s (.llcp a (.cisTerminateInd q)) (s.removeCis h)
        [.hci (.disconnectionComplete ⟨.success, h, reason⟩)]

section inversion

variable {env : Env} {s : IsoManager}

/-- Whatever the handler of an input returns is one of the effects. -/
def Does (env : Env) (s : IsoManager) (input : Input) (x : Outcome) : Prop :=
  Yields x fun r => Effect env s input r.1 r.2

/-- The answer of a refused command. -/
theorem refused {cmd e} (hans : e.answer?.any (fun status => status != .success) = true) :
    Does env s (.hci cmd) (reply s e) := by
  refine yields_reply ?_
  cases hst : e.answer? with
  | none =>
    rw [hst] at hans
    cases hans
  | some =>
    rw [hst] at hans
    exact .refused hst (by simpa using hans)

/-- A command that changes one BIS and succeeds. -/
theorem Effect.broadcast_one {cmd e bises} (hcmd : startsCis cmd = false)
    (hcis : aboutCis (.hci e) = false) (hans : e.answer? = some .success) :
    Effect env s (.hci cmd) { s with bisConnections := bises } [.hci e] := by
  refine @Effect.broadcast env s cmd s.bigConfig bises [e] hcmd (by simpa using hcis) ?_
  rw [List.filterMap_cons, hans]
  rfl

/-- A command on a broadcast group that succeeds and reports its completion. -/
theorem Effect.broadcast_two {cmd e e' bigs bises} (hcmd : startsCis cmd = false)
    (hcis : aboutCis (.hci e) = false) (hans : e.answer? = some .success)
    (hcis' : aboutCis (.hci e') = false) (hans' : e'.answer? = none) :
    Effect env s (.hci cmd) { s with bigConfig := bigs, bisConnections := bises }
      [.hci e, .hci e'] := by
  refine @Effect.broadcast env s cmd bigs bises [e, e'] hcmd (by simpa using ⟨hcis, hcis'⟩) ?_
  rw [List.filterMap_cons, List.filterMap_cons, hans, hans']
  rfl

/-- A chain of checks passes when each of them does. -/
theorem ite_error_eq_ok {α : Type} {p : Prop} [Decidable p] {e : ErrorCode}
    {x : Except ErrorCode α} {a : α} : (if p then .error e else x) = .ok a ↔ ¬ p ∧ x = .ok a := by
  by_cases hp : p
  · simp [hp]
  · simp [hp]

theorem checkCisConfig_error {g i cfg} : Raises (s.checkCisConfig env g i cfg) (· ≠ .success) := by
  repeat refine .ite (.error (by decide)) ?_
  exact .ok

/-- A check never fails with success. -/
theorem checkCig_error {g sduC sduP cises} :
    Raises (s.checkCig env g sduC sduP cises) (· ≠ .success) := by
  refine .ite (.error (by decide)) (.bind (.forM fun _ => checkCisConfig_error) fun _ => ?_)
  exact .ite (.error (by decide)) .ok

/-- LE Set CIG Parameters. -/
theorem hciLeSetCigParameters_does {p} :
    Does env s (.hci (.leSetCigParameters p)) (s.hciLeSetCigParameters env p) := by
  unfold hciLeSetCigParameters
  dsimp only
  split
  · rename_i status hchk
    exact refused (by simpa [Event.answer?] using checkCig_error _ hchk)
  · rename_i hchk
    refine .ite (fun _ => refused rfl) fun _ => .bind fun interval _ => ?_
    cases interval with
    | none => exact refused rfl
    | some => exact .bind fun _ hconf => yields_reply (.configured rfl rfl hchk hconf)

/-- LE Set CIG Parameters Test. -/
theorem hciLeSetCigParametersTest_does {p} :
    Does env s (.hci (.leSetCigParametersTest p)) (s.hciLeSetCigParametersTest env p) := by
  unfold hciLeSetCigParametersTest
  dsimp only
  split
  · rename_i status hchk
    exact refused (by simpa [Event.answer?] using checkCig_error _ hchk)
  · rename_i hchk
    exact .bind fun _ hconf => yields_reply (.configured rfl rfl hchk hconf)

/-- LE Remove CIG. -/
theorem hciLeRemoveCig_does {p} : Does env s (.hci (.leRemoveCig p)) (s.hciLeRemoveCig p) := by
  refine .ite (fun _ => refused rfl) fun hkn => .ite (fun _ => refused rfl) fun hact => ?_
  rw [not_not, Std.ExtTreeMap.contains_eq_isSome_getElem?] at hkn
  exact yields_reply (.removedCig hkn (by simpa using hact))

theorem checkCisRequests_error {configs acc} :
    Raises (s.checkCisRequests configs acc) (· ≠ .success) := by
  induction configs generalizing acc with
  | nil => exact .ok
  | cons _ _ ih =>
    unfold checkCisRequests
    split
    · exact .error (by decide)
    · exact .error (by decide)
    split
    · exact .error (by decide)
    · exact .ite (.error (by decide)) (.ite (.error (by decide)) ih)

/-- LE Create CIS. -/
theorem hciLeCreateCis_does {p} : Does env s (.hci (.leCreateCis p)) (s.hciLeCreateCis env p) := by
  unfold hciLeCreateCis
  split
  · rename_i status hchk
    exact refused (by simpa [Event.answer?] using checkCisRequests_error _ hchk)
  · rename_i rs hchk
    refine .ite (fun _ => refused rfl) fun hqu => .ite (fun _ => refused rfl) fun hhost => ?_
    refine .bind fun cigs hcigs => .seq started_of_deque fun _ hstr => yields_event ?_
    exact .ok (.created hchk (not_not.mp hqu) hcigs hstr (not_not.mp hhost))

theorem peripheral_of_ne {role : Role} (h : role ≠ .central) : role = .peripheral := by
  cases role with
  | central => exact absurd rfl h
  | peripheral => rfl

/-- LE Accept CIS Request. -/
theorem hciLeAcceptCisRequest_does {p} :
    Does env s (.hci (.leAcceptCisRequest p)) (s.hciLeAcceptCisRequest p) := by
  unfold hciLeAcceptCisRequest
  split
  · exact refused rfl
  · rename_i c hc
    refine .ite (fun _ => refused rfl) fun hr => .ite (fun _ => refused rfl) fun hst => ?_
    refine .unwrap fun a ha => yields_packet (yields_event ?_)
    exact .ok (.accepted hc (peripheral_of_ne hr) (not_not.mp hst) ha)

/-- LE Reject CIS Request. -/
theorem hciLeRejectCisRequest_does {p} :
    Does env s (.hci (.leRejectCisRequest p)) (s.hciLeRejectCisRequest p) := by
  unfold hciLeRejectCisRequest
  split
  · exact refused rfl
  · rename_i c hc
    refine .ite (fun _ => refused rfl) fun hr => .ite (fun _ => refused rfl) fun hst => ?_
    refine .unwrap fun a ha => yields_packet (yields_event ?_)
    exact .ok (.rejected hc (peripheral_of_ne hr) (not_not.mp hst) ha)

/-- LE Setup ISO Data Path. -/
theorem hciLeSetupIsoDataPath_does {p} :
    Does env s (.hci (.leSetupIsoDataPath p)) (s.hciLeSetupIsoDataPath p) := by
  refine .ite (fun _ => refused rfl) fun _ => ?_
  split
  · iterate 3 refine .ite (fun _ => refused rfl) fun _ => ?_
    refine yields_reply (.dataPath rfl rfl ?_)
    intro c
    split <;> rfl
  · iterate 2 refine .ite (fun _ => refused rfl) fun _ => ?_
    exact yields_reply (.broadcast_one rfl rfl rfl)
  · exact refused rfl

/-- LE Remove ISO Data Path. -/
theorem hciLeRemoveIsoDataPath_does {p} :
    Does env s (.hci (.leRemoveIsoDataPath p)) (s.hciLeRemoveIsoDataPath p) := by
  unfold hciLeRemoveIsoDataPath
  split
  · iterate 2 refine .ite (fun _ => refused rfl) fun _ => ?_
    exact yields_reply (.dataPath rfl rfl fun c => rfl)
  · refine .ite (fun _ => refused rfl) fun _ => ?_
    exact yields_reply (.broadcast_one rfl rfl rfl)
  · exact refused rfl

/-- Disconnect. -/
theorem hciDisconnect_does {p} : Does env s (.hci (.disconnect p)) (s.hciDisconnect p) := by
  unfold hciDisconnect
  split
  · exact refused rfl
  · rename_i c hc
    refine .ite (fun _ => refused rfl) fun hst => .unwrap fun a ha => ?_
    refine yields_packet (yields_event (yields_event ?_))
    exact .ok (.disconnected hc (not_not.mp hst) ha)

variable {p : LeCreateBig}

theorem checkBig_error : Raises (s.checkBig env p) (· ≠ .success) := by
  repeat refine .ite (.error (by decide)) ?_
  exact .ok

/-- An accepted LE Create BIG has a retransmission number of at most 15, so the later check that
NSE is at most 31 never fails. -/
theorem checkBig_rtn (heq : s.checkBig env p = .ok ()) : ¬ 1 * (p.rtn + 1) > 31 := by
  unfold checkBig at heq
  simp only [ite_error_eq_ok] at heq
  obtain ⟨-, -, -, -, -, -, -, -, -, -, hrtn, -⟩ := heq
  rw [one_mul, gt_iff_lt, UInt8.lt_iff_toNat_lt, UInt8.toNat_add]
  rw [gt_iff_lt, UInt8.lt_iff_toNat_lt] at hrtn
  have h15 : (0xf : UInt8).toNat = 15 := rfl
  have h31 : (31 : UInt8).toNat = 31 := rfl
  have h1 : (1 : UInt8).toNat = 1 := rfl
  omega

theorem createBises_frame {ids s} :
    Yields (createBises p ids s) fun r => ∃ bises, r.1 = { s with bisConnections := bises } := by
  induction ids generalizing s with
  | nil => exact .ok ⟨s.bisConnections, rfl⟩
  | cons _ _ ih =>
    refine .bind fun h _ => .seq ih ?_
    rintro ⟨_, hs⟩ ⟨bises, rfl⟩
    exact .ok ⟨bises, rfl⟩

/-- LE Create BIG. -/
theorem hciLeCreateBig_does : Does env s (.hci (.leCreateBig p)) (s.hciLeCreateBig env p) := by
  unfold hciLeCreateBig
  split
  · rename_i status hchk
    exact refused (by simpa [Event.answer?] using checkBig_error _ hchk)
  · rename_i hchk
    refine yields_event (.seq createBises_frame ?_)
    rintro ⟨_, hs⟩ ⟨bises, rfl⟩
    refine .ite (fun hnse => absurd hnse (checkBig_rtn hchk)) fun _ => yields_event ?_
    exact .ok (.broadcast_two rfl rfl rfl rfl rfl)

/-- LE Terminate BIG. -/
theorem hciLeTerminateBig_does {p} :
    Does env s (.hci (.leTerminateBig p)) (s.hciLeTerminateBig p) := by
  refine .ite (fun _ => refused rfl) fun _ => .ite (fun hunknown => ?_) fun _ => ?_
  · have habs : s.bigConfig.erase p.bigHandle = s.bigConfig := by
      have hn : s.bigConfig[p.bigHandle]? = none :=
        HashMap.contains_eq_false.mp (Bool.eq_false_of_not_eq_true hunknown)
      apply Std.ExtTreeMap.ext_getElem?
      intro k
      rw [HashMap.getElem?_erase']
      split
      · rename_i hk
        rw [← hk, hn]
      · rfl
    rw [habs]
    exact refused rfl
  · exact yields_event (yields_event (.ok (.broadcast_two rfl rfl rfl rfl rfl)))

/-- A selected handle is that of a CIS that satisfies the predicate. -/
theorem getCisConnectionHandle_some {p h} (heq : s.getCisConnectionHandle env p = some h) :
    ∃ c, s.cisConnections[h]? = some c ∧ p c = true :=
  HashMap.head?_keysWhere_eq_some heq

theorem getCisConnectionHandle_none {p} : s.getCisConnectionHandle env p = none ↔
      ∀ (k : UInt16) c, s.cisConnections[k]? = some c → p c = false :=
  HashMap.head?_keysWhere_eq_none

/-- A CIS that alone satisfies the predicate is the one selected, in any order. -/
theorem getCisConnectionHandle_unique {p h c} (hc : s.cisConnections[h]? = some c) (hp : p c = true)
    (honly : ∀ (k : UInt16) c, s.cisConnections[k]? = some c → p c = true → k = h) :
    s.getCisConnectionHandle env p = some h := by
  cases hfd : s.getCisConnectionHandle env p with
  | none =>
    rw [getCisConnectionHandle_none.mp hfd h c hc] at hp
    cases hp
  | some k =>
    obtain ⟨c', hc', hp'⟩ := getCisConnectionHandle_some hfd
    rw [honly k c' hc' hp']

variable {a : UInt16}

/-- A request of the central. -/
theorem llCisReq_does {q} : Does env s (.llcp a (.cisReq q)) (s.llCisReq a q) := by
  exact .bind fun h hnew => yields_reply (.requestReceived hnew)

/-- A response of the peripheral. -/
theorem llCisRsp_does {q} : Does env s (.llcp a (.cisRsp q)) (s.llCisRsp env a q) := by
  unfold llCisRsp
  split
  · rename_i hn
    exact .ok (.skipped (getCisConnectionHandle_none.mp hn))
  · rename_i h hsome
    obtain ⟨c, hc, haw⟩ := getCisConnectionHandle_some hsome
    refine .unwrap fun c' hc' => .unwrap fun p hp => ?_
    rw [modifyCis_getElem?, if_pos rfl, hc] at hc'
    cases hc'
    refine yields_packet (.bind fun ev hev => yields_event (.seq started_of_deque ?_))
    exact fun _ hstr => .ok (.established hc haw hp hev hstr)

/-- A rejection. -/
theorem llRejectExtInd_does {q} :
    Does env s (.llcp a (.rejectExtInd q)) (s.llRejectExtInd env a q) := by
  refine .ite (fun hop => .ok (.skipped fun hop' => absurd hop' hop)) fun hop => ?_
  split
  · rename_i hn
    exact .ok (.skipped fun _ => getCisConnectionHandle_none.mp hn)
  · rename_i h hsome
    obtain ⟨c, hc, haw⟩ := getCisConnectionHandle_some hsome
    refine .bind fun _ _ => yields_event (.seq started_of_deque fun _ hstr => ?_)
    exact .ok (.failed hc haw (not_not.mp hop) hstr)

/-- An indication of the central. -/
theorem llCisInd_does {q} : Does env s (.llcp a (.cisInd q)) (s.llCisInd env a q) := by
  unfold llCisInd
  split
  · rename_i hn
    exact .ok (.skipped (getCisConnectionHandle_none.mp hn))
  · rename_i h hsome
    obtain ⟨c, hc, haw⟩ := getCisConnectionHandle_some hsome
    refine .unwrap fun c' hc' => .unwrap fun p hp => .bind fun ev hev => yields_reply ?_
    rw [hc] at hc'
    cases hc'
    exact .confirmed hc haw hp hev

/-- The end of a stream. -/
theorem llCisTerminateInd_does {q} :
    Does env s (.llcp a (.cisTerminateInd q)) (s.llCisTerminateInd env a q) := by
  unfold llCisTerminateInd
  split
  · rename_i hn
    exact .ok (.skipped (getCisConnectionHandle_none.mp hn))
  · rename_i h hsome
    obtain ⟨c, hc, hterm⟩ := getCisConnectionHandle_some hsome
    refine .bind fun reason hreason => yields_event ?_
    exact .ok (.terminated hc hterm (unwrapResult_eq_ok.mp hreason))

/-- **Everything a step returns is one of the effects.** -/
theorem effect_of_step {s' input out} (heq : isoManager.step s (env, input) = .ok (s', out)) :
    Effect env s input s' out := by
  suffices hdoes : Does env s input (isoManager.step s (env, input)) from hdoes _ heq
  rcases input with cmd | ⟨a, packet⟩ | ⟨a, role⟩ | ⟨a, reason⟩
  · cases cmd with
    | disconnect => exact hciDisconnect_does
    | leSetCigParameters => exact hciLeSetCigParameters_does
    | leSetCigParametersTest => exact hciLeSetCigParametersTest_does
    | leCreateCis => exact hciLeCreateCis_does
    | leRemoveCig => exact hciLeRemoveCig_does
    | leAcceptCisRequest => exact hciLeAcceptCisRequest_does
    | leRejectCisRequest => exact hciLeRejectCisRequest_does
    | leSetupIsoDataPath => exact hciLeSetupIsoDataPath_does
    | leRemoveIsoDataPath => exact hciLeRemoveIsoDataPath_does
    | leCreateBig => exact hciLeCreateBig_does
    | leTerminateBig => exact hciLeTerminateBig_does
  · cases packet with
    | rejectExtInd => exact llRejectExtInd_does
    | cisReq => exact llCisReq_does
    | cisRsp => exact llCisRsp_does
    | cisInd => exact llCisInd_does
    | cisTerminateInd => exact llCisTerminateInd_does
  · exact .ok .linkAdded
  · refine .seq mapM_sendHciEvent ?_
    rintro _ rfl
    exact .ok .linkLost

end inversion

end IsoManager

end RootCanal.Iso
