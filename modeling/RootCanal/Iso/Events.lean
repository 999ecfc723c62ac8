import RootCanal.Iso.Requests

/-!
# What the host sees of a CIS

The host knows a CIS by its handle: it asks for it with LE Create CIS or LE Accept CIS Request,
is told once by LE CIS Established how that went, and by Disconnection Complete that it ended.
`obs k` reads off a step what it says about the handle `k`, and `activity s k` is where the
handle stands in a state: idle, being created, accepted, or connected.

* `HandleStep` is the diagram a host expects.  **`handle_step`: a step moves every handle along
  it, or ends a CIS that is not connected** by a disconnection (`EndsEarly`), provided the queue
  is sound.
* `reported` judges the observations alone, by which one may follow which (`Obs.follows`).
  **`every_request_reported_once`: it accepts what is said about a handle in every run that
  excludes the early ends**, and a request is open exactly while the CIS is being created or
  accepted (`Agrees`).
-/

namespace RootCanal.Iso

open Lib RootCanal.Hci RootCanal.Llcp

namespace IsoManager

/-! ## Observations -/

/-- What a step says about a handle. -/
inductive Obs
  | created
  | accepted
  | established (status : ErrorCode)
  | disconnected
deriving DecidableEq, Repr

/-- The command was answered with Success. -/
def succeeded (out : List Output) : Bool :=
  out.any fun
    | .hci e => e.answer? == some .success
    | .llcp _ _ => false

/-- The request for a CIS: the handle is listed in a successful LE Create CIS, or accepted. -/
def obsCommand (k : UInt16) (input : Input) (out : List Output) : List Obs :=
  match input with
  | .hci (.leCreateCis p) =>
    if k ∈ p.cisConfig.map LeCreateCisConfig.cisConnectionHandle ∧ succeeded out then [.created]
    else []
  | .hci (.leAcceptCisRequest p) =>
    if p.connectionHandle = k ∧ succeeded out then [.accepted] else []
  | _ => []

/-- What an output says about the handle. -/
def obsOutput (k : UInt16) : Output → Option Obs
  | .hci (.leCisEstablishedV1 e) =>
    if e.connectionHandle = k then some (.established e.status) else none
  | .hci (.disconnectionComplete e) => if e.connectionHandle = k then some .disconnected else none
  | _ => none

/-- The observations of one step about a handle, in order. -/
def obs (k : UInt16) (step : (Env × Input) × List Output) : List Obs :=
  obsCommand k step.1.2 step.2 ++ step.2.filterMap (obsOutput k)

/-! ## Where a handle stands -/

/-- Where a handle stands. -/
inductive Activity
  | idle
  | creating
  | accepted
  | connected
deriving DecidableEq, Repr

/-- Where a handle stands by the state of its entry. -/
def stateActivity : Option CisState → Activity
  | some .pendingRsp => .creating
  | some .pendingInd => .accepted
  | some .connected => .connected
  | _ => .idle

/-- The handle is that of a queued request. -/
def IsQueued (s : IsoManager) (k : UInt16) : Prop :=
  k ∈ s.cisConnectionRequests.map CisRequest.cisConnectionHandle

instance (s : IsoManager) (k : UInt16) : Decidable (s.IsQueued k) :=
  inferInstanceAs (Decidable (k ∈ _))

/-- Where a handle stands: a queued one is being created. -/
def activity (s : IsoManager) (k : UInt16) : Activity :=
  if s.IsQueued k then .creating else stateActivity ((s.cisConnections[k]?).map Cis.state)

/-- The diagram a host expects of a handle. A CIS that fails is idle again, whatever the status it
failed with. -/
inductive HandleStep : Activity → List Obs → Activity → Prop
  | none (a : Activity) : HandleStep a [] a
  | create : HandleStep .idle [.created] .creating
  | accept : HandleStep .idle [.accepted] .accepted
  | establish {a : Activity} : a = .creating ∨ a = .accepted →
      HandleStep a [.established .success] .connected
  | fail {a : Activity} (status : ErrorCode) : a = .creating ∨ a = .accepted →
      HandleStep a [.established status] .idle
  | disconnect : HandleStep .connected [.disconnected] .idle

/-- The input ends the CIS of the handle by a disconnection although it is not connected: the host
disconnects it before the peer has answered, or the peer terminates it. -/
inductive EndsEarly (s : IsoManager) (k : UInt16) : Input → Prop
  | disconnect {p : Disconnect} {c : Cis} : p.connectionHandle = k →
      s.cisConnections[k]? = some c → c.state = .pendingRsp → EndsEarly s k (.hci (.disconnect p))
  | terminate {a : UInt16} {q : CisTerminateInd} {c : Cis} :
      s.cisConnections[k]? = some c → terminates a q c = true → c.state ≠ .connected →
      EndsEarly s k (.llcp a (.cisTerminateInd q))

section activity

variable {env : Env} {s s' : IsoManager} {out : List Output} {input : Input} {k h : UInt16}
  {c : Cis}

theorem activity_of_queued (hk : s.IsQueued k) : s.activity k = .creating := if_pos hk

theorem activity_of_entry (hk : ¬ s.IsQueued k) (hc : s.cisConnections[k]? = some c) :
    s.activity k = stateActivity (some c.state) := by
  unfold activity
  rw [if_neg hk, hc]
  rfl

theorem activity_of_none (hk : ¬ s.IsQueued k) (hc : s.cisConnections[k]? = none) :
    s.activity k = .idle := by
  unfold activity
  rw [if_neg hk, hc]
  rfl

/-- The activity of a handle depends on the queue and on the state of its entry. -/
theorem activity_congr (hreq : s'.cisConnectionRequests = s.cisConnectionRequests)
    (hent : stateActivity ((s'.cisConnections[k]?).map Cis.state) =
      stateActivity ((s.cisConnections[k]?).map Cis.state)) : s'.activity k = s.activity k := by
  have hk : s'.IsQueued k ↔ s.IsQueued k := by
    unfold IsQueued
    rw [hreq]
  unfold activity
  by_cases hqd : s.IsQueued k
  · rw [if_pos (hk.mpr hqd), if_pos hqd]
  · rw [if_neg (mt hk.mp hqd), if_neg hqd, hent]

/-- In a sound queue, the entry of a queued handle is in configuration. -/
theorem QueueOk.state_of_queued (hq : QueueOk s) (hk : s.IsQueued k)
    (hc : s.cisConnections[k]? = some c) : c.state = .configuration := by
  obtain ⟨r, hr, rfl⟩ := List.mem_map.mp hk
  obtain ⟨c', hc', -, hst, -⟩ := hq.queued r hr
  rw [hc] at hc'
  cases hc'
  exact hst

theorem QueueOk.not_queued (hq : QueueOk s) (hc : s.cisConnections[k]? = some c)
    (hst : c.state ≠ .configuration) : ¬ s.IsQueued k :=
  fun hk => hst (hq.state_of_queued hk hc)

variable {a : UInt16}

/-- A CIS that may be terminated is not queued. -/
theorem not_queued_of_terminates {q}
    (hsafe : s.keepsQueued (env, .llcp a (.cisTerminateInd q)) = true)
    (hc : s.cisConnections[k]? = some c) (hterm : terminates a q c = true) : ¬ s.IsQueued k := by
  intro hk
  obtain ⟨r, hr, hrk⟩ := List.mem_map.mp hk
  have hkeep := List.all_eq_true.mp hsafe r hr
  rw [hrk, hc] at hkeep
  simp [hterm] at hkeep

theorem QueueOk.entry_of_queued (hq : QueueOk s) (hk : s.IsQueued k) :
    ∃ c, s.cisConnections[k]? = some c := by
  obtain ⟨r, hr, rfl⟩ := List.mem_map.mp hk
  obtain ⟨c, hc, -⟩ := hq.queued r hr
  exact ⟨c, hc⟩

/-- An answered command says nothing more about a handle. -/
theorem obsOutput_of_answer {e status} (he : e.answer? = some status) :
    obsOutput k (.hci e) = none := by
  cases e <;> first | rfl | cases he

theorem obsOutput_of_aboutCis {o} (ho : aboutCis o = false) : obsOutput k o = none := by
  unfold aboutCis at ho
  unfold obsOutput
  split at ho <;> simp_all

/-- A command that starts no CIS makes no request. -/
theorem obsCommand_of_startsCis {cmd} (hcmd : startsCis cmd = false) :
    obsCommand k (.hci cmd) out = [] := by
  cases cmd <;> first | rfl | cases hcmd

/-- Starting a request says nothing to the host. -/
theorem Started.obsOutput (hstr : Started env s s' out) : out.filterMap (obsOutput k) = [] := by
  cases hstr with
  | idle => rfl
  | sent => rfl

/-- Starting the next request changes no activity: its handle was queued. -/
theorem Started.activity (hstr : Started env s s' out) : s'.activity k = s.activity k := by
  cases hstr with
  | idle => rfl
  | @sent r rs _ _ p c hrs _ _ _ hc =>
    have hreq : (s.startRequest r p).cisConnectionRequests = rs := by
      rw [startRequest_requests, hrs, List.dropLast_concat]
    have hqd : s.IsQueued k ↔ (s.startRequest r p).IsQueued k ∨ r.cisConnectionHandle = k := by
      unfold IsQueued
      rw [hreq, hrs, List.map_append, List.mem_append, List.map_singleton, List.mem_singleton]
      exact or_congr_right eq_comm
    by_cases hk : (s.startRequest r p).IsQueued k
    · rw [activity_of_queued hk, activity_of_queued (hqd.mpr (Or.inl hk))]
    · by_cases hrk : r.cisConnectionHandle = k
      · have hent : (s.startRequest r p).cisConnections[k]? =
            some (requested r.aclConnectionHandle p c) := by
          rw [startRequest_getElem?, if_pos hrk, hc]
          rfl
        rw [activity_of_entry hk hent, activity_of_queued (hqd.mpr (Or.inr hrk))]
        rfl
      · have hk' : ¬ s.IsQueued k := fun h => (hqd.mp h).elim hk hrk
        unfold IsoManager.activity
        rw [if_neg hk, if_neg hk', startRequest_getElem?, if_neg hrk]

/-! ## One step moves a handle along the diagram -/

/-- A handle of which nothing is said and whose activity is the same. -/
theorem handleStep_none {step} (hobs : obs k step = []) (hact : s'.activity k = s.activity k) :
    HandleStep (s.activity k) (obs k step) (s'.activity k) := by
  rw [hobs, hact]
  exact .none _

/-- The next request of an accepted LE Create CIS: the listed handles leave configuration. -/
theorem created_handleStep {p rs cigs} (hchk : s.checkCisRequests p.cisConfig [] = .ok rs)
    (hemp : s.cisConnectionRequests = [])
    (hstr : Started env { s with cigConfig := cigs, cisConnectionRequests := rs.reverse } s' out) :
    HandleStep (s.activity k)
      (obs k ((env, .hci (.leCreateCis p)), out ++ [.hci (.leCreateCisStatus ⟨.success, 1⟩)]))
      (s'.activity k) := by
  obtain ⟨hmap, -, hreq⟩ := checkCisRequests_ok hchk List.nodup_nil nofun
  rw [List.map_nil, List.nil_append] at hmap
  have hok : succeeded (out ++ [.hci (.leCreateCisStatus ⟨.success, 1⟩)]) = true := by
    unfold succeeded
    simp [Event.answer?]
  have hout : (out ++ [Output.hci (.leCreateCisStatus ⟨.success, 1⟩)]).filterMap
      (obsOutput k) = [] := by
    rw [List.filterMap_append, hstr.obsOutput]
    rfl
  have hnotQueued : ¬ s.IsQueued k := by
    unfold IsQueued
    rw [hemp]
    exact List.not_mem_nil
  have hpost := hstr.activity (k := k)
  unfold obs obsCommand
  rw [hout, List.append_nil]
  simp only [hok, and_true]
  by_cases hk : k ∈ p.cisConfig.map LeCreateCisConfig.cisConnectionHandle
  · -- a listed handle was in configuration and is now queued or in flight
    rw [if_pos hk]
    have hqd : IsQueued { s with cigConfig := cigs, cisConnectionRequests := rs.reverse } k := by
      unfold IsQueued
      rw [List.map_reverse, List.mem_reverse, hmap]
      exact hk
    obtain ⟨r, hr, hrk⟩ := List.mem_map.mp (hmap ▸ hk)
    obtain ⟨c, hc, hst, -⟩ := (hreq r hr).entry
    rw [hrk] at hc
    rw [hpost, activity_of_queued hqd, activity_of_entry hnotQueued hc, hst]
    exact .create
  · rw [if_neg hk, hpost]
    have hnotQueued' :
        ¬ IsQueued { s with cigConfig := cigs, cisConnectionRequests := rs.reverse } k := by
      unfold IsQueued
      rw [List.map_reverse, List.mem_reverse, hmap]
      exact hk
    have hsame : activity { s with cigConfig := cigs, cisConnectionRequests := rs.reverse } k =
        s.activity k := by
      unfold activity
      rw [if_neg hnotQueued, if_neg hnotQueued']
    rw [hsame]
    exact .none _

variable {reason : ErrorCode}

/-- Only the events of the handle's own entry and request speak of it when a link is lost. -/
theorem lostEvents_obs (hs : Coherent s) (hq : QueueOk s) :
    ((s.lostEvents env a reason).map Output.hci).filterMap (obsOutput k) =
      ((s.cisConnections[k]?).bind fun c => if c.aclConnectionHandle = some a then
        (linkLoss? reason c).bind fun e => obsOutput k (.hci e) else none).toList ++
      if ∃ r ∈ s.cisConnectionRequests, r.cisConnectionHandle = k ∧ r.aclConnectionHandle = a then
        [.established reason] else [] := by
  unfold lostEvents
  rw [List.map_append, List.filterMap_append]
  congr 1
  · rw [List.filterMap_map, List.filterMap_filterMap, List.filterMap_filter,
      HashMap.filterMap_values (k := k)]
    · congr 2
      simp only [decide_eq_true_eq]
      rfl
    · intro k' c hc hne
      have hown := (hs.entry k' c hc).own
      split
      · unfold linkLoss?
        split <;> simp [obsOutput, cisFailed, hown, hne]
      · rfl
  · rw [List.map_map, List.filterMap_map, List.filterMap_filter]
    by_cases hr : ∃ r ∈ s.cisConnectionRequests, r.cisConnectionHandle = k
    · obtain ⟨r, hmem, rfl⟩ := hr
      have hinj : ∀ r' ∈ s.cisConnectionRequests, r' ≠ r →
          r'.cisConnectionHandle ≠ r.cisConnectionHandle := by
        intro r' hr' hne heq
        exact hne (List.inj_on_of_nodup_map hq.nodup hr' hmem heq)
      rw [HashMap.filterMap_of_nodup (b := r) hq.nodup.of_map, if_pos hmem]
      · by_cases ha : r.aclConnectionHandle = a
        · have hone : ∃ r' ∈ s.cisConnectionRequests,
              r'.cisConnectionHandle = r.cisConnectionHandle ∧ r'.aclConnectionHandle = a :=
            ⟨r, hmem, rfl, ha⟩
          rw [if_pos hone]
          simp [ha, obsOutput, cisFailed]
        · have hn : ¬ ∃ r' ∈ s.cisConnectionRequests,
              r'.cisConnectionHandle = r.cisConnectionHandle ∧ r'.aclConnectionHandle = a := by
            rintro ⟨r', hr', heq, ha'⟩
            by_cases hrr : r' = r
            · exact ha (hrr ▸ ha')
            · exact hinj r' hr' hrr heq
          rw [if_neg hn]
          simp [ha]
      · intro r' hr' hne
        simp [obsOutput, cisFailed, hinj r' hr' hne]
    · rw [if_neg fun ⟨r, hmem, hrk, _⟩ => hr ⟨r, hmem, hrk⟩, List.filterMap_eq_nil_iff]
      intro r hmem
      have hrk : r.cisConnectionHandle ≠ k := fun heq => hr ⟨r, hmem, heq⟩
      simp [obsOutput, cisFailed, hrk]

/-- On a lost link no CIS is left out of configuration. -/
theorem dropLink_idle (hc : s.cisConnections[k]? = some c) (ha : c.aclConnectionHandle = some a) :
    stateActivity (((s.dropLink a).cisConnections[k]?).map Cis.state) = .idle := by
  rw [dropLink_entry, hc, Option.filter_some]
  split
  · rw [Option.map_some, unlink, if_pos ha]
    rfl
  · rfl

theorem dropLink_other (hk : ∀ c, s.cisConnections[k]? = some c → c.aclConnectionHandle ≠ some a) :
    (s.dropLink a).cisConnections[k]? = s.cisConnections[k]? := by
  rw [dropLink_entry]
  cases hc : s.cisConnections[k]? with
  | none => rfl
  | some c =>
    rw [Option.filter_some, if_pos (by simp [hk c hc]), Option.map_some, unlink, if_neg (hk c hc)]

/-- The loss of a link moves a queued handle along the diagram: a request on the lost link fails,
and its entry, in configuration, says nothing. -/
theorem linkLost_queued (hs : Coherent s) (hq : QueueOk s) (hk : s.IsQueued k) :
    HandleStep (s.activity k)
      (((s.lostEvents env a reason).map Output.hci).filterMap (obsOutput k))
        ((s.dropLink a).activity k) := by
  obtain ⟨r, hr, hrk⟩ := List.mem_map.mp hk
  obtain ⟨c, hc⟩ := hq.entry_of_queued hk
  have hst := hq.state_of_queued hk hc
  have hquiet : ((s.cisConnections[k]?).bind fun c => if c.aclConnectionHandle = some a then
      (linkLoss? reason c).bind fun e => obsOutput k (.hci e) else none) = none := by
    rw [hc, Option.bind_some]
    unfold linkLoss?
    rw [hst]
    split <;> rfl
  rw [lostEvents_obs hs hq, hquiet, activity_of_queued hk]
  have honly : ∀ r' ∈ s.cisConnectionRequests, r'.cisConnectionHandle = k → r' = r :=
    fun r' hr' heq => List.inj_on_of_nodup_map hq.nodup hr' hr (heq.trans hrk.symm)
  by_cases ha : r.aclConnectionHandle = a
  · have hgone : ¬ (s.dropLink a).IsQueued k := by
      intro hk'
      obtain ⟨r', hr', hrk'⟩ := List.mem_map.mp hk'
      obtain ⟨hr', hne⟩ := List.mem_filter.mp hr'
      rw [honly r' hr' hrk', ha] at hne
      simp at hne
    have hidle : stateActivity (((s.dropLink a).cisConnections[k]?).map Cis.state) = .idle := by
      by_cases hl : c.aclConnectionHandle = some a
      · exact dropLink_idle hc hl
      · rw [dropLink_other (fun c' hc' => by rw [hc] at hc'; cases hc'; exact hl), hc]
        show stateActivity (some c.state) = _
        rw [hst]
        rfl
    rw [if_pos ⟨r, hr, hrk, ha⟩, activity, if_neg hgone, hidle]
    exact .fail reason (Or.inl rfl)
  · have hkept : (s.dropLink a).IsQueued k :=
        List.mem_map.mpr ⟨r, List.mem_filter.mpr ⟨hr, by simpa using ha⟩, hrk⟩
    have hn : ¬ ∃ r ∈ s.cisConnectionRequests, r.cisConnectionHandle = k ∧
        r.aclConnectionHandle = a := by
      rintro ⟨r', hr', hrk', ha'⟩
      exact ha (honly r' hr' hrk' ▸ ha')
    rw [if_neg hn, activity_of_queued hkept]
    exact .none _

/-- The loss of a link moves the other handles along the diagram: the CISes on the link end or fail
with it. -/
theorem linkLost_notQueued (hs : Coherent s) (hq : QueueOk s) (hk : ¬ s.IsQueued k) :
    HandleStep (s.activity k)
      (((s.lostEvents env a reason).map Output.hci).filterMap (obsOutput k))
        ((s.dropLink a).activity k) := by
  have hn : ¬ ∃ r ∈ s.cisConnectionRequests, r.cisConnectionHandle = k ∧
      r.aclConnectionHandle = a := fun ⟨r, hr, hrk, _⟩ => hk (List.mem_map.mpr ⟨r, hr, hrk⟩)
  have hgone : ¬ (s.dropLink a).IsQueued k := by
    intro hk'
    obtain ⟨r, hr, hrk⟩ := List.mem_map.mp hk'
    exact hk (List.mem_map.mpr ⟨r, List.mem_of_mem_filter hr, hrk⟩)
  rw [lostEvents_obs hs hq, if_neg hn, List.append_nil, activity, activity, if_neg hk, if_neg hgone]
  cases hc : s.cisConnections[k]? with
  | none =>
    rw [dropLink_other (fun c hc' => by rw [hc] at hc'; cases hc'), hc]
    exact .none _
  | some c =>
    by_cases ha : c.aclConnectionHandle = some a
    · have hown := (hs.entry k c hc).own
      rw [dropLink_idle hc ha, Option.bind_some, if_pos ha]
      unfold linkLoss?
      cases hst : c.state with
      | configuration | pendingAccept => simpa [stateActivity, hst] using HandleStep.none .idle
      | pendingRsp =>
        simpa [stateActivity, hst, obsOutput, cisFailed, hown]
          using HandleStep.fail reason (Or.inl rfl)
      | pendingInd =>
        simpa [stateActivity, hst, obsOutput, cisFailed, hown]
          using HandleStep.fail reason (Or.inr rfl)
      | connected => simpa [stateActivity, hst, obsOutput, hown] using HandleStep.disconnect
    · rw [dropLink_other (fun c' hc' => by rw [hc] at hc'; cases hc'; exact ha), hc,
        Option.bind_some, if_neg ha]
      exact .none _

/-- The entry of one handle changes from one state to another: the other handles are where they
were, and this one moves with the state, as it is not queued. -/
theorem modifyCis_activity {f} (hc : s.cisConnections[h]? = some c) (hh : ¬ s.IsQueued h) :
    (s.modifyCis h f).activity k =
      if h = k then stateActivity (some (f c).state) else s.activity k := by
  by_cases hk : h = k
  · subst hk
    have hent : (s.modifyCis h f).cisConnections[h]? = some (f c) := by
      rw [modifyCis_getElem?, if_pos rfl, hc]
      rfl
    rw [if_pos rfl]
    exact activity_of_entry hh hent
  · rw [if_neg hk]
    refine activity_congr rfl ?_
    rw [modifyCis_getElem?, if_neg hk]

theorem removeCis_activity (hh : ¬ s.IsQueued h) :
    (s.removeCis h).activity k = if h = k then .idle else s.activity k := by
  by_cases hk : h = k
  · subst hk
    have hent : (s.removeCis h).cisConnections[h]? = none := by
      rw [removeCis_getElem?, if_pos rfl]
    rw [if_pos rfl]
    exact activity_of_none hh hent
  · rw [if_neg hk]
    refine activity_congr rfl ?_
    rw [removeCis_getElem?, if_neg hk]

/-- The handle of a new remote request was idle and is idle. -/
theorem requestReceived_activity {q} (hnew : s.newCisConnectionHandle = .ok h) :
    (s.insertCis (requestedCis a h q)).activity k = s.activity k := by
  obtain ⟨hfree, -⟩ := newCisConnectionHandle_ok hnew
  refine activity_congr rfl ?_
  rw [insertCis_getElem?]
  split
  · rename_i hk
    have hhk : h = k := hk
    rw [← hhk, hfree]
    rfl
  · rfl

/-- Removing an idle CIG moves no handle. -/
theorem dropCig_activity {g} (hact : s.cigActive g = false) :
    (s.dropCig g).activity k = s.activity k := by
  refine activity_congr rfl ?_
  rw [dropCig_entry]
  cases hc : s.cisConnections[k]? with
  | none => rfl
  | some c =>
    rw [Option.filter_some]
    split
    · rfl
    · rename_i hdrop
      -- the CIS is dropped, and was in configuration
      have hidle := HashMap.any_eq_false.mp hact k c hc
      have hst : c.state = .configuration := by simp_all
      rw [Option.map_some, hst]
      rfl

/-- Configuring a CIG moves no handle: a new connection is in configuration. -/
theorem configureCig_activity {g update cises hs}
    (hconf : s.configureCig env g update cises = .ok (s', hs)) : s'.activity k = s.activity k := by
  have hspec := configureCig_spec hconf
  refine activity_congr hspec.requests ?_
  cases hc : s.cisConnections[k]? with
  | some c => rw [hspec.kept k c hc]
  | none =>
    cases hc' : s'.cisConnections[k]? with
    | none => rfl
    | some c' =>
      rcases hspec.new k c' hc' with hold | ⟨-, -, i, rfl, -⟩
      · rw [hc] at hold
        cases hold
      · rfl

/-- Changing the data paths of a CIS moves no handle. -/
theorem dataPath_activity {f} (hf : ∀ c, (f c).state = c.state) :
    (s.modifyCis h f).activity k = s.activity k := by
  refine activity_congr rfl ?_
  rw [modifyCis_getElem?]
  split
  · rename_i hk
    rw [hk, Option.map_map]
    congr 2
    funext c
    exact hf c
  · rfl

theorem filterMap_established {ev rest} (hh : ev.connectionHandle = h)
    (hrs : rest.filterMap (obsOutput k) = []) :
    (Output.hci (.leCisEstablishedV1 ev) :: rest).filterMap (obsOutput k) =
      if h = k then [.established ev.status] else [] := by
  rw [List.filterMap_cons, hrs]
  by_cases hk : h = k
  · simp [obsOutput, hh, hk]
  · simp [obsOutput, hh, hk]

theorem filterMap_disconnected {status reason} :
    [Output.hci (.disconnectionComplete ⟨status, h, reason⟩)].filterMap (obsOutput k) =
      if h = k then [.disconnected] else [] := by
  by_cases hk : h = k
  · simp [obsOutput, hk]
  · simp [obsOutput, hk]

/-- One handle is spoken of and moves with its entry; the others stay where they are. -/
theorem handleStep_entry {os a} (hfree : ¬ s.IsQueued h)
    (hc : s.cisConnections[h]? = some c) (hmove : HandleStep (stateActivity (some c.state)) os a) :
    HandleStep (s.activity k) (if h = k then os else []) (if h = k then a else s.activity k) := by
  by_cases hk : h = k
  · rw [if_pos hk, if_pos hk, ← hk, activity_of_entry hfree hc]
    exact hmove
  · rw [if_neg hk, if_neg hk]
    exact .none _

/-- The state of an entry changes, and its handle goes along. -/
theorem modified_handleStep {f l os} (hfree : ¬ s.IsQueued h) (hc : s.cisConnections[h]? = some c)
    (hobs : os = if h = k then l else [])
    (hmove : HandleStep (stateActivity (some c.state)) l (stateActivity (some (f c).state))) :
    HandleStep (s.activity k) os ((s.modifyCis h f).activity k) := by
  rw [hobs, modifyCis_activity hc hfree]
  exact handleStep_entry hfree hc hmove

/-- A CIS is ended by a disconnection: along the diagram if it was connected, early if not. -/
theorem ended_handleStep {os} (hfree : ¬ s.IsQueued h)
    (hc : s.cisConnections[h]? = some c) (hobs : os = if h = k then [.disconnected] else [])
    (hact : s'.activity k = if h = k then .idle else s.activity k)
    (hearly : c.state ≠ .connected → h = k → EndsEarly s k input) :
    HandleStep (s.activity k) os (s'.activity k) ∨
      (EndsEarly s k input ∧ s.activity k ≠ .connected ∧ os = [.disconnected] ∧
        s'.activity k = .idle) := by
  by_cases hst : c.state = .connected
  · rw [hobs, hact]
    refine Or.inl (handleStep_entry hfree hc ?_)
    rw [hst]
    exact .disconnect
  by_cases hk : h = k
  · rw [if_pos hk] at hobs hact
    refine Or.inr ⟨hearly hst hk, ?_, hobs, hact⟩
    rw [← hk, activity_of_entry hfree hc]
    revert hst
    cases c.state <;> decide
  · rw [hobs, hact, if_neg hk, if_neg hk]
    exact Or.inl (.none _)

/-- **A step moves every handle along the diagram, or ends a CIS that is not connected by a
disconnection.** -/
theorem handle_step (hs : Coherent s) (hq : QueueOk s)
    (hsafe : s.keepsQueued (env, input) = true) (he : Effect env s input s' out) (k : UInt16) :
    HandleStep (s.activity k) (obs k ((env, input), out)) (s'.activity k) ∨
      (EndsEarly s k input ∧ s.activity k ≠ .connected ∧
        obs k ((env, input), out) = [.disconnected] ∧ s'.activity k = .idle) := by
  cases he with
  | @refused cmd e _ hans hne =>
    refine Or.inl (handleStep_none ?_ rfl)
    have hfail : succeeded [.hci e] = false := by
      unfold succeeded
      simpa [hans] using hne
    have hcmd : obsCommand k (.hci cmd) [.hci e] = [] := by
      unfold obsCommand
      rw [hfail]
      split <;> simp
    simp [obs, hcmd, obsOutput_of_answer hans]
  | configured hcmd hans _ hconf =>
    refine Or.inl (handleStep_none ?_ (configureCig_activity hconf))
    simp [obs, obsCommand_of_startsCis hcmd, obsOutput_of_answer hans]
  | removedCig _ hactive => exact Or.inl (handleStep_none rfl (dropCig_activity hactive))
  | created hchk hemp _ hstr => exact Or.inl (created_handleStep hchk hemp hstr)
  | @accepted p _ a hc _ hst =>
    refine Or.inl
      (modified_handleStep (l := [.accepted]) (hq.not_queued hc (by rw [hst]; decide)) hc ?_ ?_)
    · show (if p.connectionHandle = k ∧ true = true then _ else _) ++ [] = _
      simp
    · rw [hst]
      exact .accept
  | @rejected _ _ _ _ hc _ hst =>
    have hfree := hq.not_queued hc (by rw [hst]; decide)
    refine Or.inl (handleStep_none rfl ?_)
    rw [removeCis_activity hfree]
    split
    · rename_i hk
      rw [← hk, activity_of_entry hfree hc, hst]
      rfl
    · rfl
  | dataPath hcmd hans hf =>
    refine Or.inl (handleStep_none ?_ (dataPath_activity fun c => by rw [hf c]))
    simp [obs, obsCommand_of_startsCis hcmd, obsOutput_of_answer hans]
  | @broadcast _ _ _ _ hcmd hes =>
    refine Or.inl (handleStep_none ?_ rfl)
    unfold obs
    rw [obsCommand_of_startsCis hcmd, List.nil_append, List.filterMap_eq_nil_iff]
    intro o ho
    obtain ⟨e, he, rfl⟩ := List.mem_map.mp ho
    exact obsOutput_of_aboutCis (hes e he)
  | @disconnected p c a hc hst =>
    have hfree := hq.not_queued hc (by rcases hst with h | h <;> rw [h] <;> decide)
    have hact : (s.endCis p.connectionHandle c).activity k =
        if p.connectionHandle = k then .idle else s.activity k := by
      unfold endCis
      split
      · exact modifyCis_activity hc hfree
      · exact removeCis_activity hfree
    refine ended_handleStep hfree hc filterMap_disconnected hact ?_
    intro hne hk
    exact .disconnect hk (hk ▸ hc) (hst.resolve_left hne)
  | linkAdded | skipped => exact Or.inl (handleStep_none rfl rfl)
  | linkLost =>
    by_cases hk : s.IsQueued k
    · exact Or.inl (linkLost_queued hs hq hk)
    · exact Or.inl (linkLost_notQueued hs hq hk)
  | requestReceived hnew =>
    exact Or.inl (handleStep_none rfl (requestReceived_activity hnew))
  | established hc haw _ hev hstr =>
    obtain ⟨-, -, hst⟩ := awaitsRsp_iff.mp haw
    obtain ⟨hh, hstat⟩ := establishedCentral_ok _ hev
    rw [hstr.activity]
    refine Or.inl (modified_handleStep (hq.not_queued hc (by rw [hst]; decide)) hc
      (filterMap_established hh hstr.obsOutput) ?_)
    rw [hst, hstat]
    exact .establish (Or.inl rfl)
  | failed hc haw _ hstr =>
    obtain ⟨-, -, hst⟩ := awaitsRsp_iff.mp haw
    rw [hstr.activity]
    refine Or.inl (modified_handleStep (hq.not_queued hc (by rw [hst]; decide)) hc
      (filterMap_established rfl hstr.obsOutput) ?_)
    rw [hst]
    exact .fail _ (Or.inl rfl)
  | confirmed hc haw _ hev =>
    obtain ⟨-, -, hst⟩ := awaitsInd_iff.mp haw
    obtain ⟨hh, hstat⟩ := establishedPeripheral_ok _ hev
    refine Or.inl
      (modified_handleStep (hq.not_queued hc (by rw [hst]; decide)) hc
      (filterMap_established hh rfl) ?_)
    rw [hst, hstat]
    exact .establish (Or.inr rfl)
  | @terminated _ _ _ _ _ hc hterm =>
    have hfree := not_queued_of_terminates hsafe hc hterm
    refine ended_handleStep hfree hc filterMap_disconnected (removeCis_activity hfree) ?_
    rintro hne rfl
    exact .terminate hc hterm hne

end activity

/-! ## Every request is reported once -/

/-- What was said about a handle in a run, in order. -/
def history (k : UInt16) (tr : List ((Env × Input) × List Output)) : List Obs := tr.flatMap (obs k)

theorem history_snoc (k : UInt16) (tr : List ((Env × Input) × List Output))
    (step : (Env × Input) × List Output) : history k
    (tr ++ [step]) = history k tr ++ obs k step := by
  simp [history]

/-- The observation is a request for a CIS. -/
def Obs.isRequest : Obs → Bool
  | .created | .accepted => true
  | _ => false

/-- Which observation may come after the last one: a request unless one is open, LE CIS Established
right after a request and only there, and Disconnection Complete right after an LE CIS Established
with status Success and only there. -/
def Obs.follows (last : Option Obs) : Obs → Bool
  | .created | .accepted => !last.any isRequest
  | .established _ => last.any isRequest
  | .disconnected => last == some (.established .success)

/-- Each observation may come after the one before it. -/
def reported (last : Option Obs) : List Obs → Bool
  | [] => true
  | o :: os => o.follows last && reported (some o) os

theorem reported_append (last : Option Obs) (os os' : List Obs) :
    reported last (os ++ os') = (reported last os && reported (os.getLast?.or last) os') := by
  induction os generalizing last with
  | nil => rfl
  | cons _ os ih =>
    rw [List.cons_append, reported, reported, ih, Bool.and_assoc]
    cases os with
    | nil => rfl
    | cons =>
      rfl

/-- The input does not end a CIS that is not connected by a disconnection, nor takes away what a
queued request points to. It may still end the CIS in flight with its link, after which a request
that is queued on another link waits until the next answer, and for ever if there is none
(`keepsInFlight`). -/
def endsOnlyConnected (s : IsoManager) (i : Env × Input) : Bool :=
  s.keepsQueued i &&
    match i.2 with
    | .hci (.disconnect p) =>
      !(s.cisConnections[p.connectionHandle]?).any fun c => c.state == .pendingRsp
    | .llcp a (.cisTerminateInd q) =>
      !s.cisConnections.any fun _ c => terminates a q c && c.state != .connected
    | _ => true

theorem not_endsEarly {s env input k} (hends : s.endsOnlyConnected (env, input) = true) :
    ¬ EndsEarly s k input := by
  intro hearly
  cases hearly with
  | @disconnect _ _ hk hc hst =>
    simp [endsOnlyConnected, hk, hc, hst] at hends
  | @terminate _ _ c hc hterm hst =>
    obtain ⟨-, hall⟩ := Bool.and_eq_true_iff.mp hends
    have hone := HashMap.any_eq_false.mp ((Bool.not_eq_true' _).mp hall) k c hc
    rw [hterm] at hone
    exact hst (by simpa using hone)

/-- What the last observation about a handle says of where it stands. -/
structure Agrees (last : Option Obs) (a : Activity) : Prop where
  open_iff : last.any Obs.isRequest = true ↔ a = .creating ∨ a = .accepted
  connected : a = .connected → last = some (.established .success)

/-- A move along the diagram is reported as it should, and the agreement goes on. -/
theorem HandleStep.reported {a a' os last} (h : HandleStep a os a') (hagrees : Agrees last a) :
    reported last os = true ∧ Agrees (os.getLast?.or last) a' := by
  obtain ⟨hopen, hconn⟩ := hagrees
  cases h with
  | none => exact ⟨rfl, hopen, hconn⟩
  | create =>
    refine ⟨?_, ⟨fun _ => Or.inl rfl, fun _ => rfl⟩, nofun⟩
    simpa [IsoManager.reported, Obs.follows] using hopen
  | accept =>
    refine ⟨?_, ⟨fun _ => Or.inr rfl, fun _ => rfl⟩, nofun⟩
    simpa [IsoManager.reported, Obs.follows] using hopen
  | establish ha =>
    refine ⟨?_, ⟨nofun, by simp⟩, fun _ => rfl⟩
    simpa [IsoManager.reported, Obs.follows] using hopen.mpr ha
  | fail _ ha =>
    refine ⟨?_, ⟨nofun, by simp⟩, nofun⟩
    simpa [IsoManager.reported, Obs.follows] using hopen.mpr ha
  | disconnect =>
    refine ⟨?_, ⟨nofun, by simp⟩, nofun⟩
    simpa [IsoManager.reported, Obs.follows] using hconn rfl

/-- At first nothing was said and every handle is idle. -/
theorem agrees_new (k : UInt16) : Agrees (history k []).getLast? (new.activity k) := by
  have hidle : new.activity k = .idle := rfl
  rw [hidle]
  exact ⟨⟨nofun, by simp⟩, nofun⟩

/-- **Every request is reported once, and only connected CISes are disconnected**, in every run
whose inputs do not end a CIS that is not connected: what is said about a handle obeys
`Obs.follows`, and a request is open exactly while the CIS is queued, requested or accepted. -/
theorem every_request_reported_once {tr : List ((Env × Input) × List Output)} {s : IsoManager}
    (h : isoManager.Run (fun s i => s.endsOnlyConnected i) new tr s) (k : UInt16) :
    reported none (history k tr) = true ∧ ((history k tr).getLast?.any Obs.isRequest = true ↔
        s.activity k = .creating ∨ s.activity k = .accepted) := by
  have hinv : (Coherent s ∧ QueueOk s) ∧ reported none (history k tr) = true ∧
      Agrees (history k tr).getLast? (s.activity k) := by
    refine h.invariant_trace (fun tr s => (Coherent s ∧ QueueOk s) ∧
      reported none (history k tr) = true ∧ Agrees (history k tr).getLast? (s.activity k))
      ⟨⟨coherent_new, queueOk_new⟩, rfl, agrees_new k⟩ ?_
    rintro tr s ⟨env, input⟩ s' out ⟨⟨hs, hq⟩, hrep, hagrees⟩ hends hstep
    have hsafe := (Bool.and_eq_true_iff.mp hends).1
    have he := effect_of_step hstep
    refine ⟨⟨hs.step he, hq.step hs hsafe he⟩, ?_⟩
    have hmove := (handle_step hs hq hsafe he k).resolve_right fun hearly =>
        not_endsEarly hends hearly.1
    obtain ⟨hnow, hnext⟩ := hmove.reported hagrees
    rw [history_snoc, reported_append, hrep, Option.or_none, List.getLast?_append]
    exact ⟨hnow, hnext⟩
  exact ⟨hinv.2.1, hinv.2.2.open_iff⟩

theorem every_request_reported_once_after_disconnect : ∃ tr s,
    isoManager.Run (fun s i => s.endsOnlyConnected i) new tr s ∧
      history 0xe00 tr = [.created, .established .success, .disconnected] ∧
      history 0xe01 tr = [.created] ∧ reported none (history 0xe01 tr) = true ∧
      (s.activity 0xe01 = .creating ∨ s.activity 0xe01 = .accepted) := by
  have hx : isoManager.ExecTo (fun tr _ =>
      history 0xe00 tr = [.created, .established .success, .disconnected] ∧
      history 0xe01 tr = [.created]) new
      [linkUp, configureCommand 1 [1, 2], createCommand [0xe00, 0xe01], responseReceived,
        disconnectCommand 0xe00] := by
    decide +kernel
  obtain ⟨tr, s, hrun, hone, htwo⟩ :=
    isoManager.exists_run (C := fun s i => s.endsOnlyConnected i) (by decide +kernel) hx
  obtain ⟨hrep, hopen⟩ := every_request_reported_once hrun 0xe01
  exact ⟨tr, s, hrun, hone, htwo, hrep, hopen.mp (by rw [htwo]; rfl)⟩

/-- The host disconnects a CIS the peer has not answered for: Disconnection Complete comes without
an LE CIS Established, which never comes. -/
theorem disconnected_before_established : ∃ tr s, isoManager.Run (fun _ _ => True) new tr s ∧
    history 0xe00 tr = [.created, .disconnected] ∧ reported none (history 0xe00 tr) = false ∧
    s.activity 0xe00 = .idle := by
  refine isoManager.exists_run (show isoManager.Meets _ _
    [linkUp, configureCommand 1 [1], createCommand [0xe00], disconnectCommand 0xe00] from ?_) ?_
  · decide +kernel
  · decide +kernel

end IsoManager

end RootCanal.Iso
