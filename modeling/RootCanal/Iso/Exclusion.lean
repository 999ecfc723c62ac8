import RootCanal.Iso.Events

/-!
# One LE Create CIS at a time

The source answers an LE Create CIS with Command Disallowed while requests are queued, to keep a
second command out until every CIS of the first has been reported.  The request in flight is no
longer queued, so the last CIS of a command does not keep the next one out
(`two_requests_at_a_time`).

* `awaiting` tells from a trace which handles of an LE Create CIS are still to be reported.
* `Exclusive` ties the trace to the state: one CIS is in flight, and what is awaited is in flight
  or queued.
* **`one_request_at_a_time`: a second request is excluded in every run whose inputs meet
  `oneAtATime`.**
-/

namespace RootCanal.Iso

open Lib RootCanal.Hci RootCanal.Llcp

namespace IsoManager

/-- A handle listed in a successful LE Create CIS awaits its LE CIS Established event. -/
def awaits (awaited : Bool) : Obs → Bool
  | .created => true
  | .established _ => false
  | _ => awaited

/-- After this run, the handle awaits the LE CIS Established event of an LE Create CIS. -/
def awaiting (tr : List ((Env × Input) × List Output)) (k : UInt16) : Bool :=
  (history k tr).foldl awaits false

/-- While a request is in flight or queued, an LE Create CIS comes only when one is queued and
then with valid parameters; the CIS in flight is not ended by a disconnection or a termination;
and what a queued request points to is not taken away. -/
def oneAtATime (s : IsoManager) (i : Env × Input) : Bool :=
  s.keepsQueued i &&
    match i.2 with
    | .hci (.leCreateCis p) =>
      (!s.inFlight && s.cisConnectionRequests.isEmpty) ||
        (!s.cisConnectionRequests.isEmpty && (s.checkCisRequests p.cisConfig []).isOk)
    | .hci (.disconnect p) =>
      !(s.cisConnections[p.connectionHandle]?).any fun c => c.state == .pendingRsp
    | .llcp a (.cisTerminateInd q) =>
      !s.cisConnections.any fun _ c => terminates a q c && c.state == .pendingRsp
    | _ => true

/-- At most one CIS is in flight. -/
def OneInFlight (s : IsoManager) : Prop :=
  ∀ (k k' : UInt16) c c', s.cisConnections[k]? = some c → s.cisConnections[k']? = some c' →
    c.state = .pendingRsp → c'.state = .pendingRsp → k = k'

section exclusion

variable {env : Env} {s s' : IsoManager} {out : List Output} {input : Input} {k h : UInt16}
  {c : Cis}

/-- At most one CIS is in flight where each was so before. -/
theorem OneInFlight.of_entries (hone : OneInFlight s)
    (hback : ∀ (k : UInt16) c', s'.cisConnections[k]? = some c' → c'.state = .pendingRsp →
      ∃ c, s.cisConnections[k]? = some c ∧ c.state = .pendingRsp) : OneInFlight s' := by
  intro k k' c c' hc hc' hst hst'
  obtain ⟨c₀, hc₀, hst₀⟩ := hback k c hc hst
  obtain ⟨c₀', hc₀', hst₀'⟩ := hback k' c' hc' hst'
  exact hone k k' c₀ c₀' hc₀ hc₀' hst₀ hst₀'

/-- Taking the next request puts one CIS in flight where there was none. -/
theorem Started.oneInFlight (hstr : Started env s s' out)
    (hn : ∀ (k : UInt16) c, s.cisConnections[k]? = some c → c.state ≠ .pendingRsp) :
    OneInFlight s' := by
  cases hstr with
  | idle =>
    intro k k' c c' hc _ hst
    exact absurd hst (hn k c hc)
  | @sent r _ _ _ p c _ _ _ _ hc =>
    have honly : ∀ (k : UInt16) c', (s.startRequest r p).cisConnections[k]? = some c' →
        c'.state = .pendingRsp → r.cisConnectionHandle = k := by
      intro k c' hc' hst
      rw [startRequest_getElem?] at hc'
      split at hc'
      · assumption
      · exact absurd hst (hn k c' hc')
    intro k k' c c' hc hc' hst hst'
    rw [← honly k c hc hst, honly k' c' hc' hst']

/-- What is in flight up to the start of the next request was so before. -/
theorem Passed.inFlight {s₁ next c'} (hp : Passed s input next s₁)
    (hc' : s₁.cisConnections[k]? = some c')
    (hst : c'.state = .pendingRsp) : ∃ c, s.cisConnections[k]? = some c ∧
      c.state = .pendingRsp := by
  have hfate := hp.entry k
  rw [hc'] at hfate
  generalize ho : s.cisConnections[k]? = o at hfate
  cases hfate with
  | same => exact ⟨c', rfl, hst⟩
  | dataPath => exact ⟨_, rfl, hst⟩
  | configured | requested | accepted | established | failed | confirmed => cases hst
  | disconnected _ _ _ ho | unlinked _ _ ho =>
    split at ho
    · cases ho
      cases hst
    · cases ho

theorem OneInFlight.step (hone : OneInFlight s) (hat : s.oneAtATime (env, input) = true)
    (he : Effect env s input s' out) : OneInFlight s' := by
  rcases he.passed with hp | ⟨s₁, _, hp, hnext, hstr⟩
  · exact hone.of_entries fun k c' => hp.inFlight
  · refine hstr.oneInFlight fun k c' hc' hst => ?_
    obtain ⟨c, hc, hst'⟩ := hp.inFlight hc' hst
    rcases hnext with ⟨p, rfl, hemp, -⟩ | ⟨h, c₀, hc₀, hst₀, hleft⟩
    · have hcond := (Bool.and_eq_true_iff.mp hat).2
      have hn : s.inFlight = false := by simpa [hemp] using hcond
      exact inFlight_eq_false.mp hn k c hc hst'
    · obtain rfl : h = k := hone h k c₀ c hc₀ hc hst₀ hst'
      exact hleft c' hc' hst

/-- A move along the diagram keeps a handle awaited exactly while it is being created. -/
theorem HandleStep.awaits {a a' os} {b : Bool} (hmove : HandleStep a os a')
    (hb : b = true ↔ a = .creating) : os.foldl awaits b = true ↔ a' = .creating := by
  cases hmove with
  | none => exact hb
  | create => exact ⟨fun _ => rfl, fun _ => rfl⟩
  | accept | disconnect =>
    have hf : b = false := by simpa using hb
    rw [hf]
    decide
  | establish | fail => exact ⟨nofun, nofun⟩

/-- Under the condition, a CIS that ends early was not being created. -/
theorem EndsEarly.not_creating (hearly : EndsEarly s k input)
    (hat : s.oneAtATime (env, input) = true) : s.activity k ≠ .creating := by
  obtain ⟨hsafe, hcond⟩ := Bool.and_eq_true_iff.mp hat
  cases hearly with
  | @disconnect _ _ hk hc hst => simp [hk, hc, hst] at hcond
  | @terminate _ _ c hc hterm =>
    have hone := HashMap.any_eq_false.mp ((Bool.not_eq_true' _).mp hcond) k c hc
    rw [hterm] at hone
    have hnot : c.state ≠ .pendingRsp := by simpa using hone
    rw [activity_of_entry (not_queued_of_terminates hsafe hc hterm) hc]
    revert hnot
    cases c.state <;> decide

end exclusion

/-- The LE Create CIS is answered with Command Disallowed when a request is queued. -/
theorem hciLeCreateCis_disallowed {env : Env} {s : IsoManager} {p : LeCreateCis}
    (hqu : s.cisConnectionRequests ≠ []) (hchk : (s.checkCisRequests p.cisConfig []).isOk) :
    s.hciLeCreateCis env p = .ok (s, [.hci (.leCreateCisStatus ⟨.commandDisallowed, 1⟩)]) := by
  unfold hciLeCreateCis
  cases hrs : s.checkCisRequests p.cisConfig [] with
  | error =>
    rw [hrs] at hchk
    cases hchk
  | ok =>
    simp only
    rw [if_pos hqu]
    rfl

/-- The invariant of the runs whose inputs meet `oneAtATime`: the queue is sound, at most one CIS is
in flight, and a handle is awaited exactly while it is being created. -/
structure Exclusive (tr : List ((Env × Input) × List Output)) (s : IsoManager) : Prop where
  coherent : Coherent s
  queue : QueueOk s
  one : OneInFlight s
  awaited : ∀ k, awaiting tr k = true ↔ s.activity k = .creating

theorem exclusive_new : Exclusive [] new where
  coherent := coherent_new
  queue := queueOk_new
  one _ _ _ _ hc := by cases hc
  awaited k := by
    have hidle : new.activity k = .idle := rfl
    exact ⟨nofun, nofun⟩

theorem Exclusive.step {tr s s' env input out} (hx : Exclusive tr s)
    (hat : s.oneAtATime (env, input) = true) (he : Effect env s input s' out) :
    Exclusive (tr ++ [((env, input), out)]) s' := by
  have hsafe := (Bool.and_eq_true_iff.mp hat).1
  refine ⟨hx.coherent.step he, hx.queue.step hx.coherent hsafe he, hx.one.step hat he, ?_⟩
  intro k
  unfold awaiting
  rw [history_snoc, List.foldl_append]
  rcases handle_step hx.coherent hx.queue hsafe he k with hmove | ⟨hearly, -, hobs, hidle⟩
  · exact hmove.awaits (hx.awaited k)
  · have hf : awaiting tr k = false := Bool.eq_false_of_not_eq_true fun hk =>
      hearly.not_creating hat ((hx.awaited k).mp hk)
    unfold awaiting at hf
    rw [hobs, hidle, hf]
    decide

/-- A handle is being created, so a request is in flight or queued. -/
theorem busy_of_creating {s : IsoManager} {k : UInt16} (hcreating : s.activity k = .creating) :
    ¬ (s.inFlight = false ∧ s.cisConnectionRequests = []) := by
  rintro ⟨hidle, hemp⟩
  have hfree : ¬ s.IsQueued k := by
    unfold IsQueued
    rw [hemp]
    exact List.not_mem_nil
  cases hc : s.cisConnections[k]? with
  | none =>
    rw [activity_of_none hfree hc] at hcreating
    cases hcreating
  | some c =>
    have hst := inFlight_eq_false.mp hidle k c hc
    rw [activity_of_entry hfree hc] at hcreating
    revert hcreating hst
    cases c.state <;> decide

/-- **At most one Central CIS is in flight, and an LE Create CIS received while an earlier one
awaits an LE CIS Established event is answered with Command Disallowed**, in every run whose inputs
meet `oneAtATime`. -/
theorem one_request_at_a_time {tr : List ((Env × Input) × List Output)} {s : IsoManager}
    (h : isoManager.Run (fun s i => s.oneAtATime i) new tr s) :
    (∀ (k k' : UInt16) c c', s.cisConnections[k]? = some c → s.cisConnections[k']? = some c' →
      c.role = .central → c'.role = .central → c.state = .pendingRsp → c'.state = .pendingRsp →
      k = k') ∧
    ∀ env p, s.oneAtATime (env, .hci (.leCreateCis p)) = true → (∃ k, awaiting tr k = true) →
      isoManager.step s (env, .hci (.leCreateCis p)) =
        .ok (s, [.hci (.leCreateCisStatus ⟨.commandDisallowed, 1⟩)]) := by
  have hx : Exclusive tr s := by
    refine h.invariant_trace Exclusive exclusive_new ?_
    rintro tr s ⟨env, input⟩ s' out hx hat hstep
    exact hx.step hat (effect_of_step hstep)
  refine ⟨fun k k' c c' hc hc' _ _ => hx.one k k' c c' hc hc', ?_⟩
  rintro env p hat ⟨k, hk⟩
  -- what is awaited is queued or in flight, so the first alternative of the condition is out
  have hbusy := busy_of_creating ((hx.awaited k).mp hk)
  have hcond := (Bool.and_eq_true_iff.mp hat).2
  simp only [Bool.or_eq_true, Bool.and_eq_true, Bool.not_eq_true', List.isEmpty_iff] at hcond
  obtain ⟨hqu, hchk⟩ := hcond.resolve_left hbusy
  exact hciLeCreateCis_disallowed (by simpa using hqu) hchk

theorem one_request_at_a_time_second_create : ∃ tr s,
    isoManager.Run (fun s i => s.oneAtATime i) new tr s ∧ awaiting tr 0xe01 = true ∧
      isoManager.step s (createCommand [0xe02]) =
        .ok (s, [.hci (.leCreateCisStatus ⟨.commandDisallowed, 1⟩)]) := by
  have hx : isoManager.ExecTo (fun tr s => awaiting tr 0xe01 = true ∧
      s.oneAtATime (createCommand [0xe02]) = true) new
      [linkUp, configureCommand 1 [1, 2, 3], createCommand [0xe00, 0xe01]] := by
    decide +kernel
  obtain ⟨tr, s, hrun, hawait, hat⟩ := isoManager.exists_run (C := fun s i => s.oneAtATime i)
    (by decide +kernel) hx
  exact ⟨tr, s, hrun, hawait, (one_request_at_a_time hrun).2 _ _ hat ⟨_, hawait⟩⟩

/-- With one CIS in flight and none queued, a second LE Create CIS succeeds and puts a second CIS in
flight. -/
theorem two_requests_at_a_time : ∃ tr s s' out, isoManager.Run (fun _ _ => True) new tr s ∧
    awaiting tr 0xe00 = true ∧ isoManager.step s (createCommand [0xe01]) = .ok (s', out) ∧
    succeeded out = true ∧
    (s'.cisConnections[(0xe00 : UInt16)]?).any (awaitsRsp 0x40) = true ∧
    (s'.cisConnections[(0xe01 : UInt16)]?).any (awaitsRsp 0x40) = true := by
  have hx : isoManager.ExecTo (fun tr s => awaiting tr 0xe00 = true ∧
      ∃ r ∈ (isoManager.step s (createCommand [0xe01])).toOption, succeeded r.2 = true ∧
        (r.1.cisConnections[(0xe00 : UInt16)]?).any (awaitsRsp 0x40) = true ∧
        (r.1.cisConnections[(0xe01 : UInt16)]?).any (awaitsRsp 0x40) = true) new
      [linkUp, configureCommand 1 [1, 2], createCommand [0xe00]] := by
    decide +kernel
  obtain ⟨tr, s, hrun, hawait, r, hr, hboth⟩ := isoManager.exists_free_run hx
  exact ⟨tr, s, r.1, r.2, hrun, hawait, toOption_eq_some.mp hr, hboth⟩

end IsoManager

end RootCanal.Iso
