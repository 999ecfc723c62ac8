import RootCanal.BrEdr.Registration

/-!
# The page that waits for the host

A page is reported to the host, which accepts or rejects it; meanwhile no other page is reported.
`pendingRequest` says from the trace which request the host has been told of and has not answered.

`page_scan_` should be set exactly for that request.  Two answers leave it set: a rejection, and the
acceptance of a page whose peer has connected by answering a page of this side.  **`scan_pending`:
with neither, `page_scan_` is the pending request, and once it is answered the next page is
reported.**  After a rejection no page is reported any more (`rejection_blocks_pages`).

Source: `bredr_controller.cc` `AcceptConnectionRequest`, `RejectConnectionRequest`,
`RejectPeripheralConnection`
-/

namespace RootCanal.BrEdr

open Lib RootCanal.Hci

/-! ## The pending request -/

/-- The request that an action answers. -/
def Action.answers : Action → Option Address
  | .command (.acceptConnectionRequest bdAddr _)
  | .command (.rejectConnectionRequest bdAddr _) => some bdAddr
  | _ => none

/-- The action resets the controller. -/
def Action.resets : Action → Bool
  | .command .reset => true
  | _ => false

/-- The pending request after one more step: a report makes one, a successful answer to it and a
reset end it. -/
def pendingAfter (pending : Option Address) (i : Input) (out : List Output) : Option Address :=
  match out.findSome? Output.pageRequest? with
  | some bdAddr => some bdAddr
  | none =>
    if i.action.resets then none
    else if out = [.status .success] then pending.filter fun a => i.action.answers ≠ some a
    else pending

/-- The request that was reported to the host last, unless the host has answered it. -/
def pendingRequest (tr : List (Input × List Output)) : Option Address :=
  tr.foldl (fun pending step => pendingAfter pending step.1 step.2) none

/-- The last step of a trace changes what is pending. -/
theorem pendingRequest_snoc (tr : List (Input × List Output)) (i : Input) (out : List Output) :
    pendingRequest (tr ++ [(i, out)]) = pendingAfter (pendingRequest tr) i out := by
  simp [pendingRequest]

/-- Nothing unreported is a request. -/
theorem Unreported.findSome? {out} (h : Unreported out) :
    out.findSome? Output.pageRequest? = none := by
  refine List.findSome?_eq_none_iff.mpr fun o ho => ?_
  cases o with
  | event => exact Option.isNone_iff_eq_none.mp (h _ ho)
  | status | remote => rfl

/-! ## What is scheduled -/

/-- No event that reports a page is scheduled: such events are sent at once. -/
def NoneScheduled (ts : List Task) : Prop :=
  ∀ event, Task.event event ∈ ts → event.pageRequest? = none

/-- Minor tasks hold no request. -/
theorem Minor.noneScheduled {ts} (h : Minor ts) : NoneScheduled ts :=
  fun _ hmem => Option.isNone_iff_eq_none.mp (h _ hmem)

/-- No request in either part. -/
theorem NoneScheduled.append {ts ts'} (h : NoneScheduled ts) (h' : NoneScheduled ts') :
    NoneScheduled (ts ++ ts') :=
  fun event hmem => (List.mem_append.mp hmem).elim (h event) (h' event)

/-- A packet is no request. -/
theorem noneScheduled_send (packet : Packet) : NoneScheduled [.send packet] := by
  intro event hmem
  cases List.mem_singleton.mp hmem

namespace BrEdrController

variable {s s' : BrEdrController} {i : Input} {out : List Output}

/-- The address of the page that waits for the host. -/
def scanAddress (s : BrEdrController) : Option Address := s.pageScan.map PageScanState.bdAddr

/-- The answer leaves no page waiting: it is not a rejection, and there is no connection with the
peer yet. -/
def clearsScan (s : BrEdrController) : Action → Bool
  | .command (.rejectConnectionRequest bdAddr _) => (s.connections.scanFor bdAddr).isNone
  | .command (.acceptConnectionRequest bdAddr _) =>
    (s.connections.scanFor bdAddr).isNone || (s.connections.link bdAddr).isNone
  | _ => true

/-! ## The invariant -/

/-- Whatever a step schedules, it does not report a page. -/
theorem Effect.noneScheduled (he : Effect s i s' out) (hs : NoneScheduled s.tasks) :
    NoneScheduled s'.tasks := by
  cases he with
  | quiet hq =>
    obtain ⟨ts, hch, hmin⟩ := hq
    rw [hch.tasks]
    exact hs.append hmin.noneScheduled
  | noTask | collided | created | turnedDown | scanned | policy => exact hs
  | sent _ hts | reported _ hts =>
    intro event hmem
    refine hs event ?_
    rw [hts]
    exact List.mem_cons_of_mem _ hmem
  | refused _ hts =>
    refine NoneScheduled.append ?_ (noneScheduled_send _)
    intro event hmem
    refine hs event ?_
    rw [hts]
    exact List.mem_cons_of_mem _ hmem
  | accepted _ _ _ _ _ hmin hch =>
    rw [hch.tasks]
    exact hs.append (hmin.noneScheduled.append (noneScheduled_send _))
  | rejected =>
    refine hs.append ?_
    intro event hmem
    cases List.mem_singleton.mp hmem
  | paged _ _ hch =>
    rw [hch.tasks]
    exact hs.append (noneScheduled_send _)
  | gaveUp _ _ hch hmin | dropped _ _ _ _ _ _ hmin hch | answered _ _ _ _ _ hmin hch =>
    rw [hch.tasks]
    exact hs.append hmin.noneScheduled
  | masked => exact hs.append (noneScheduled_send _)
  | connected _ _ _ _ _ _ _ hch =>
    rw [hch.tasks, List.append_nil]
    exact hs
  | released _ _ _ hmin hmin' hch =>
    rw [hch.tasks, List.append_cons]
    exact hs.append ((hmin.noneScheduled.append (noneScheduled_send _)).append hmin'.noneScheduled)
  | switched _ _ _ _ _ hmin hch =>
    rw [hch.tasks]
    exact hs.append (NoneScheduled.append (noneScheduled_send _) hmin.noneScheduled)
  | reset =>
    refine (hs.append ?_).append ?_
    all_goals
      intro event hmem
      obtain ⟨connection, -, h⟩ := List.mem_map.mp hmem
      cases h

/-- A step that answers no request leaves the pending one. -/
theorem pendingAfter_of_unreported {pending} (hout : out.findSome? Output.pageRequest? = none)
    (hres : i.action.resets = false) (hans : ∀ a ∈ pending, i.action.answers ≠ some a) :
    pendingAfter pending i out = pending := by
  have hkept : (pending.filter fun a => i.action.answers ≠ some a) = pending := by
    cases pending with
    | none => rfl
    | some a => simpa using hans a rfl
  unfold pendingAfter
  rw [hout, hkept, hres]
  simp

/-- A page that does not wait is not the one that waits. -/
theorem scanAddress_ne {bdAddr} (h : s.connections.scanFor bdAddr = none) :
    ∀ a ∈ s.scanAddress, some bdAddr ≠ some a := by
  intro a ha heq
  obtain ⟨scan, hscan, rfl⟩ := Option.map_eq_some_iff.mp ha
  exact Option.filter_eq_none_iff.mp h scan hscan (decide_eq_true (Option.some.inj heq).symm)

/-- An idle step leaves what is pending. -/
theorem pendingAfter_of_idle (hidle : Idle s i.action) (hout : Unreported out) :
    pendingAfter s.scanAddress i out = s.scanAddress := by
  refine pendingAfter_of_unreported hout.findSome? ?_ ?_
  · unfold Action.resets
    split
    · rename_i hact
      rw [hact] at hidle
      exact hidle.elim
    · rfl
  · unfold Action.answers
    split
    · rename_i hact
      rw [hact] at hidle
      exact scanAddress_ne hidle
    · rename_i hact
      rw [hact] at hidle
      exact scanAddress_ne hidle
    · nofun

/-- What one step makes of the page that waits, when no answer leaves it waiting. -/
theorem Effect.scanAddress_eq (he : Effect s i s' out) (hi : s.clearsScan i.action = true)
    (hs : NoneScheduled s.tasks) : s'.scanAddress = pendingAfter s.scanAddress i out := by
  -- a step that is about something else
  have hoth : ∀ {a : Action}, i.action = a → out.findSome? Output.pageRequest? = none →
      a.resets = false → a.answers = none → s.scanAddress = pendingAfter s.scanAddress i out := by
    rintro a rfl hout hres hans
    refine (pendingAfter_of_unreported hout hres ?_).symm
    rw [hans]
    nofun
  have hscan : ∀ {k ts}, Change s s' k ts → s'.scanAddress = k.pageScan.map PageScanState.bdAddr :=
    fun hch => congrArg (fun k => k.pageScan.map PageScanState.bdAddr) hch.connections
  cases he with
  | quiet hq hout hidle =>
    obtain ⟨ts, hch, -⟩ := hq
    rw [hscan hch, pendingAfter_of_idle hidle hout]
    rfl
  | noTask hact | sent hact | created hact | masked hact | policy hact =>
    exact hoth hact rfl rfl rfl
  | reported hact hts =>
    refine hoth hact (unreported_event (hs _ ?_)).findSome? rfl rfl
    rw [hts]
    exact List.mem_cons_self ..
  | refused hact _ hout | turnedDown hact _ _ _ _ hout => exact hoth hact hout.findSome? rfl rfl
  | collided hact hscanFor hl =>
    rw [hact] at hi
    simp [clearsScan, hscanFor, hl] at hi
  | accepted hact hpageScan _ _ _ _ hch =>
    rw [hscan hch]
    unfold pendingAfter scanAddress
    rw [hact, hpageScan]
    simp [Output.pageRequest?, Action.resets, Action.answers, Option.filter]
  | rejected hact hpageScan =>
    rw [hact] at hi
    simp [clearsScan, Connections.scanFor, connections, hpageScan] at hi
  | paged hact _ hch | dropped hact _ _ _ _ _ _ hch | switched hact _ _ _ _ _ hch
  | answered hact _ _ _ _ _ hch =>
    exact (hscan hch).trans (hoth hact rfl rfl rfl)
  | gaveUp hgive _ hch _ hout =>
    refine (hscan hch).trans ?_
    rcases hgive with hact | ⟨hact, -⟩
    · exact hoth hact hout.findSome? rfl rfl
    · exact hoth hact hout.findSome? rfl rfl
  | scanned => rfl
  | connected hact _ _ _ _ _ _ hch hout =>
    exact (hscan hch).trans (hoth hact hout.findSome? rfl rfl)
  | released hclose _ _ _ _ hch hout =>
    refine (hscan hch).trans ?_
    rcases hclose with ⟨reason, hact⟩ | hact
    · exact hoth hact hout.findSome? rfl rfl
    · exact hoth hact hout.findSome? rfl rfl
  | reset hact =>
    unfold pendingAfter
    rw [hact]
    rfl

/-- **The page that waits is the request that is pending**. -/
theorem run_scanAddress {own tr}
    (h : machine.Run (fun s i => s.clearsScan i.action = true) (new own) tr s) :
    NoneScheduled s.tasks ∧ s.scanAddress = pendingRequest tr := by
  refine h.invariant_trace (fun tr s => NoneScheduled s.tasks ∧ s.scanAddress = pendingRequest tr)
    ⟨fun _ hmem => absurd hmem List.not_mem_nil, rfl⟩ ?_
  rintro tr s i s' out ⟨hs, hscan⟩ hi hstep
  have he := effect_of_step hstep
  refine ⟨he.noneScheduled hs, ?_⟩
  rw [he.scanAddress_eq hi hs, pendingRequest_snoc, hscan]

/-- A page is reported when none waits for the host. -/
theorem step_page_reported {env packet classOfDevice} {allow : Bool}
    (hb : packet.body = .page classOfDevice allow) (hrch : Reaches s.address packet)
    (hena : s.pageScanEnable = true) (hmask : s.isEventUnmasked .connectionRequest = true)
    (hl : s.connections.link packet.sourceAddress = none) (hscan : s.pageScan = none) :
    ∃ s', machine.step s ⟨env, .packet packet⟩ =
      .ok (s', [.event (.connectionRequest packet.sourceAddress classOfDevice .acl)]) := by
  rw [step_reaching env hrch, hb]
  unfold receive incomingPage
  simp [hena, hmask, hscan, link_eq_none.mpr hl]

/-- **The page that waits is the pending request, and when there is none the next page is
reported.** -/
theorem scan_pending {own : Address} {tr : List (Input × List Output)}
    (h : machine.Run (fun s i => s.clearsScan i.action = true) (new own) tr s) :
    s.pageScan.map PageScanState.bdAddr = pendingRequest tr ∧
      (pendingRequest tr = none → s.pageScanEnable = true →
        s.isEventUnmasked .connectionRequest = true →
        ∀ (env : Env) (packet : Packet) (classOfDevice : UInt32) (allow : Bool),
          packet.body = .page classOfDevice allow → Reaches s.address packet →
          s.connections.link packet.sourceAddress = none →
            ∃ s', machine.step s ⟨env, .packet packet⟩ =
              .ok (s', [.event (.connectionRequest packet.sourceAddress classOfDevice .acl)])) := by
  obtain ⟨-, hscan⟩ := run_scanAddress h
  refine ⟨hscan, ?_⟩
  intro hn hena hmask env packet classOfDevice allow hb hrch hl
  rw [hn] at hscan
  exact step_page_reported hb hrch hena hmask hl (Option.map_eq_none_iff.mp hscan)

theorem scan_pending_accepted : ∃ tr s,
    machine.Run (fun s i => s.clearsScan i.action = true) (new 1) tr s ∧ pendingRequest tr = none ∧
      ∃ s', machine.step s (peerPages start 1 3) =
        .ok (s', [.event (.connectionRequest 3 0 .acl)]) := by
  have hx : machine.ExecTo (fun tr s => pendingRequest tr = none ∧ s.address = 1 ∧
      s.pageScanEnable = true ∧ s.isEventUnmasked .connectionRequest = true ∧
      (s.connections.link 3).isNone = true) (new 1)
      [hostScans start, peerPages start 1 2, hostAccepts start 2] := by
    decide +kernel
  obtain ⟨tr, s, hrun, hn, haddr, hena, hmask, hl⟩ :=
    machine.exists_run (C := fun s i => s.clearsScan i.action = true) (by decide +kernel) hx
  exact ⟨tr, s, hrun, hn, (scan_pending hrun).2 hn hena hmask start _ 0 true rfl
    (.inr haddr.symm) (Option.isNone_iff_eq_none.mp hl)⟩

/-- The host rejects the page of a peer. -/
def hostRejects (env : Env) (peer : Address) : Input :=
  ⟨env,
    .command (.rejectConnectionRequest peer ErrorCode.connectionRejectedLimitedResources.toUInt8)⟩

/-- After a rejection the page still waits, and the page of another peer is not reported. -/
theorem rejection_blocks_pages : ∃ tr s, machine.Run (fun _ _ => True) (new 1) tr s ∧
    pendingRequest tr = none ∧ s.pageScan ≠ none ∧ s.pageScanEnable = true ∧
      s.isEventUnmasked .connectionRequest = true ∧ s.connections.link 3 = none ∧
      ∃ s', machine.step s (peerPages start 1 3) = .ok (s', []) := by
  have hx : machine.ExecTo (fun tr s => pendingRequest tr = none ∧ s.pageScan ≠ none ∧
      s.pageScanEnable = true ∧ s.isEventUnmasked .connectionRequest = true ∧
      s.connections.link 3 = none ∧
      (machine.step s (peerPages start 1 3)).toOption.map Prod.snd = some []) (new 1)
      [hostScans start, peerPages start 1 2, hostRejects start 2] := by
    decide +kernel
  obtain ⟨tr, s, hrun, hn, hscan, hena, hmask, hl, hstep⟩ := machine.exists_free_run hx
  refine ⟨tr, s, hrun, hn, hscan, hena, hmask, hl, ?_⟩
  obtain ⟨⟨s', out⟩, hstep, rfl⟩ := Option.map_eq_some_iff.mp hstep
  exact ⟨s', toOption_eq_some.mp hstep⟩

end BrEdrController

end RootCanal.BrEdr
