import RootCanal.BrEdr.Registration

/-!
# The end of a connection attempt

An attempt to connect ends when the peer answers or rejects the page, when the host cancels it, or
when it times out; each end clears the page and reports it to the host.

* `Balanced`: what a step sends, schedules and leaves pending is what was pending, with the task it
  runs. `balanced_of_step`: every step of an undisturbed attempt is balanced.
* `reported_once`: an attempt is reported at most once, and exactly once when it is over and the
  tasks scheduled by then have run, whatever else the controller does in the meantime.
* **`one_completion`: while a link is free for each connection that is made, nothing that belongs to
  the attempt aborts the controller, and the attempt is reported once.**  The answer of an eighth
  peer finds no free link: the controller aborts and the attempt is never reported
  (`eighth_answer_aborts`).

A rejected page of the peer is reported with the handle `0xeff`, which is none of an ACL connection:
these reports are not of an attempt, and are not counted.

Source: `bredr_controller.cc`
-/

namespace RootCanal.BrEdr

open Lib RootCanal.Hci ConnectionHandle

/-! ## Reports and attempts -/

/-- The event reports the end of an attempt to connect to the peer. -/
def Event.reports (a : Address) : Event → Bool
  | .connectionComplete _ handle bdAddr .acl => handle ≠ 0xeff && bdAddr = a
  | _ => false

/-- The task reports the end of an attempt. -/
def Task.reports (a : Address) : Task → Bool
  | .event e => e.reports a
  | _ => false

/-- The output reports the end of an attempt. -/
def Output.reports (a : Address) : Output → Bool
  | .event e => e.reports a
  | _ => false

namespace BrEdrController

/-- The number of attempts to connect to the peer that are pending: one or none. -/
def pending (s : BrEdrController) (a : Address) : Nat := if s.page.any (·.bdAddr = a) then 1 else 0

/-- The number of reports that are scheduled. -/
def scheduled (s : BrEdrController) (a : Address) : Nat := s.tasks.countP (·.reports a)

/-- The controller is not reset, and the host neither accepts a connection of the peer nor starts
another attempt to connect to it. -/
def spares (a : Address) (s : BrEdrController) : Action → Bool
  | .command .reset => false
  | .command (.acceptConnectionRequest bdAddr _) => bdAddr ≠ a
  | .command (.createConnection bdAddr _) => bdAddr ≠ a || s.page.isSome
  | _ => true

/-- Nothing disturbs the attempt, and its report is not masked. -/
def Undisturbed (a : Address) (s : BrEdrController) (i : Input) : Prop :=
  s.isEventUnmasked .connectionComplete ∧ s.spares a i.action

instance Undisturbed.decidable (a : Address) (s : BrEdrController) (i : Input) :
    Decidable (Undisturbed a s i) :=
  inferInstanceAs (Decidable (_ ∧ _))

/-- The number of tasks that a step takes from the queue. -/
def taken (i : Input) : Nat := if i.action = .task then 1 else 0

/-- What a step sends, schedules and leaves pending is what was pending, with the task it runs. -/
structure Balanced (a : Address) (s : BrEdrController) (i : Input) (s' : BrEdrController)
    (out : List Output) : Prop where
  last : s.lastAclHandle ≤ kAclRangeEnd → s'.lastAclHandle ≤ kAclRangeEnd
  reports : s.lastAclHandle ≤ kAclRangeEnd → Undisturbed a s i →
    ∃ ts, s'.tasks = s.tasks.drop (taken i) ++ ts ∧
    ts.countP (·.reports a) + s'.pending a ≤ s.pending a ∧
    ts.countP (·.reports a) + out.countP (·.reports a) + s'.pending a =
      s.pending a + (s.tasks.take (taken i)).countP (·.reports a)

variable {s s' s'' : BrEdrController} {env : Env} {a bdAddr : Address} {handle : UInt16}

/-! ## What has nothing to do with an attempt -/

/-- The attempt is as before, and no report of it is scheduled. -/
structure Calm (a : Address) (s s' : BrEdrController) : Prop where
  pending : s'.pending a = s.pending a
  last : s.lastAclHandle ≤ kAclRangeEnd → s'.lastAclHandle ≤ kAclRangeEnd
  tasks : ∃ ts, s'.tasks = s.tasks ++ ts ∧ ts.countP (·.reports a) = 0

namespace Calm

theorem refl : Calm a s s := ⟨rfl, id, [], by simp, rfl⟩

variable (h : Calm a s s')
include h

/-- Two calm steps make one. -/
theorem trans (h' : Calm a s' s'') : Calm a s s'' := by
  obtain ⟨ts, htasks, hts⟩ := h.tasks
  obtain ⟨ts', htasks', hts'⟩ := h'.tasks
  refine ⟨h'.pending.trans h.pending, h'.last ∘ h.last, ts ++ ts', ?_, ?_⟩
  · rw [htasks', htasks, List.append_assoc]
  · rw [List.countP_append, hts, hts']

/-- The other fields may change. -/
theorem set (hpage : s''.pending a = s'.pending a) (hlast : s''.lastAclHandle = s'.lastAclHandle)
    (hts : s''.tasks = s'.tasks) : Calm a s s'' :=
  h.trans ⟨hpage, by rw [hlast]; exact id, [], by simp [hts], rfl⟩

/-- A task that reports nothing is scheduled. -/
theorem schedule {t} (ht : t.reports a = false) : Calm a s (s'.schedule t) :=
  h.trans ⟨rfl, id, [t], rfl, by simp [ht]⟩

/-- A packet is scheduled. -/
theorem send {source destination body} :
    Calm a s (s'.sendLinkLayerPacket source destination body) :=
  h.schedule rfl

/-- An event that reports nothing is scheduled. -/
theorem event {code event} (he : event.reports a = false) :
    Calm a s (s'.scheduleEvent code event) := by
  unfold scheduleEvent
  split
  · exact h.schedule he
  · exact h

/-- The end of a connection is reported. -/
theorem disconnected {reason} : Calm a s (s'.sendDisconnectionCompleteEvent handle reason) :=
  h.event rfl

/-- A synchronous connection is removed. -/
theorem removeSco : Calm a s (s'.removeScoConnection handle) := h.set rfl rfl rfl

/-- The page of another peer is given up. -/
theorem dropPage (hb : bdAddr ≠ a) :
    Calm a s
      { s' with page := s'.page.filter fun page => page.bdAddr ≠ bdAddr, pageScan := none } := by
  refine h.set ?_ rfl rfl
  unfold BrEdrController.pending
  cases s'.page with
  | none => rfl
  | some page =>
    by_cases hpage : page.bdAddr = a
    · simp [Option.filter, hpage, hb.symm]
    · by_cases hpage' : page.bdAddr = bdAddr <;> simp [Option.filter, hpage, hpage', hb]

/-- A connection gets another role. -/
theorem setRole {role} : Calm a s (s'.setRole handle role) := h.set rfl rfl rfl

end Calm

/-- The events of synchronous connections report no attempt. -/
theorem event_not_reports {e : Event} (h : e.synchronous) : e.reports a = false := by
  unfold Event.reports
  split
  · cases h
  · rfl

/-- The tasks of synchronous connections report no attempt. -/
theorem task_not_reports {t : Task} (h : t.synchronous) : t.reports a = false := by
  cases t with
  | event => exact event_not_reports h
  | _ => rfl

/-- What the handlers of synchronous connections do. -/
theorem ScoStep.calm {b : Option Address} (h : ScoStep s env b s') : Calm a s s' := by
  obtain ⟨table, last, ts, rfl, hts⟩ := h.same
  exact ⟨rfl, id, ts, rfl, List.countP_eq_zero.mpr
    fun t ht => by simp [task_not_reports (hts t ht)]⟩

/-- An ACL connection is removed. -/
theorem removeAcl_calm (h : Calm a s s') :
    Yields (s'.removeAclConnection env handle bdAddr) (Calm a s) :=
  .bind fun _ _ => .bind fun _ _ => .ok (h.set rfl rfl rfl)

/-- Closing a connection is calm, if it returns. -/
theorem disconnect_calm {r r'} : Yields (s.disconnect env handle r r') fun x => Calm a s x.1 := by
  unfold disconnect
  split
  · exact .ok Calm.refl.send.removeSco.disconnected
  · split
    · exact .ok .refl
    · exact .seq (removeAcl_calm (scoStep_disconnectSco (a := none) env _ r r').calm.send)
        fun _ h => .ok h.disconnected

/-! ## Commands -/

variable {i : Input} {out : List Output} {c : Command}

/-- A calm step that sends no report is balanced. -/
theorem Balanced.calm (hi : i.action ≠ .task) (h : Calm a s s')
    (hout : out.countP (·.reports a) = 0) : Balanced a s i s' out := by
  refine ⟨h.last, fun _ _ => ?_⟩
  obtain ⟨ts, htasks, hts⟩ := h.tasks
  have htk : taken i = 0 := if_neg hi
  refine ⟨ts, ?_, ?_, ?_⟩
  · rw [htasks, htk, List.drop_zero]
  · rw [hts, h.pending, Nat.zero_add]
  · rw [hts, hout, h.pending, htk]
    simp

/-- A calm command is balanced. -/
theorem Balanced.command {status} (hi : i.action = .command c) (h : Calm a s s') :
    Balanced a s i s' [.status status] :=
  .calm (by rw [hi]; nofun) h rfl

/-- The page is given up; its report is sent or scheduled. -/
theorem Balanced.ended {page ts} (hi : i.action ≠ .task) (hpage : s.page = some page)
    (hpage' : s'.page = none)
    (hlast : s.lastAclHandle ≤ kAclRangeEnd → s'.lastAclHandle ≤ kAclRangeEnd)
    (hts : s'.tasks = s.tasks ++ ts)
    (hreports : s.lastAclHandle ≤ kAclRangeEnd → s.isEventUnmasked .connectionComplete →
      ts.countP (·.reports a) + out.countP (·.reports a) = if page.bdAddr = a then 1 else 0) :
    Balanced a s i s' out := by
  refine ⟨hlast, fun hs hund => ?_⟩
  have hreports := hreports hs hund.1
  have htk : taken i = 0 := if_neg hi
  have hpre : s.pending a = if page.bdAddr = a then 1 else 0 := by
    unfold pending
    rw [hpage]
    simp
  have hpost : s'.pending a = 0 := by
    unfold pending
    rw [hpage']
    rfl
  refine ⟨ts, ?_, ?_, ?_⟩
  · rw [hts, htk, List.drop_zero]
  · rw [hpre, hpost, ← hreports]
    exact Nat.le_add_right _ _
  · rw [hreports, hpost, hpre, htk]
    simp

/-- The handle of a new connection is in the range of the ACL connections. -/
theorem handle_le {last} (hlast : s.lastAclHandle ≤ kAclRangeEnd)
    (h : getUnusedHandle s.aclConnections kAclRangeStart kAclRangeEnd s.lastAclHandle =
      .ok (handle, last)) :
    handle ≤ kAclRangeEnd := by
  obtain ⟨n, -, hh, -⟩ := search_ok h
  rw [← hh]
  cases n with
  | zero => exact hlast
  | succ =>
    rw [Function.iterate_succ_apply']
    exact next_le (by decide)

/-- Create Connection. -/
theorem balanced_createConnection {allow : Bool}
    (hi : i.action = .command (.createConnection bdAddr allow)) :
    Balanced a s i (s.createConnection env bdAddr allow).1
      [.status (s.createConnection env bdAddr allow).2] := by
  unfold createConnection
  split
  · exact .command hi .refl
  split
  · exact .command hi .refl
  split
  · exact .command hi .refl
  rename_i hpage _ _
  by_cases hb : bdAddr = a
  · refine ⟨id, fun _ hund => ?_⟩
    have hsp := hund.2
    rw [hi] at hsp
    exact absurd ((Bool.or_eq_true_iff.mp hsp).resolve_left (by simp [hb])) hpage
  · refine .command hi (Calm.refl.set ?_ rfl rfl)
    rw [pending, pending, Option.not_isSome_iff_eq_none.mp hpage]
    simp [hb]

/-- Create Connection Cancel: an attempt it ends is reported. -/
theorem balanced_createConnectionCancel
    (hi : i.action = .command (.createConnectionCancel bdAddr)) :
    Balanced a s i (s.createConnectionCancel bdAddr).1
      [.status (s.createConnectionCancel bdAddr).2] := by
  unfold createConnectionCancel
  split
  · rename_i hany
    obtain ⟨page, hpage, hb⟩ := (Option.any_eq_true ..).mp hany
    cases of_decide_eq_true hb
    unfold scheduleEvent
    split
    · refine .ended (by rw [hi]; nofun) hpage rfl id rfl fun _ _ => ?_
      simp [Task.reports, Event.reports, Output.reports]
    · rename_i hmasked
      exact .ended (by rw [hi]; nofun) hpage rfl id (List.append_nil _).symm fun _ h =>
        absurd h hmasked
  · exact .command hi .refl

/-- The connection with another peer is reported. -/
theorem calm_scheduleAccepted {role} (hb : bdAddr ≠ a) :
    Calm a s (s.scheduleAccepted bdAddr role handle) := by
  have hrep : (Event.connectionComplete ErrorCode.success.toUInt8 handle bdAddr .acl).reports a =
      false := by
    simp [Event.reports, hb]
  unfold scheduleAccepted
  split
  · exact (Calm.refl.event rfl).event hrep
  · exact Calm.refl.event hrep

/-- The page that waits is accepted. -/
theorem balanced_acceptPage {scan} {try_ : Bool}
    (hi : i.action = .command (.acceptConnectionRequest scan.bdAddr try_)) :
    Yields (s.acceptPage env scan try_) fun r => Balanced a s i r.1 [.status r.2] := by
  refine .ite (fun _ => .ok (.command hi .refl)) fun _ => .seq createAcl_ok ?_
  rintro _ ⟨handle, last, lm, hh, -, rfl⟩
  have hcreated : Calm a s (s.connected scan.bdAddr (acceptorRole scan try_) handle last lm) :=
    ⟨rfl, fun _ => search_last (by decide) hh, [], (List.append_nil _).symm, rfl⟩
  refine .ok ⟨fun hs => ?_, fun hs hund => ?_⟩
  · obtain ⟨ts, hevs, -⟩ := scheduleAccepted_eq
      (s := s.connected scan.bdAddr (acceptorRole scan try_) handle last lm)
      scan.bdAddr (acceptorRole scan try_) handle
    rw [hevs]
    exact hcreated.last hs
  · have hsp := hund.2
    rw [hi] at hsp
    have hb : scan.bdAddr ≠ a := of_decide_eq_true hsp
    exact (Balanced.command hi
      ((hcreated.trans (calm_scheduleAccepted hb)).send.dropPage hb)).reports hs hund

/-- Accept Connection Request. -/
theorem balanced_acceptConnectionRequest {try_ : Bool}
    (hi : i.action = .command (.acceptConnectionRequest bdAddr try_)) :
    Yields (s.acceptConnectionRequest env bdAddr try_) fun r =>
      Balanced a s i r.1 [.status r.2] := by
  unfold acceptConnectionRequest
  split
  · rename_i scan hscan
    obtain rfl : scan.bdAddr = bdAddr := of_decide_eq_true (Option.filter_eq_some_iff.mp hscan).2
    exact balanced_acceptPage hi
  · split
    · exact .ok (.command hi .refl)
    · rename_i hpend
      exact .seq (scoStep_acceptSco (a := none) env (mem_of_pendingSco hpend).1) fun _ h =>
        .ok (.command hi (h.event rfl).calm)

/-- **Commands are balanced**. -/
theorem balanced_command (hi : i.action = .command c) :
    Yields (s.command i.env c) fun r => Balanced a s i r.1 [.status r.2] := by
  have hcalm : ∀ {x : Except Panic (BrEdrController × ErrorCode)},
      Yields x (fun r => Calm a s r.1) →
      Yields x fun r => Balanced a s i r.1 [.status r.2] := fun h r hr => .command hi (h r hr)
  cases c with
  | createConnection => exact .ok (balanced_createConnection hi)
  | createConnectionCancel => exact .ok (balanced_createConnectionCancel hi)
  | acceptConnectionRequest => exact balanced_acceptConnectionRequest hi
  | disconnect => exact hcalm disconnect_calm
  | rejectConnectionRequest =>
    refine hcalm (.ok ?_)
    unfold rejectConnectionRequest
    split
    · exact Calm.refl.schedule rfl
    · exact .refl
  | addScoConnection | setupSynchronousConnection =>
    exact hcalm fun r hr => (scoStep_requestSco rfl r hr).calm
  | acceptSynchronousConnection =>
    exact hcalm fun r hr => (scoStep_acceptSynchronousConnection (a := none) r hr).calm
  | rejectSynchronousConnection =>
    exact hcalm fun r hr => (scoStep_rejectSynchronousConnection (a := none) r hr).calm
  | switchRole =>
    refine hcalm (.ok ?_)
    unfold switchRole
    split
    · exact .refl
    · split_ifs
      · exact .refl
      · exact Calm.refl.send
      · exact Calm.refl.event rfl
  | writeLinkPolicySettings =>
    refine hcalm (.ok ?_)
    unfold writeLinkPolicySettings
    split_ifs <;> exact Calm.refl.set rfl rfl rfl
  | writeDefaultLinkPolicySettings =>
    refine hcalm (.ok ?_)
    unfold writeDefaultLinkPolicySettings
    split_ifs <;> exact Calm.refl.set rfl rfl rfl
  | writeScanEnable | setEventMask | setClassOfDevice | setPageTimeout =>
    exact hcalm (.ok (Calm.refl.set rfl rfl rfl))
  | reset =>
    refine .ok ⟨fun _ => UInt16.zero_le, fun _ hund => ?_⟩
    have hsp := hund.2
    rw [hi] at hsp
    cases hsp

/-! ## Packets -/

/-- A page reject: an attempt it ends is reported. -/
theorem balanced_pageReject {packet reason} (hi : i.action = .packet packet) :
    Balanced a s i (s.incomingPageReject bdAddr reason).1
      (s.incomingPageReject bdAddr reason).2 := by
  have htask : i.action ≠ .task := by rw [hi]; nofun
  unfold incomingPageReject
  split
  · rename_i hany
    obtain ⟨page, hpage, hb⟩ := (Option.any_eq_true ..).mp hany
    cases of_decide_eq_true hb
    refine .ended htask hpage rfl id (List.append_nil _).symm fun _ hunmasked => ?_
    unfold sendEvent
    rw [if_pos hunmasked]
    simp [Event.reports, Output.reports]
  · exact .calm htask .refl rfl

/-- A page response: an attempt it ends is reported. -/
theorem balanced_pageResponse {packet} {try_ : Bool} (hi : i.action = .packet packet) :
    Yields (s.incomingPageResponse bdAddr try_) fun r => Balanced a s i r.1 r.2 := by
  have htask : i.action ≠ .task := by rw [hi]; nofun
  unfold incomingPageResponse
  split
  · exact .ok (.calm htask .refl rfl)
  · rename_i page hfil
    obtain ⟨hpage, hb⟩ := Option.filter_eq_some_iff.mp hfil
    cases of_decide_eq_true hb
    refine .seq createAcl_ok ?_
    rintro _ ⟨handle, last, lm, hh, -, rfl⟩
    refine .ok
      (.ended htask hpage rfl (fun _ => search_last (by decide) hh) (List.append_nil _).symm ?_)
    intro hs hunmasked
    have hne : handle ≠ 0xeff := by
      rintro rfl
      exact absurd (handle_le hs hh) (show ¬ (0xeff : UInt16) ≤ kAclRangeEnd by decide)
    have hunmasked' :
        (s.connected page.bdAddr (initiatorRole page try_) handle last lm).isEventUnmasked
        .connectionComplete := hunmasked
    have hr : ∀ {s : BrEdrController} {c : Prop} [Decidable c] {code status b role},
        (if c then s.sendEvent code (.roleChange status b role) else []).countP
          (·.reports a) = 0 := by
      intros
      unfold sendEvent
      split_ifs <;> rfl
    rw [List.countP_append, hr, sendEvent, if_pos hunmasked']
    simp [Event.reports, Output.reports, hne]

/-- **Packets are balanced**. -/
theorem balanced_receive {packet : Packet} {source destination : Address} {body : Body}
    (hi : i.action = .packet packet) :
    Yields (s.receive i.env source destination body) fun r => Balanced a s i r.1 r.2 := by
  have htask : i.action ≠ .task := by rw [hi]; nofun
  have hcalm : ∀ {s'}, Calm a s s' → Balanced a s i s' [] := fun h => .calm htask h rfl
  have hsync : ∀ {out : List Output}, (∀ o ∈ out, o.synchronous) →
      out.countP (·.reports a) = 0 := by
    refine fun h => List.countP_eq_zero.mpr fun o ho => ?_
    cases o with
    | event => simp [Output.reports, event_not_reports (h _ ho)]
    | _ => cases h _ ho
  cases body with
  | page =>
    refine .ok ?_
    unfold incomingPage
    split_ifs
    · exact hcalm .refl
    · exact hcalm Calm.refl.send
    · exact hcalm .refl
    · exact hcalm .refl
    · exact .calm htask (Calm.refl.set rfl rfl rfl) rfl
  | pageResponse => exact balanced_pageResponse hi
  | pageReject => exact .ok (balanced_pageReject hi)
  | disconnect =>
    refine .seq (Q := Calm a s) ?_ fun _ h => .ok (hcalm h)
    unfold incomingDisconnect
    split
    · exact .ok .refl
    · exact .seq (removeAcl_calm .refl) fun _ h => .ok h.disconnected
  | roleSwitchRequest =>
    refine .ok (hcalm ?_)
    unfold incomingRoleSwitchRequest
    split
    · exact .refl
    split
    · exact .refl
    split
    · exact Calm.refl.send
    · exact Calm.refl.send.setRole.event rfl
  | roleSwitchResponse =>
    refine .ok (hcalm ?_)
    unfold incomingRoleSwitchResponse
    split
    · exact .refl
    split
    · exact .refl
    · exact Calm.refl.setRole.event rfl
  | scoConnectionRequest =>
    exact fun r hr =>
      have h := scoStep_incomingScoConnectionRequest (a := some _) rfl r hr
      .calm htask h.1.calm (hsync h.2)
  | scoConnectionResponse =>
    exact fun r hr =>
      have h := scoStep_incomingScoConnectionResponse (a := none) r hr
      .calm htask h.1.calm (hsync h.2)
  | scoDisconnect => exact .ok (hcalm (scoStep_incomingScoDisconnect (a := none)).calm)
  | pingRequest => exact .ok (hcalm Calm.refl.send)
  | pingResponse => exact .ok (hcalm .refl)

/-! ## Time -/

/-- A report that was scheduled is sent. -/
theorem balanced_runTask (hi : i.action = .task) : Balanced a s i s.runTask.1 s.runTask.2 := by
  have htk : taken i = 1 := if_pos hi
  have hran : ∀ {t : Task} {ts : List Task} {s' out}, s.tasks = t :: ts →
      Calm a { s with tasks := ts } s' →
      out.countP (·.reports a) = [t].countP (·.reports a) → Balanced a s i s' out := by
    intro t ts s' out htasks hcalm hout
    refine ⟨hcalm.last, fun _ _ => ?_⟩
    obtain ⟨ts', htasks', hts'⟩ := hcalm.tasks
    refine ⟨ts',
      by simpa [htk, htasks] using htasks', by rw [hts', hcalm.pending, Nat.zero_add]; rfl, ?_⟩
    rw [hts', hout, htk, htasks, hcalm.pending, Nat.zero_add, Nat.add_comm]
    rfl
  unfold runTask
  split
  · rename_i htasks
    refine ⟨id, fun _ _ => ⟨[], ?_, ?_, ?_⟩⟩ <;> simp [htasks]
  · rename_i t ts htasks
    cases t with
    | send | event => exact hran htasks .refl rfl
    | rejectPeripheralConnection =>
      refine hran htasks Calm.refl.send ?_
      dsimp only [sendEvent]
      split <;> rfl

/-- A page timeout: an attempt it ends is reported. -/
theorem balanced_paging (hi : i.action = .paging) :
    Balanced a s i (s.paging env).1 (s.paging env).2 := by
  have htask : i.action ≠ .task := by rw [hi]; nofun
  unfold paging
  split
  · exact .calm htask .refl rfl
  · rename_i page hpage
    split_ifs
    · refine .ended htask hpage rfl id (List.append_nil _).symm fun _ _ => ?_
      simp [Event.reports, Output.reports]
    · refine .calm htask (Calm.refl.send.set ?_ rfl rfl) rfl
      unfold pending sendLinkLayerPacket schedule
      rw [hpage]
      rfl
    · exact .calm htask .refl rfl

/-- **Every step is balanced.** -/
theorem balanced_of_step : Yields (machine.step s i) fun r => Balanced a s i r.1 r.2 := by
  change Yields (s.step i) _
  unfold step
  split
  · rename_i hi
    exact .seq (balanced_command hi) fun _ h => .ok h
  · rename_i packet hi
    exact .ite (fun _ => .ok (.calm (by rw [hi]; nofun) .refl rfl)) fun _ => balanced_receive hi
  · rename_i hi
    exact .ok (balanced_runTask hi)
  · rename_i hi
    exact .ok (balanced_paging hi)
  · rename_i hi
    refine .seq (Q := Calm a s) ?_ fun _ h => .ok (.calm (by rw [hi]; nofun) h rfl)
    unfold checkExpiringConnection
    split
    · exact .ok .refl
    split
    · exact .seq disconnect_calm fun _ h => .ok h
    · exact .ok Calm.refl.send
    · exact .ok .refl

/-! ## Runs -/

variable {tr tr' : List (Input × List Output)} {s₀ s₁ : BrEdrController}

/-- The last handle of a run is in the range. -/
theorem last_of_run {own} (h : machine.Run (fun _ _ => True) (new own) tr s) :
    s.lastAclHandle ≤ kAclRangeEnd :=
  h.invariant (fun s => s.lastAclHandle ≤ kAclRangeEnd) UInt16.zero_le
    fun _ _ _ _ hs _ hstep => (balanced_of_step (a := 0) _ hstep).last hs

/-- The number of reports that were sent. -/
def reported (a : Address) (tr : List (Input × List Output)) : Nat :=
  (tr.flatMap Prod.snd).countP (·.reports a)

/-- The number of times that a task was run. -/
def ran (tr : List (Input × List Output)) : Nat := (tr.map fun e => taken e.1).sum

/-- **Nothing is lost**: what was scheduled or pending has been sent, or still is. -/
theorem reported_of_run (hs : s₀.lastAclHandle ≤ kAclRangeEnd)
    (h : machine.Run (Undisturbed a) s₀ tr s) :
    s.lastAclHandle ≤ kAclRangeEnd ∧
      reported a tr + s.scheduled a + s.pending a = s₀.scheduled a + s₀.pending a := by
  refine h.invariant_trace (fun tr s => s.lastAclHandle ≤ kAclRangeEnd ∧
    reported a tr + s.scheduled a + s.pending a = s₀.scheduled a + s₀.pending a)
      ⟨hs, by simp [reported]⟩ ?_
  rintro tr s i s' out ⟨hs, hbalance⟩ hi hstep
  have hstep := balanced_of_step (a := a) _ hstep
  obtain ⟨ts, hts, -, hreports⟩ := hstep.reports hs hi
  have hsplit : s.scheduled a =
      (s.tasks.take (taken i)).countP (·.reports a) + (s.tasks.drop (taken i)).countP
        (·.reports a) := by
    rw [← List.countP_append, List.take_append_drop]
    rfl
  have hpost : s'.scheduled a = (s.tasks.drop (taken i)).countP (·.reports a) +
      ts.countP (·.reports a) := by
    rw [scheduled, hts, List.countP_append]
  have hsent : reported a (tr ++ [(i, out)]) = reported a tr + out.countP (·.reports a) := by
    simp [reported]
  refine ⟨hstep.last hs, ?_⟩
  dsimp only at hreports
  omega

/-- Once the attempt is over, the reports that are left are among the tasks that were scheduled by
then. -/
theorem scheduled_of_run (hs : s₀.lastAclHandle ≤ kAclRangeEnd) (hover : s₀.pending a = 0)
    (h : machine.Run (Undisturbed a) s₀ tr s) : s.lastAclHandle ≤ kAclRangeEnd ∧ s.pending a = 0 ∧
      (s.tasks.drop (s₀.tasks.length - ran tr)).countP (·.reports a) = 0 := by
  refine h.invariant_trace (fun tr s => s.lastAclHandle ≤ kAclRangeEnd ∧ s.pending a = 0 ∧
    (s.tasks.drop (s₀.tasks.length - ran tr)).countP (·.reports a) = 0)
      ⟨hs, hover, by simp [ran]⟩ ?_
  rintro tr s i s' out ⟨hs, hover, hleft⟩ hi hstep
  have hstep := balanced_of_step (a := a) _ hstep
  obtain ⟨ts, htasks, hts, hreports⟩ := hstep.reports hs hi
  have hran : ran (tr ++ [(i, out)]) = ran tr + taken i := by simp [ran]
  rw [hover, Nat.le_zero, Nat.add_eq_zero_iff] at hts
  refine ⟨hstep.last hs, hts.2, ?_⟩
  have hless : ∀ {ts : List Task} {n m : Nat}, n ≤ m → (ts.drop n).countP (·.reports a) = 0 →
      (ts.drop m).countP (·.reports a) = 0 := by
    intro ts n m hle h
    exact Nat.le_zero.mp (h ▸ (List.drop_sublist_drop_left ts hle).countP_le)
  rw [hran, htasks, List.drop_append, List.countP_append, List.drop_drop,
    hless (Nat.zero_le _) hts.1, hless (by omega) hleft]

/-! ## What belongs to an attempt -/

/-- Pages, their answers and their rejections, on either side, the commands of the host that are not
about synchronous connections and close none, and the passing of time. -/
def attends (s : BrEdrController) : Action → Bool
  | .command c => c.unsynchronous ||
    match c with
    | .acceptConnectionRequest bdAddr _ => (s.connections.scanFor bdAddr).isSome
    | _ => false
  | .packet packet =>
    match packet.body with
    | .page _ _ | .pageResponse _ | .pageReject _ => true
    | _ => false
  | .task | .paging => true
  | .checkExpiring _ _ => false

/-- An input that belongs to an attempt and does not disturb it, while a link is free for the
connection it makes. -/
def Attended (a : Address) (s : BrEdrController) (i : Input) : Prop :=
  Undisturbed a s i ∧ s.attends i.action ∧ HasSlot s i

instance Attended.decidable (a : Address) (s : BrEdrController) (i : Input) :
    Decidable (Attended a s i) :=
  inferInstanceAs (Decidable (_ ∧ _ ∧ _))

/-- What a connection that is made relies on. -/
def Connected (s : BrEdrController) : Prop :=
  Coherent s.connections ∧ s.lastAclHandle ≤ kAclRangeEnd

/-- A step keeps what a new connection relies on. -/
theorem connected_of_step (hs : Connected s) (h : machine.step s i = .ok (s', out)) :
    Connected s' :=
  ⟨(effect_of_step h).coherent hs.1, (balanced_of_step (a := 0) _ h).last hs.2⟩

/-- A run keeps what a new connection relies on. -/
theorem connected_of_run {own} (h : machine.Run (fun _ _ => True) (new own) tr s) : Connected s :=
  h.invariant Connected ⟨Coherent.new own, UInt16.zero_le⟩ fun _ _ _ _ hs _ => connected_of_step hs

/-- An input that belongs to an attempt makes a connection, or returns. -/
theorem attends_cases (hi : s.attends i.action = true) :
    Returns (machine.step s i) ∨ Makes s i := by
  have hpass : Passes s i → Returns (machine.step s i) := by
    rintro ⟨-, s', out, hstep, -⟩
    exact ⟨_, hstep⟩
  obtain ⟨env, action⟩ := i
  cases action with
  | command c =>
    by_cases hc : c.unsynchronous = true
    · obtain ⟨r, h, -⟩ := command_tables (s := s) env hc
      exact .inl ⟨_, bind_eq_ok.mpr ⟨r, h, rfl⟩⟩
    · -- the one command that may make a connection
      cases c with
      | acceptConnectionRequest => exact (connects_accept (.inr hi)).imp_left hpass
      | _ => first | exact absurd rfl hc | cases hi
  | packet packet =>
    obtain ⟨source, destination, body⟩ := packet
    cases body with
    | page => exact .inl (hpass (passes_page rfl))
    | pageResponse => exact (connects_response rfl).imp_left hpass
    | pageReject reason =>
      by_cases hrch : Reaches s.address ⟨source, destination, .pageReject reason⟩
      · exact .inl ⟨_, step_reaching env hrch⟩
      · exact .inl ⟨_, step_dropped env hrch⟩
    | _ => cases hi
  | task | paging => exact .inl ⟨_, rfl⟩
  | checkExpiring => cases hi

/-- **What belongs to an attempt returns** while a link is free. -/
theorem attended_returns (hs : Connected s) (hi : Attended a s i) : Returns (machine.step s i) := by
  obtain ⟨-, hattends, hslot⟩ := hi
  rcases attends_cases hattends with hreturns | ⟨hmakes, peer, role, f, hstep, -⟩
  · exact hreturns
  · obtain ⟨r, hr⟩ := createAcl_returns hs.1 hs.2 (hslot hmakes) peer role
    exact ⟨f r, hstep.trans (bind_eq_ok.mpr ⟨r, hr, rfl⟩)⟩

section once

variable {own : Address} {tr₀ : List (Input × List Output)} {allow : Bool}
  (hrun₀ : machine.Run (fun _ _ => True) (new own) tr₀ s₀)
  (hcreate : machine.step s₀ ⟨env, .command (.createConnection a allow)⟩ = .ok
    (s₁, [.status .success]))
include hrun₀ hcreate

/-- **An attempt is reported once.**  Of the reports that are sent after it was started, those that
were scheduled before are of earlier attempts, and at most one more is sent; it has been when the
attempt is over and the tasks scheduled by then have run. -/
theorem reported_once (hrun : machine.Run (Undisturbed a) s₁ tr s) :
    reported a tr + s.scheduled a + s.pending a = s₀.scheduled a + 1 ∧
      (s.pending a = 0 → ∀ tr' s', machine.Run (Undisturbed a) s tr' s' → s.tasks.length ≤ ran tr' →
        reported a (tr ++ tr') = s₀.scheduled a + 1) := by
  have hlast : s₁.lastAclHandle ≤ kAclRangeEnd :=
      (balanced_of_step (a := a) _ hcreate).last (last_of_run hrun₀)
  have hstr : s₁.scheduled a = s₀.scheduled a ∧ s₁.pending a = 1 := by
    have hstep :
        ((s₀.createConnection env a allow).1, [Output.status (s₀.createConnection env a allow).2]) =
        (s₁, [.status .success]) := Except.ok.inj hcreate
    unfold createConnection at hstep
    split_ifs at hstep
    all_goals cases hstep
    exact ⟨rfl, by simp [pending]⟩
  obtain ⟨hs, hbalance⟩ := reported_of_run hlast hrun
  rw [hstr.1, hstr.2] at hbalance
  refine ⟨hbalance, fun hover tr' s' hrun' hran => ?_⟩
  obtain ⟨-, hbalance'⟩ := reported_of_run hs hrun'
  obtain ⟨-, hover', hleft⟩ := scheduled_of_run hs hover hrun'
  rw [Nat.sub_eq_zero_of_le hran, List.drop_zero] at hleft
  have hn : s'.scheduled a = 0 := hleft
  have hsum : reported a (tr ++ tr') = reported a tr + reported a tr' := by simp [reported]
  omega

/-- **An attempt is reported once, and nothing that belongs to it aborts the controller**, while a
link is free for each connection that is made. -/
theorem one_completion {is : List Input} (his : machine.Meets (Attended a) s₁ is) :
    ∃ tr s, machine.exec s₁ is = .ok (tr, s) ∧
      reported a tr + s.scheduled a + s.pending a = s₀.scheduled a + 1 ∧
      (s.pending a = 0 → ∀ is', machine.Meets (Attended a) s is' → ∃ tr' s',
        machine.exec s is' = .ok (tr', s') ∧
        (s.tasks.length ≤ ran tr' → reported a (tr ++ tr') = s₀.scheduled a + 1)) := by
  have hs₁ : Connected s₁ := connected_of_step (connected_of_run hrun₀) hcreate
  obtain ⟨⟨tr, s⟩, hx⟩ := Machine.exec_returns (fun _ _ => attended_returns)
    (fun _ _ _ _ => connected_of_step) hs₁ his
  have hrun := Machine.run_of_exec his hx
  have hs : Connected s := hrun.invariant Connected hs₁ fun _ _ _ _ hs _ => connected_of_step hs
  have honce := reported_once hrun₀ hcreate (hrun.mono fun _ _ h => h.1)
  refine ⟨tr, s, hx, honce.1, fun hover is' his' => ?_⟩
  obtain ⟨⟨tr', s'⟩, hx'⟩ := Machine.exec_returns (fun _ _ => attended_returns)
    (fun _ _ _ _ => connected_of_step) hs his'
  exact ⟨tr', s', hx', honce.2 hover tr' s' ((Machine.run_of_exec his' hx').mono fun _ _ h => h.1)⟩

end once

/-- The first attempt of a controller. -/
def attempting :
    BrEdrController := { new 1 with page := some ⟨2, true, kPageInterval, slots 0x2000⟩ }

/-- The host cancels the attempt, and the peer rejects the page all the same. -/
def cancelled : List Input :=
  [⟨start, .command (.createConnectionCancel 2)⟩, ⟨start, .packet ⟨2, 1, .pageReject 5⟩⟩,
    ⟨start, .task⟩]

/-- The host cancels, and the peer rejects the page. -/
theorem one_completion_cancelled : ∃ tr s, machine.exec attempting cancelled = .ok (tr, s) ∧
    reported 2 tr + s.scheduled 2 + s.pending 2 = 1 := by
  have hcreate : machine.step (new 1) ⟨start, .command (.createConnection 2 true)⟩ =
      .ok (attempting, [.status .success]) := rfl
  obtain ⟨tr, s, hx, honce, -⟩ := one_completion .nil hcreate
    (show machine.Meets (Attended 2) attempting cancelled by decide +kernel)
  exact ⟨tr, s, hx, honce⟩

/-- Seven peers are connected, and the host connects to an eighth. -/
def eighthAttempt : List Input :=
  acceptAll 9 [1, 2, 3, 4, 5, 6, 7] ++ [⟨start, .command (.createConnection 8 true)⟩]

/-- The attempt is under way, and the answer of the eighth peer makes the controller abort: no
report is sent. -/
theorem eighth_answer_aborts :
    machine.ExecTo (fun tr s => tr.getLast?.map Prod.snd = some [.status .success] ∧
      s.pending 8 = 1 ∧ reported 8 tr + s.scheduled 8 = 0 ∧
      Undisturbed 8 s ⟨start, .packet ⟨8, 9, .pageResponse false⟩⟩) (new 9) eighthAttempt ∧
    machine.exec (new 9) (eighthAttempt ++ [⟨start, .packet ⟨8, 9, .pageResponse false⟩⟩]) =
      .error .assertion := by
  decide +kernel

end BrEdrController

end RootCanal.BrEdr
