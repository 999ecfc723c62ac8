import RootCanal.Gap.Effects

/-!
# One sync for each periodic advertising train

A create sync names a train, or waits for any train of the periodic advertiser list.  The first is
refused if the train is synchronized to; the second is not checked, neither then nor when the sync
is established (`synchronized_twice`).

**`syncs_distinct`: while a create sync by the list is only sent when no train of the list is
synchronized to (`ListUnsynchronized`), no two syncs are of the same train, and a PDU is reported on
one sync at most.**

The list may not change while a create sync is pending, so that what was true of it when the command
came is true when the sync is established (`SyncsDistinct.pending`).

Source: `le_controller.cc` `LePeriodicAdvertisingCreateSync`, `IncomingLePeriodicAdvertisingPdu`
-/

namespace RootCanal.Gap

open Lib RootCanal.Hci

namespace LeController

/-- The command waits for any train of the periodic advertiser list. -/
def syncsByList : Action → Bool
  | .command (.sync (.lePeriodicAdvertisingCreateSync options _ _ _)) =>
    options.usePeriodicAdvertiserList
  | _ => false

/-- A create sync by the list is sent only when no train of the list is synchronized to. -/
def ListUnsynchronized (s : LeController) (i : Input) : Prop :=
  syncsByList i.action = true →
    ∀ train ∈ s.lePeriodicAdvertiserList, (s.synchronized.any fun _ sync =>
      sync.train = train) = false

instance ListUnsynchronized.decidable (s : LeController) (i : Input) :
    Decidable (ListUnsynchronized s i) :=
  inferInstanceAs (Decidable (_ → _))

/-- No two syncs are of the same train, and none is of a train that is waited for. -/
structure SyncsDistinct (s : LeController) : Prop where
  unique : s.synchronized.UniqueBy Synchronized.train
  pending : ∀ train, s.matchesSynchronizing train = true → s.synchronized.Every (·.train ≠ train)

variable {s s' : LeController} {env : Env} {i : Input} {out : List Output}

/-! ## The syncs over a step -/

variable {train : Train}

theorem matchesSynchronizing_of_none (h : s.synchronizing = none) :
    s.matchesSynchronizing train = false := by
  simp [matchesSynchronizing, h]

theorem SyncsDistinct.of_idle (huniq : s.synchronized.UniqueBy Synchronized.train)
    (hidle : s.synchronizing = none) : SyncsDistinct s := by
  refine ⟨huniq, fun train hmat => ?_⟩
  rw [matchesSynchronizing_of_none hidle] at hmat
  cases hmat

/-- The periodic advertiser list changes only while no create sync is pending. -/
theorem list_of_pending (h : s.step i = .ok (s', out))
    (hres : ¬ (i.action = .command .reset ∧ s' = s.reset))
    (hpend : s.synchronizing ≠ none) : s'.lePeriodicAdvertiserList =
      s.lePeriodicAdvertiserList := by
  rcases (effect_of_step h).advertiserList with hsame | ⟨hi, hr⟩ | ⟨c, -, hc⟩
  · exact hsame
  · exact absurd ⟨hi, hr⟩ hres
  · have hidle : s.synchronizing.isNone = true := by
      cases c <;> exact require_eq_ok.mp (bind_eq_ok.mp hc).choose_spec.1
    exact absurd (Option.isNone_iff_eq_none.mp hidle) hpend

/-- A step that keeps what is pending, with fewer syncs or the same with other timeouts. -/
theorem SyncsDistinct.fewer (hs : SyncsDistinct s) (h : s.step i = .ok (s', out))
    (hres : s' ≠ s.reset) (hpend : s'.synchronizing = s.synchronizing)
    (huniq : s'.synchronized.UniqueBy Synchronized.train)
    (hevery : ∀ train, s.synchronized.Every (·.train ≠ train) →
      s'.synchronized.Every (·.train ≠ train)) :
    SyncsDistinct s' := by
  by_cases hidle : s.synchronizing = none
  · exact .of_idle huniq (hpend.trans hidle)
  · refine ⟨huniq, fun train hmat => hevery train (hs.pending train ?_)⟩
    have hlist := list_of_pending h (fun hr => hres hr.2) hidle
    simpa only [matchesSynchronizing, hpend, hlist] using hmat

/-- A create sync that is accepted: the train it names is not synchronized to, or it is by the
list. -/
theorem lePeriodicAdvertisingCreateSync_eq_ok {options syncTimeout syncCteType y}
    (h : s.lePeriodicAdvertisingCreateSync options train syncTimeout syncCteType = .ok y) :
    (options.usePeriodicAdvertiserList = false → s.synchronized.Every (·.train ≠ train)) ∧
    y.synchronized = s.synchronized ∧
    ∃ p, y.synchronizing = some p ∧ p.options = options ∧ p.train = train := by
  obtain ⟨-, -, h⟩ := bind_eq_ok.mp h
  obtain ⟨-, -, h⟩ := bind_eq_ok.mp h
  obtain ⟨⟨⟩, hnew, h⟩ := bind_eq_ok.mp h
  obtain ⟨-, -, h⟩ := bind_eq_ok.mp h
  obtain ⟨-, -, h⟩ := bind_eq_ok.mp h
  cases h
  refine ⟨fun hexplicit handle sync hsync heq => ?_, rfl, _, rfl, rfl, rfl⟩
  simp only [require_eq_ok, hexplicit, Bool.false_eq_true, false_or, decide_eq_true_eq,
    Bool.not_eq_true', HashMap.any_eq_false] at hnew
  simpa [heq] using hnew handle sync hsync

/-- A create sync waits for no train that is synchronized to. -/
theorem SyncsDistinct.create {options syncTimeout syncCteType} (hs : SyncsDistinct s)
    (hlist : s'.lePeriodicAdvertiserList = s.lePeriodicAdvertiserList)
    (hunsynchronized : options.usePeriodicAdvertiserList = true →
      ∀ train ∈ s.lePeriodicAdvertiserList,
      (s.synchronized.any fun _ sync => sync.train = train) = false)
    (h : s.lePeriodicAdvertisingCreateSync options train syncTimeout syncCteType =
      .ok s'.toSynchronization) : SyncsDistinct s' := by
  obtain ⟨hexplicit, hsame, p, hp, rfl, rfl⟩ := lePeriodicAdvertisingCreateSync_eq_ok h
  refine ⟨hsame ▸ hs.unique, fun train hmat => ?_⟩
  rw [hsame]
  by_cases hby : p.options.usePeriodicAdvertiserList = true
  · simp only [matchesSynchronizing, hp, hby, if_true, hlist, decide_eq_true_eq] at hmat
    intro handle sync hsync heq
    have hn := HashMap.any_eq_false.mp (hunsynchronized hby train hmat) handle sync hsync
    simp [heq] at hn
  · simp only [matchesSynchronizing, hp, hby, Bool.false_eq_true, if_false, decide_eq_true_eq]
      at hmat
    exact hmat ▸ hexplicit (Bool.eq_false_of_not_eq_true hby)

theorem uniqueBy_refresh {now : Nat} {m} (handles : List UInt16)
    (hm : m.UniqueBy Synchronized.train) :
    HashMap.UniqueBy (handles.foldl (refresh now) m) Synchronized.train := by
  induction handles generalizing m with
  | nil => exact hm
  | cons _ _ ih => exact ih (hm.modify fun _ => rfl)

theorem every_refresh {now : Nat} {m} (handles : List UInt16) (hm : m.Every (·.train ≠ train)) :
    HashMap.Every (handles.foldl (refresh now) m) (·.train ≠ train) := by
  induction handles generalizing m with
  | nil => exact hm
  | cons _ _ ih => exact ih (hm.modify fun _ hne => hne)

variable {data : List UInt8}

/-- What a periodic advertising PDU makes of the syncs. -/
theorem incomingLePeriodicAdvertisingPdu_eq_ok {rssi sid txPower} {a : AddressWithType}
    {interval : Nat} {r}
    (h : s.incomingLePeriodicAdvertisingPdu env rssi a sid txPower interval data = .ok r) :
    r = (s.toSynchronization, []) ∨
    (∃ handle sync, s.matchesSynchronizing sync.train = true ∧ r.1.synchronizing = none ∧
      r.1.synchronized = s.synchronized.insert handle sync ∧
      (s.extendedAdvertisingInUse = true ∧ sync.syncHandle = handle) ∧
      ∃ e, r.2 = s.sendLeEvent .lePeriodicAdvertisingSyncEstablishedV1
        (.lePeriodicAdvertisingSyncEstablishedV1 .success handle sync.train.advertisingSid e
          interval)) ∨
    r = s.reportPeriodic env rssi txPower data (s.trainOf env a sid) := by
  unfold incomingLePeriodicAdvertisingPdu at h
  dsimp only at h
  split at h
  · exact .inl (Except.ok.inj h).symm
  · rename_i huse
    have huse : s.extendedAdvertisingInUse = true := by
      simp only [Bool.or_eq_true, Bool.not_eq_true', not_or, Bool.not_eq_false] at huse
      exact huse.2
    split at h
    · rename_i synchronizing hfil
      obtain ⟨handle, -, h⟩ := bind_eq_ok.mp h
      cases h
      exact .inr
        (.inl ⟨handle, _, (Option.filter_eq_some_iff.mp hfil).2, rfl, rfl, ⟨huse, rfl⟩, _, rfl⟩)
    · exact .inr (.inr (Except.ok.inj h).symm)

/-- A sync whose time is renewed stays the same but for it. -/
theorem refresh_getElem? {now : Nat} {m} {k : UInt16} {sync : Synchronized} (handles : List UInt16)
    (h : (handles.foldl (refresh now) m)[k]? = some sync) : ∃ t, m[k]? = some
    { sync with timeout := t } := by
  induction handles generalizing m with
  | nil => exact ⟨sync.timeout, h⟩
  | cons handle _ ih =>
    obtain ⟨t, ht⟩ := ih h
    unfold refresh at ht
    rw [HashMap.getElem?_modify'] at ht
    split at ht
    · rename_i hh
      obtain ⟨old, hold, heq⟩ := Option.map_eq_some_iff.mp ht
      refine ⟨old.timeout, ?_⟩
      rw [← hh, hold]
      exact congrArg (fun y : Synchronized => some { y with timeout := old.timeout }) heq
    · exact ⟨t, ht⟩

/-- **A sync that there is after a step was there before it**, but for its timeout, or extended
advertising is in use and it got the handle that it is found by. -/
theorem sync_step {k : UInt16} {sync : Synchronized} (h : s.step i = .ok (s', out))
    (hk : s'.synchronized[k]? = some sync) :
    (∃ t, s.synchronized[k]? = some { sync with timeout := t }) ∨
    (s.extendedAdvertisingInUse = true ∧ sync.syncHandle = k) := by
  rcases (effect_of_step h).synchronization with hsame | ⟨-, hr⟩ | ⟨c, -, hok⟩ | hcancel |
    ⟨rssi, a, sid, txPower, interval, data, reports, hok⟩
  · rw [hsame] at hk
    exact .inl ⟨sync.timeout, hk⟩
  · rw [hr, show s.reset.synchronized[k]? = none from Std.ExtTreeMap.getElem?_empty] at hk
    cases hk
  · cases c with
    | lePeriodicAdvertisingCreateSync =>
      rw [(lePeriodicAdvertisingCreateSync_eq_ok hok).2.1] at hk
      exact .inl ⟨sync.timeout, hk⟩
    | lePeriodicAdvertisingTerminateSync =>
      obtain ⟨-, -, hok⟩ := bind_eq_ok.mp hok
      rw [← Except.ok.inj hok, HashMap.getElem?_erase'] at hk
      split at hk
      · cases hk
      · exact .inl ⟨sync.timeout, hk⟩
  · rw [hcancel] at hk
    exact .inl ⟨sync.timeout, hk⟩
  · rcases incomingLePeriodicAdvertisingPdu_eq_ok hok
      with hsame | ⟨handle, _, -, -, hsync, hnew, -⟩ | hrep
    · have hsame : s'.toSynchronization = s.toSynchronization := congrArg Prod.fst hsame
      rw [hsame] at hk
      exact .inl ⟨sync.timeout, hk⟩
    · rw [hsync, HashMap.getElem?_insert'] at hk
      split at hk
      · rename_i hh
        cases hk
        exact .inr (hh ▸ hnew)
      · exact .inl ⟨sync.timeout, hk⟩
    · have hrep : s'.toSynchronization = (s.reportPeriodic i.env rssi txPower data
          (s.trainOf i.env a sid)).1 := congrArg Prod.fst hrep
      rw [hrep] at hk
      exact .inl (refresh_getElem? _ hk)

theorem SyncsDistinct.step (hs : SyncsDistinct s) (hi : ListUnsynchronized s i)
    (h : s.step i = .ok (s', out)) : SyncsDistinct s' := by
  by_cases hres : s' = s.reset
  · rw [hres]
    exact .of_idle HashMap.uniqueBy_empty rfl
  · rcases (effect_of_step h).synchronization with hsame | ⟨-, hr⟩ | ⟨c, hc, hok⟩ | hcancel |
      ⟨rssi, a, sid, txPower, interval, data, reports, hok⟩
    · exact hs.fewer h hres (by rw [hsame]) (hsame ▸ hs.unique) fun _ hevery => hsame ▸ hevery
    · exact absurd hr hres
    · cases c with
      | lePeriodicAdvertisingCreateSync =>
        refine hs.create ?_ (fun hby => hi (by rw [hc]; exact hby)) hok
        rcases (effect_of_step h).advertiserList with hlist | ⟨-, hr⟩ | ⟨c, hc', -⟩
        · exact hlist
        · exact absurd hr hres
        · cases hc.symm.trans hc'
      | lePeriodicAdvertisingTerminateSync =>
        obtain ⟨-, -, hok⟩ := bind_eq_ok.mp hok
        have hsync := (Except.ok.inj hok).symm
        refine hs.fewer h hres (by rw [hsync]) ?_ fun _ hevery => ?_
        · rw [hsync]
          exact hs.unique.erase
        · rw [hsync]
          exact hevery.erase
    · refine .of_idle ?_ (by rw [hcancel])
      rw [hcancel]
      exact hs.unique
    · rcases incomingLePeriodicAdvertisingPdu_eq_ok hok
        with hsame | ⟨handle, sync, hmat, hidle, hsync, -, -⟩ | hrep
      · have hsame : s'.toSynchronization = s.toSynchronization := congrArg Prod.fst hsame
        exact hs.fewer h hres (by rw [hsame]) (hsame ▸ hs.unique) fun _ hevery => hsame ▸ hevery
      · -- the train was waited for, so that no sync is of it
        refine .of_idle ?_ hidle
        rw [hsync]
        exact hs.unique.insert (HashMap.findBy_eq_none.mpr (hs.pending _ hmat))
      · have hrep : s'.toSynchronization = (s.reportPeriodic i.env rssi txPower data
            (s.trainOf i.env a sid)).1 := congrArg Prod.fst hrep
        refine hs.fewer h hres (by rw [hrep]; rfl) ?_ fun _ hevery => ?_
        · rw [hrep]
          exact uniqueBy_refresh _ hs.unique
        · rw [hrep]
          exact every_refresh _ hevery

/-! ## Reports -/

/-- The sync that a periodic advertising report is of. -/
def reportHandle : Output → Option UInt16
  | .event (.lePeriodicAdvertisingReportV1 syncHandle _ _ _ _) => some syncHandle
  | _ => none

/-- The reports of a PDU are of syncs of its train. -/
theorem reportHandle_of_reportPeriodic {rssi txPower o h}
    (ho : o ∈ (s.reportPeriodic env rssi txPower data train).2) (hh : reportHandle o = some h) :
    ∃ (handle : UInt16) (sync : Synchronized), s.synchronized[handle]? = some sync ∧
      sync.train = train ∧ sync.syncHandle = h := by
  obtain ⟨sync, hsync, ho⟩ := List.mem_flatMap.mp ho
  obtain ⟨handle, hhd, hget⟩ := List.mem_filterMap.mp hsync
  obtain ⟨sync', hget', htrain⟩ := HashMap.mem_keysWhere.mp hhd
  cases hget.symm.trans hget'
  refine ⟨handle, sync, hget, of_decide_eq_true htrain, ?_⟩
  obtain ⟨f, -, ho⟩ := List.mem_flatMap.mp ho
  unfold sendLeEvent at ho
  split at ho
  · rw [List.mem_singleton.mp ho] at hh
    exact Option.some.inj hh
  · cases ho

/-- A PDU is reported on one sync at most. -/
theorem SyncsDistinct.reports (hs : SyncsDistinct s) {rssi sid txPower} {a : AddressWithType}
    {interval : Nat} {r}
    (h : s.incomingLePeriodicAdvertisingPdu env rssi a sid txPower interval data = .ok r) :
    ∀ o ∈ r.2, ∀ o' ∈ r.2, ∀ h h', reportHandle o = some h →
      reportHandle o' = some h' → h = h' := by
  intro o ho o' ho' handle handle' hh hh'
  rcases incomingLePeriodicAdvertisingPdu_eq_ok h with hn | ⟨_, _, -, -, -, -, e, hevent⟩ | hrep
  · rw [hn] at ho
    cases ho
  · rw [hevent] at ho
    unfold sendLeEvent at ho
    split at ho
    · rw [List.mem_singleton.mp ho] at hh
      cases hh
    · cases ho
  · rw [hrep] at ho ho'
    obtain ⟨k, sync, hsync, htrain, rfl⟩ := reportHandle_of_reportPeriodic ho hh
    obtain ⟨k', sync', hsync', htrain', rfl⟩ := reportHandle_of_reportPeriodic ho' hh'
    cases hs.unique k k' sync sync' hsync hsync' (htrain.trans htrain'.symm)
    cases hsync.symm.trans hsync'
    rfl

/-- **No two syncs are of the same train, and a PDU is reported on one sync at most.** -/
theorem syncs_distinct {own : Address} {properties : ControllerProperties}
    {tr : List (Input × List Output)}
    (h : machine.Run ListUnsynchronized (new own properties) tr s) :
    s.synchronized.UniqueBy Synchronized.train ∧
    ∀ env bytes rssi source destination aType sid txPower interval data s' out,
      s.step ⟨env, .packet bytes rssi
        ⟨source, destination, .lePeriodicAdvertisingPdu aType sid txPower interval data⟩⟩ =
          .ok (s', out) →
      ∀ o ∈ out, ∀ o' ∈ out, ∀ h h', reportHandle o = some h →
        reportHandle o' = some h' → h = h' := by
  have hs : SyncsDistinct s := by
    refine h.invariant SyncsDistinct (.of_idle HashMap.uniqueBy_empty rfl) ?_
    intro s i s' out hs hi hstep
    exact hs.step hi hstep
  refine ⟨hs.unique, ?_⟩
  intro env bytes rssi source destination aType sid txPower interval data s' out hstep
  obtain ⟨r, hr, hstep⟩ := bind_eq_ok.mp hstep
  cases hstep
  exact hs.reports hr

/-- The host scans, and puts a train on the list. -/
def scansForTrain : List Input :=
  [.host (.setEventMask 0x3fffffffffffffff), .host (.leSetEventMask 0xffffffff),
    .host (.scan (.leSetExtendedScanEnable true .disabled 0 0)),
    .host
      (.periodicAdvertiserList
      (.leAddDeviceToPeriodicAdvertiserList ⟨.publicDeviceOrIdentityAddress, 7, 1⟩))]

/-- The host asks for a sync with the train, by its name or by the list. -/
def createsSync (usePeriodicAdvertiserList : Bool) : Input :=
  .host (.sync (.lePeriodicAdvertisingCreateSync { usePeriodicAdvertiserList }
    ⟨.publicDeviceOrIdentityAddress, 7, 1⟩ 10 0))

/-- A PDU of the train arrives. -/
def trainArrives : Input :=
  ⟨.at 0, .packet [] 0 ⟨7, 0, .lePeriodicAdvertisingPdu .publicDeviceAddress 1 0 0 []⟩⟩

/-- The sync is established by the list, and the train reported. -/
theorem syncs_distinct_by_list : ∃ tr s, machine.Run ListUnsynchronized (new 1 {}) tr s ∧
    s.synchronized.size = 1 ∧ s.synchronized.UniqueBy Synchronized.train := by
  refine machine.run_and (scansForTrain ++ [createsSync true, trainArrives, trainArrives])
    (by decide +kernel) (by decide +kernel) fun tr s hrun _ => ?_
  exact (syncs_distinct hrun).1

/-- After a sync by the list with a train that is synchronized to there are two, and each PDU of the
train is reported on both. -/
theorem synchronized_twice : ∃ tr s, machine.Run (fun _ _ => True) (new 1 {}) tr s ∧
    ¬ s.synchronized.UniqueBy Synchronized.train ∧
    ∃ r ∈ (s.step trainArrives).toOption, r.2.map reportHandle = [some 0, some 1] := by
  have hx : machine.ExecTo (fun _ s =>
      (s.synchronized[(0 : UInt16)]?).map Synchronized.train =
        some ⟨.publicDeviceOrIdentityAddress, 7, 1⟩ ∧
      (s.synchronized[(1 : UInt16)]?).map Synchronized.train =
        some ⟨.publicDeviceOrIdentityAddress, 7, 1⟩ ∧
      ∃ r ∈ (s.step trainArrives).toOption, r.2.map reportHandle = [some 0, some 1]) (new 1 {})
      (scansForTrain ++ [createsSync false, trainArrives, createsSync true, trainArrives]) := by
    decide +kernel
  obtain ⟨tr, s, hrun, h1, h2, hreports⟩ := machine.exists_free_run hx
  refine ⟨tr, s, hrun, fun huniq => ?_, hreports⟩
  obtain ⟨sync, hsync, htrain⟩ := Option.map_eq_some_iff.mp h1
  obtain ⟨sync', hsync', htrain'⟩ := Option.map_eq_some_iff.mp h2
  exact absurd (huniq _ _ sync sync' hsync hsync' (htrain.trans htrain'.symm)) (by decide)

end LeController

end RootCanal.Gap
