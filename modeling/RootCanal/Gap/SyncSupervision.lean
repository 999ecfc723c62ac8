import RootCanal.Gap.PeriodicSyncs

/-!
# The supervision of periodic syncs

A sync has a time until which it has to be heard of again.  The routine that is to drop the syncs
whose time has passed, `leSynchronization`, compares the wrong way and tells the host about every
sync, and the tick of the controller does not call it.

* `leSynchronization_removes` — it drops the syncs whose time has not passed.
* `syncs_tick` — a tick changes no sync.
* **`supervises_iff`** — the routine and the tick do what they are for exactly if there is no sync.

Source: `le_controller.cc`
-/

namespace RootCanal.Gap

open Lib RootCanal.Hci

/-- The event of a train that is lost. -/
structure LePeriodicAdvertisingSyncLost where
  syncHandle : UInt16
deriving DecidableEq, Repr

namespace LeController

variable {s s' : LeController} {env : Env} {i : Input} {out : List Output}

/-- Source: `IsLeEventUnmasked`, of `LE_PERIODIC_ADVERTISING_SYNC_LOST` -/
def isSyncLostUnmasked (s : LeController) : Bool :=
  s.eventMask.toNat.testBit (EventCode.leMetaEvent.toNat - 1) &&
    s.leEventMask.toNat.testBit (0x10 - 1)

/-- The trains that timed out are dropped and reported. -/
def leSynchronization (s : LeController) (env : Env) :
    Synchronization × List LePeriodicAdvertisingSyncLost :=
  let syncs := s.synchronized.values env.syncOrder
  -- the comparison is of a time that is still to come
  let removedSyncHandles := (syncs.filter fun sync => env.now < sync.timeout).map (·.syncHandle)
  let lost := if s.isSyncLostUnmasked then syncs.map fun sync => ⟨sync.syncHandle⟩ else []
  ({ s.toSynchronization with synchronized := removedSyncHandles.foldl (·.erase ·) s.synchronized },
    lost)

/-! ## What it is for -/

/-- The time of the sync has passed. -/
def expired (now : Nat) (sync : Synchronized) : Bool := sync.timeout ≤ now

/-- Exactly the syncs whose time has passed are dropped, and the host is told about exactly these;
no tick leaves one. -/
structure Supervises (s : LeController) (env : Env) : Prop where
  lost : (s.leSynchronization env).2 = if s.isSyncLostUnmasked then
    ((s.synchronized.values env.syncOrder).filter (expired env.now)).map fun sync =>
      ⟨sync.syncHandle⟩ else []
  kept : ∀ k : UInt16, (s.leSynchronization env).1.synchronized[k]? =
    (s.synchronized[k]?).filter fun sync => !expired env.now sync
  pending : (s.leSynchronization env).1.synchronizing = s.synchronizing
  tick : ∀ s' out, s.tick env = .ok (s', out) →
    s'.synchronized.any (fun _ => expired env.now) = false

/-- Each sync is found by its own handle. -/
def SyncHandles (s : LeController) : Prop :=
  ∀ (k : UInt16) sync, s.synchronized[k]? = some sync → sync.syncHandle = k

theorem SyncHandles.step (hs : SyncHandles s) (h : s.step i = .ok (s', out)) : SyncHandles s' := by
  intro k sync hk
  rcases sync_step h hk with ⟨t, hold⟩ | ⟨-, hnew⟩
  · have hhandle := hs k { sync with timeout := t } hold
    exact hhandle
  · exact hnew

/-- Each sync that is established is found by its own handle. -/
theorem syncHandles_of_run {C} {own : Address} {properties : ControllerProperties}
    {tr : List (Input × List Output)}
    (h : machine.Run C (new own properties) tr s) : SyncHandles s := by
  refine h.invariant SyncHandles ?_ fun s i s' out hs _ hstep => hs.step hstep
  intro k sync hk
  cases hk

/-! ## What it does -/

theorem eraseAll_getElem? {m : HashMap UInt16 Synchronized} (handles : List UInt16) (k : UInt16) :
    (handles.foldl (·.erase ·) m)[k]? = if k ∈ handles then none else m[k]? := by
  induction handles generalizing m with
  | nil => rfl
  | cons handle _ ih =>
    rw [List.foldl_cons, ih, HashMap.getElem?_erase']
    by_cases hk : k = handle
    · simp [hk]
    · simp [hk, Ne.symm hk]

/-- The routine drops the syncs whose time has not passed. -/
theorem leSynchronization_removes (hs : SyncHandles s) (k : UInt16) :
    (s.leSynchronization env).1.synchronized[k]? = (s.synchronized[k]?).filter
    (expired env.now) := by
  refine (eraseAll_getElem? _ k).trans ?_
  cases hk : s.synchronized[k]? with
  | none => simp
  | some sync =>
    have hmem : k ∈ ((s.synchronized.values env.syncOrder).filter fun sync =>
        env.now < sync.timeout).map (·.syncHandle) ↔ env.now < sync.timeout := by
      constructor
      · intro h
        obtain ⟨sync', hsync', rfl⟩ := List.mem_map.mp h
        obtain ⟨hval, hlt⟩ := List.mem_filter.mp hsync'
        obtain ⟨k', hk'⟩ := HashMap.mem_values.mp hval
        rw [hs k' sync' hk', hk'] at hk
        cases hk
        exact of_decide_eq_true hlt
      · intro hlt
        refine List.mem_map.mpr ⟨sync, List.mem_filter.mpr ⟨?_, decide_eq_true hlt⟩, hs k sync hk⟩
        exact HashMap.mem_values.mpr ⟨k, hk⟩
    by_cases hlt : env.now < sync.timeout
    · simp [hmem, hlt, Option.filter, expired, Nat.not_le.mpr hlt]
    · simp [hmem, hlt, Option.filter, expired, Nat.not_lt.mp hlt]

theorem syncs_tick (h : s.tick env = .ok (s', out)) : s'.synchronized = s.synchronized := by
  obtain ⟨_, -, h⟩ := bind_eq_ok.mp h
  cases h
  rfl

/-- **The supervision does what it is for exactly if there is no sync.** -/
theorem supervises_iff (hs : SyncHandles s) :
    Supervises s env ↔ ∀ k : UInt16, s.synchronized[k]? = none := by
  constructor
  · intro h k
    have hkept := h.kept k
    rw [leSynchronization_removes hs k] at hkept
    cases hk : s.synchronized[k]? with
    | none => rfl
    | some sync =>
      rw [hk] at hkept
      cases hexp : expired env.now sync <;> simp [Option.filter, hexp] at hkept
  · intro hnone
    have hvalues : s.synchronized.values env.syncOrder = [] := by
      refine List.eq_nil_iff_forall_not_mem.mpr fun sync hsync => ?_
      obtain ⟨k, hk⟩ := HashMap.mem_values.mp hsync
      rw [hnone k] at hk
      cases hk
    refine ⟨?_, fun k => ?_, rfl, fun s' out htick => ?_⟩
    · simp [leSynchronization, hvalues]
    · rw [leSynchronization_removes hs k, hnone k]
      rfl
    · rw [syncs_tick htick]
      refine HashMap.any_eq_false.mpr fun k sync hk => ?_
      rw [hnone k] at hk
      cases hk

/-- Before a train is heard of there is no sync, and nothing is lost. -/
theorem supervises_iff_pending :
    ∃ tr s, machine.Run (fun _ _ => True) (new 1 {}) tr s ∧ s.synchronizing ≠ none ∧
    Supervises s (.at 0) := by
  have hx : machine.ExecTo (fun _ s => s.synchronizing ≠ none ∧ s.synchronized = ∅) (new 1 {})
      (scansForTrain ++ [createsSync false]) := by
    decide +kernel
  obtain ⟨tr, s, hrun, hpend, hnone⟩ := machine.exists_free_run hx
  refine ⟨tr, s, hrun, hpend, (supervises_iff (syncHandles_of_run hrun)).mpr fun k => ?_⟩
  rw [hnone]
  exact Std.ExtTreeMap.getElem?_empty

/-- A sync with a timeout of 100 ms: one second later it is expired and a tick leaves it, and so
does the routine; while it is not expired the routine drops it. -/
theorem expired_sync_kept : ∃ tr s, machine.Run (fun _ _ => True) (new 1 {}) tr s ∧
    (∃ r ∈ (s.tick (.at 1000000)).toOption,
      r.1.synchronized.any (fun _ => expired 1000000) = true) ∧
    (s.leSynchronization (.at 1000000)).1.synchronized.contains 0 = true ∧
    (s.leSynchronization (.at 1)).1.synchronized.contains 0 = false ∧
    s.synchronized.any (fun _ => expired 1) = false := by
  refine machine.exists_run (show machine.Meets _ _
    (scansForTrain ++ [createsSync false, trainArrives]) from ?_) ?_
  · decide +kernel
  · decide +kernel

end LeController

end RootCanal.Gap
