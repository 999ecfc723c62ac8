import RootCanal.Lib.Machine

/-!
# The watcher of file descriptors

The reading thread waits in `select`, collects the callbacks of the descriptors that are ready, and
runs them one after the other.  It holds the mutex for the whole round, so that the calls of other
threads wait for its end; the mutex is recursive, so that those of the callbacks do not.

* `started_after_stop`: **a callback that stops watching another descriptor does not keep the
  callback of that one from starting**, when both were collected in the same round.
* `not_started_while_stopped`: in every run in which no callback does so, the callback of a
  descriptor is not started after the watching was stopped, unless the descriptor is watched again.

Starting and stopping the thread is left out: without it no callback is started.

Source: `model/setup/async_manager.cc`
-/

namespace RootCanal.Setup

open Lib

variable {κ : Type}

/-- `map[fd] = callback` for a `std::map`, which is ordered by its keys. -/
def assign (fd : Int) (callback : κ) : List (Int × κ) → List (Int × κ)
  | [] => [(fd, callback)]
  | p :: map =>
    if fd < p.1 then (fd, callback) :: p :: map
    else if fd = p.1 then (fd, callback) :: map
    else p :: assign fd callback map

/-- Where the reading thread is: before `setUpFileDescriptorSet`, in `select`, or in a callback,
with those that were collected and not yet started.
Source: `ThreadRoutine` -/
inductive Phase (κ : Type)
  | looping
  | selecting (readFds : List Int)
  | running (fds : List (Int × κ))

/-- What is watched, and by whom. -/
structure AsyncFdWatcher (κ : Type) where
  watchedSharedFds : List (Int × κ)
  phase : Phase κ

/-- Source: `WatchFdForNonBlockingReads`, `StopWatchingFileDescriptor` -/
inductive Call (κ : Type)
  | watch (fd : Int) (callback : κ)
  | stop (fd : Int)

/-- The reading thread goes on, with what `select` finds ready; another thread calls; or the
callback that runs does. -/
inductive Input (κ : Type)
  | proceed (ready : List Int)
  | other (call : Call κ)
  | inner (call : Call κ)

/-- A call returns, or a callback is started. -/
inductive Output (κ : Type)
  | watched (fd : Int)
  | stopped (fd : Int)
  | started (fd : Int) (callback : κ)
  deriving DecidableEq

namespace AsyncFdWatcher

/-- A call of the watcher's interface. -/
def call (s : AsyncFdWatcher κ) : Call κ → AsyncFdWatcher κ × List (Output κ)
  | .watch fd callback =>
    (⟨assign fd callback s.watchedSharedFds, s.phase⟩, [.watched fd])
  | .stop fd => (⟨s.watchedSharedFds.filter fun p => p.1 ≠ fd, s.phase⟩, [.stopped fd])

/-- The next callback, or the end of the round.
Source: `runAppropriateCallbacks` -/
def runCallbacks (s : AsyncFdWatcher κ) : List (Int × κ) → AsyncFdWatcher κ × List (Output κ)
  | [] => ({ s with phase := .looping }, [])
  | p :: fds => ({ s with phase := .running fds }, [.started p.1 p.2])

/-- The watching thread goes on. -/
def proceed (s : AsyncFdWatcher κ) (ready : List Int) : AsyncFdWatcher κ × List (Output κ) :=
  match s.phase with
  | .looping => ({ s with phase := .selecting (s.watchedSharedFds.map Prod.fst) }, [])
  | .selecting readFds =>
    s.runCallbacks (s.watchedSharedFds.filter fun p => p.1 ∈ readFds ∧ p.1 ∈ ready)
  | .running fds => s.runCallbacks fds

/-- One step of some thread. A call of another thread waits while the mutex is held. -/
def step (s : AsyncFdWatcher κ) : Input κ → AsyncFdWatcher κ × List (Output κ)
  | .proceed ready => s.proceed ready
  | .other c =>
    match s.phase with
    | .running _ => (s, [])
    | _ => s.call c
  | .inner c =>
    match s.phase with
    | .running _ => s.call c
    | _ => (s, [])

end AsyncFdWatcher

/-- The watcher with the threads that use it. -/
def fdWatcher : Machine (AsyncFdWatcher κ) (Input κ) (Output κ) where
  step s i := .ok (s.step i)

/-- What an output says about `fd`: whether the last call that has returned stopped watching it. -/
def noted (fd : Int) (off : Bool) : Output κ → Bool
  | .watched fd' => off && fd' ≠ fd
  | .stopped fd' => off || fd' = fd
  | .started _ _ => off

/-- Of the calls about `fd` that have returned, the last one stopped watching it. -/
def stopped (fd : Int) (tr : List (Input κ × List (Output κ))) : Bool :=
  (tr.flatMap Prod.snd).foldl (noted fd) false

/-! ## The callbacks that can still be started -/

namespace AsyncFdWatcher

/-- What the round has collected and not yet started. -/
def collected (s : AsyncFdWatcher κ) : List (Int × κ) :=
  match s.phase with
  | .running fds => fds
  | _ => []

/-- A callback does not stop watching a descriptor whose own callback is still to be started in the
round. -/
def SparesCollected (s : AsyncFdWatcher κ) : Input κ → Prop
  | .inner (.stop fd) => ∀ p ∈ s.collected, p.1 ≠ fd
  | _ => True

instance SparesCollected.decidable (s : AsyncFdWatcher κ) :
    (i : Input κ) → Decidable (SparesCollected s i)
  | .inner (.stop fd) => inferInstanceAs (Decidable (∀ p ∈ s.collected, p.1 ≠ fd))
  | .proceed _ | .other _ | .inner (.watch _ _) => isTrue trivial

/-- The callbacks that can be started while nothing more is watched. -/
def startable (s : AsyncFdWatcher κ) : List (Int × κ) := s.watchedSharedFds ++ s.collected

variable {s : AsyncFdWatcher κ} {tr : List (Input κ × List (Output κ))} {i : Input κ} {p : Int × κ}

theorem stopped_snoc {fd out} :
    stopped fd (tr ++ [(i, out)]) = out.foldl (noted fd) (stopped fd tr) := by
  simp [stopped]

theorem mem_assign {fd callback} {map : List (Int × κ)} (h : p ∈ assign fd callback map) :
    p = (fd, callback) ∨ p ∈ map := by
  induction map with
  | nil => simpa [assign] using h
  | cons q map ih =>
    unfold assign at h
    split_ifs at h <;> grind

/-- A call makes startable at most what it watches, and nothing of what it stops. -/
theorem call_startable {c off} (hspares : ∀ fd, c = .stop fd → ∀ p ∈ s.collected, p.1 ≠ fd)
    (hold : p ∈ s.startable → off = false) (hp : p ∈ (s.call c).1.startable) :
    (s.call c).2.foldl (noted p.1) off = false := by
  cases c with
  | watch fd callback =>
    rcases List.mem_append.mp hp with hp | hp
    · rcases mem_assign hp with rfl | hp
      · simp [AsyncFdWatcher.call, noted]
      · simp [AsyncFdWatcher.call, noted, hold (List.mem_append_left _ hp)]
    · simp [AsyncFdWatcher.call, noted, hold (List.mem_append_right _ hp)]
  | stop fd => grind [AsyncFdWatcher.call, noted, startable, collected]

/-- What a step of the reading thread starts was startable, and so is what it leaves. -/
structure Proceeds (s : AsyncFdWatcher κ) (r : AsyncFdWatcher κ × List (Output κ)) : Prop where
  startable : ∀ p ∈ r.1.startable, p ∈ s.startable
  started : ∀ fd callback, .started fd callback ∈ r.2 → (fd, callback) ∈ s.startable
  noted : ∀ fd off, r.2.foldl (noted fd) off = off

theorem runCallbacks_proceeds {fds} (hfds : ∀ p ∈ fds, p ∈ s.startable) :
    Proceeds s (s.runCallbacks fds) := by
  cases fds with
  | nil => constructor <;> grind [runCallbacks, startable, collected]
  | cons => constructor <;> grind [runCallbacks, startable, collected, noted]

theorem proceed_proceeds {ready} : Proceeds s (s.proceed ready) := by
  unfold AsyncFdWatcher.proceed
  split
  · constructor <;> grind [startable, collected]
  · exact runCallbacks_proceeds (by grind [startable])
  · exact runCallbacks_proceeds (by grind [startable, collected])

theorem step_startable {off} (hC : SparesCollected s i) (hold : p ∈ s.startable → off = false)
    (hp : p ∈ (s.step i).1.startable) : (s.step i).2.foldl (noted p.1) off = false := by
  cases i with
  | proceed ready =>
    have hproceeds : Proceeds s (s.proceed ready) := proceed_proceeds
    exact (hproceeds.noted _ _).trans (hold (hproceeds.startable p hp))
  | other c =>
    unfold AsyncFdWatcher.step at hp ⊢
    dsimp only at hp ⊢
    split at hp
    · exact hold hp
    · -- while the mutex is free nothing is collected
      exact call_startable (by grind [collected]) hold hp
  | inner c =>
    unfold AsyncFdWatcher.step at hp ⊢
    dsimp only at hp ⊢
    split at hp
    · exact call_startable (by rintro fd rfl; exact hC) hold hp
    · exact hold hp

/-- **No callback is started for a descriptor that is no longer watched**, in any run in which no
callback stops watching a descriptor whose own callback is still to be started in the round. -/
theorem not_started_while_stopped (h : fdWatcher.Run SparesCollected ⟨[], .looping⟩ tr s)
    {fd callback} (hstart : .started fd callback ∈ (s.step i).2) : stopped fd tr = false := by
  have hlive : ∀ p ∈ s.startable, stopped p.1 tr = false := by
    refine h.invariant_trace (fun tr s => ∀ p ∈ s.startable, stopped p.1 tr = false)
      (by simp [stopped]) ?_
    intro tr s i s' out hlive hC hstep p hp
    simp only [fdWatcher, Except.ok.injEq, Prod.ext_iff] at hstep
    obtain ⟨rfl, rfl⟩ := hstep
    rw [stopped_snoc]
    exact step_startable hC (hlive p) hp
  cases i with
  | proceed ready => exact hlive _ (proceed_proceeds.started fd callback hstart)
  | other c | inner c =>
    unfold AsyncFdWatcher.step at hstart
    dsimp only at hstart
    split at hstart <;> cases c <;> simp [AsyncFdWatcher.call] at hstart

/-- The callback of the first of two descriptors stops watching that one, and then the other is
started. -/
theorem not_started_while_stopped_first :
    ∃ tr s, fdWatcher.Run SparesCollected ⟨[], .looping⟩ tr s ∧
      (stopped 1 tr = true ∧ .started 2 () ∈ (s.step (.proceed [])).2) ∧ stopped 2 tr = false :=
  fdWatcher.run_and [.other (.watch 1 ()), .other (.watch 2 ()), .proceed [], .proceed [1, 2],
    .inner (.stop 1)] (by decide) (by decide) fun _ _ hrun h => not_started_while_stopped hrun h.2

/-- The callback of the first of two descriptors stops watching the other, whose callback is started
next. -/
theorem started_after_stop : ∃ tr s, fdWatcher.Run (fun _ _ => True) ⟨[], .looping⟩ tr s ∧
    stopped 2 tr = true ∧ .started 2 () ∈ (s.step (.proceed [])).2 :=
  fdWatcher.exists_run (show fdWatcher.Meets _ _
    [.other (.watch 1 ()), .other (.watch 2 ()), .proceed [], .proceed [1, 2], .inner (.stop 2)]
      from by decide)
    (by decide)

end AsyncFdWatcher

end RootCanal.Setup
