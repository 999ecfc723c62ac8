import Mathlib

/-!
# Reassembly of interleaved streams

Data units of several streams are cut into fragments and the fragments of all streams arrive in
one sequence.  Each fragment says where it stands in its unit (`Boundary`).

* `assemble` collects fragments in one buffer: a fragment that starts a unit clears the buffer, one
  that ends a unit gives out what was collected.
* `Fragmentation fs units`: the fragments `fs` of one stream carry `units`, each whole or cut into a
  first, any number of continuation and a last fragment.  On one stream the buffer gives back the
  units (`assemble_of_fragmentation`).
* `Begun` and `Carries` are what a receiver of one stream can say of the data it keeps: it is what
  has come of a unit so far, or a unit.
* **`assemble_project`: a buffer shared by all streams gives each stream what a buffer of its own
  would, as long as the streams are `Exclusive`:** no fragment of another stream comes between the
  fragments of one unit.
-/

namespace Lib.Reassembly

/-- Where a fragment stands in its unit. -/
inductive Boundary
  | first
  | continuation
  | complete
  | last
deriving DecidableEq, Repr

namespace Boundary

/-- The fragment is the first of its unit. -/
def starts : Boundary → Bool
  | .first | .complete => true
  | .continuation | .last => false

/-- The fragment is the last of its unit. -/
def ends : Boundary → Bool
  | .complete | .last => true
  | .first | .continuation => false

end Boundary

/-- A fragment of a stream: what identifies the stream, where it stands, what it is labelled with,
and what it carries. -/
structure Fragment (κ τ β : Type) where
  key : κ
  boundary : Boundary
  label : τ
  payload : List β

variable {κ τ β : Type}

/-- The buffer once a fragment is collected. -/
def collect (buffer : List β) (f : Fragment κ τ β) : List β :=
  if f.boundary.starts then f.payload else buffer ++ f.payload

/-- The unit a fragment ends, with the fragment. -/
def finished (buffer : List β) (f : Fragment κ τ β) : List (Fragment κ τ β × List β) :=
  if f.boundary.ends then [(f, collect buffer f)] else []

/-- What the buffer holds after a fragment. -/
def pending (buffer : List β) (f : Fragment κ τ β) : List β :=
  if f.boundary.ends then [] else collect buffer f

/-- Collect fragments in one buffer. Each unit comes with the fragment that ended it. -/
def assemble : List β → List (Fragment κ τ β) → List (Fragment κ τ β × List β)
  | _, [] => []
  | buffer, f :: fs => finished buffer f ++ assemble (pending buffer f) fs

/-- The fragments of one stream. -/
def project [DecidableEq κ] (k : κ) (fs : List (Fragment κ τ β)) : List (Fragment κ τ β) :=
  fs.filter fun f => f.key = k

/-- The stream whose unit is unfinished after a fragment. -/
def owner (f : Fragment κ τ β) : Option κ := if f.boundary.ends then none else some f.key

/-- While a unit of one stream is unfinished, only that stream sends; `open?` is the stream whose
unit is unfinished. -/
def Exclusive : Option κ → List (Fragment κ τ β) → Prop
  | _, [] => True
  | open?, f :: fs => (open? = none ∨ open? = some f.key) ∧ Exclusive (owner f) fs

/-! ## One stream -/

/-- The fragments carry the units: each unit is sent whole, or as a first, continuation and last
fragments. -/
inductive Fragmentation : List (Fragment κ τ β) → List (List β) → Prop
  | nil : Fragmentation [] []
  | complete {f : Fragment κ τ β} {fs : List (Fragment κ τ β)} {units : List (List β)} :
      f.boundary = .complete → Fragmentation fs units →
      Fragmentation (f :: fs) (f.payload :: units)
  | fragmented {f l : Fragment κ τ β} {mid fs : List (Fragment κ τ β)} {units : List (List β)} :
      f.boundary = .first → (∀ m ∈ mid, m.boundary = .continuation) → l.boundary = .last →
      Fragmentation fs units →
      Fragmentation (f :: (mid ++ l :: fs))
        ((f.payload ++ mid.flatMap (·.payload) ++ l.payload) :: units)

/-- Continuation fragments extend the buffer. -/
theorem assemble_continuation {mid fs : List (Fragment κ τ β)}
    (hmid : ∀ m ∈ mid, m.boundary = .continuation) (buffer : List β) :
    assemble buffer (mid ++ fs) = assemble (buffer ++ mid.flatMap (·.payload)) fs := by
  induction mid generalizing buffer with
  | nil => simp
  | cons m _ ih =>
    have hm : m.boundary = .continuation := hmid m (List.mem_cons_self ..)
    have hrs := ih (fun m' hm' => hmid m' (List.mem_cons_of_mem _ hm')) (buffer ++ m.payload)
    rw [List.cons_append, assemble, finished, pending, collect, hm]
    simpa [Boundary.starts, Boundary.ends] using hrs

/-- **On one stream the buffer gives back the units**, whatever it held before. -/
theorem assemble_of_fragmentation {fs : List (Fragment κ τ β)} {units : List (List β)}
    (h : Fragmentation fs units) (buffer : List β) :
    (assemble buffer fs).map Prod.snd = units := by
  induction h generalizing buffer with
  | nil => rfl
  | complete hf _ ih =>
    rw [assemble, finished, pending, collect, hf]
    simpa [Boundary.starts, Boundary.ends] using ih []
  | @fragmented f l mid fs _ hf hmid hl _ ih =>
    have hopen : assemble buffer (f :: (mid ++ l :: fs)) =
        assemble (f.payload ++ mid.flatMap (·.payload)) (l :: fs) := by
      rw [assemble, finished, pending, collect, hf, ← assemble_continuation hmid]
      simp [Boundary.starts, Boundary.ends]
    rw [hopen, assemble, finished, pending, collect, hl]
    simpa [Boundary.starts, Boundary.ends] using ih []

/-- The fragments of a stream begin with one that starts a unit. -/
theorem Fragmentation.starts {f : Fragment κ τ β} {fs : List (Fragment κ τ β)}
    {units : List (List β)} (h : Fragmentation (f :: fs) units) : f.boundary.starts = true := by
  cases h with
  | complete hf | fragmented hf => rw [hf]; rfl

/-- What the buffer held before a unit starts does not matter. -/
theorem assemble_of_starts {f : Fragment κ τ β} {fs : List (Fragment κ τ β)}
    (h : f.boundary.starts = true) (buffer : List β) :
    assemble buffer (f :: fs) = assemble [] (f :: fs) := by
  rw [assemble, assemble, finished, finished, pending, pending, collect, collect,
    if_pos h, if_pos h]

/-! ## The last unit of a stream

A receiver that keeps one unit, whole or as far as it has come, has to know which of the two it
has. -/

/-- The fragments end with those of a unit that is not finished, and this is what has come of it. -/
def Begun (fs : List (Fragment κ τ β)) (data : List β) : Prop :=
  ∃ before f mid, fs = before ++ f :: mid ∧ f.boundary = .first ∧
    (∀ m ∈ mid, m.boundary = .continuation) ∧ data = f.payload ++ mid.flatMap (·.payload)

/-- Some of the fragments, one after the other, carry the unit. -/
def Carries (fs : List (Fragment κ τ β)) (data : List β) : Prop :=
  ∃ before unit after, fs = before ++ unit ++ after ∧ Fragmentation unit [data]

section last

variable {fs : List (Fragment κ τ β)} {f : Fragment κ τ β} {data : List β}

theorem begun_first (hf : f.boundary = .first) : Begun (fs ++ [f]) f.payload :=
  ⟨fs, f, [], rfl, hf, nofun, by simp⟩

theorem Begun.continuation (h : Begun fs data) (hf : f.boundary = .continuation) :
    Begun (fs ++ [f]) (data ++ f.payload) := by
  obtain ⟨before, g, mid, rfl, hg, hmid, rfl⟩ := h
  refine ⟨before, g, mid ++ [f], by simp, hg, fun m hm => ?_, by simp⟩
  rcases List.mem_append.mp hm with hm | hm
  · exact hmid m hm
  · rw [List.mem_singleton.mp hm]
    exact hf

theorem carries_complete (hf : f.boundary = .complete) : Carries (fs ++ [f]) f.payload :=
  ⟨fs, [f], [], by simp, .complete hf .nil⟩

/-- The last fragment makes a unit of what was begun. -/
theorem Begun.last (h : Begun fs data) (hf : f.boundary = .last) :
    Carries (fs ++ [f]) (data ++ f.payload) := by
  obtain ⟨before, g, mid, rfl, hg, hmid, rfl⟩ := h
  exact ⟨before, g :: (mid ++ [f]), [], by simp, .fragmented hg hmid hf .nil⟩

/-- A unit begins with a fragment that starts one. -/
theorem Carries.starts (h : Carries fs data) :
    ∃ f ∈ fs, f.boundary.starts = true ∧ f.payload <+: data := by
  obtain ⟨before, unit, after, rfl, hunit⟩ := h
  cases hunit with
  | @complete f _ _ hf hrs =>
    exact ⟨f, by simp, by rw [hf]; rfl, List.prefix_refl _⟩
  | @fragmented f _ _ _ _ hf _ _ hrs =>
    exact ⟨f, by simp, by rw [hf]; rfl, by rw [List.append_assoc]; exact List.prefix_append _ _⟩

end last

/-! ## Several streams -/

section project

variable [DecidableEq κ] {k : κ} {f : Fragment κ τ β} {fs : List (Fragment κ τ β)}

theorem project_cons_self (hk : f.key = k) : project k (f :: fs) = f :: project k fs := by
  unfold project
  rw [List.filter_cons_of_pos (by simpa using hk)]

theorem project_cons_other (hk : f.key ≠ k) : project k (f :: fs) = project k fs := by
  unfold project
  rw [List.filter_cons_of_neg (by simpa using hk)]

/-- **A shared buffer gives each stream what a buffer of its own would**, when the streams are
exclusive.  The induction carries where the shared buffer stands: it is the buffer of the stream
whose unit is unfinished, and every other stream's buffer is empty. -/
theorem assemble_project {open? buffer} (hemp : open? = none → buffer = [])
    (h : Exclusive open? fs) (k : κ) : (assemble buffer fs).filter (fun u => u.1.key = k) =
      assemble (if open? = some k then buffer else []) (project k fs) := by
  induction fs generalizing open? buffer with
  | nil => rfl
  | cons f _ ih =>
    obtain ⟨hturn, hrs⟩ := h
    -- the buffer the stream of `f` finds is the shared one, the others find theirs empty
    have hself : (if open? = some f.key then buffer else []) = buffer := by
      rcases hturn with hn | hsome
      · rw [hemp hn]
        exact ite_self _
      · rw [if_pos hsome]
    have hoth : f.key ≠ k → (if open? = some k then buffer else []) = [] := by
      intro hk
      rcases hturn with hn | hsome
      · rw [hemp hn]
        exact ite_self _
      · exact if_neg (by rw [hsome]; simpa using hk)
    have hinvariant : owner f = none → pending buffer f = [] := by
      intro hn
      by_cases hends : f.boundary.ends = true
      · exact if_pos hends
      · rw [owner, if_neg hends] at hn
        cases hn
    rw [assemble, List.filter_append, ih hinvariant hrs]
    by_cases hk : f.key = k
    · subst hk
      have hnext : (if owner f = some f.key then pending buffer f else []) = pending buffer f := by
        by_cases hends : f.boundary.ends = true
        · rw [pending, if_pos hends]
          exact ite_self _
        · rw [owner, if_neg hends, if_pos rfl]
      have hfinished : (finished buffer f).filter (fun u => u.1.key = f.key) =
          finished buffer f := by
        unfold finished
        split
        · rw [List.filter_cons_of_pos (by simp), List.filter_nil]
        · rfl
      rw [project_cons_self rfl, assemble, hself, hnext, hfinished]
    · have hnext : (if owner f = some k then pending buffer f else []) = [] := by
        refine if_neg fun howner => hk ?_
        unfold owner at howner
        split at howner
        · cases howner
        · exact Option.some.inj howner
      have hfinished : (finished buffer f).filter (fun u => u.1.key = k) = [] := by
        unfold finished
        split
        · rw [List.filter_cons_of_neg (by simpa using hk), List.filter_nil]
        · rfl
      rw [project_cons_other hk, hoth hk, hnext, hfinished, List.nil_append]

end project

end Lib.Reassembly
