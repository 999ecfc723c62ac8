import RootCanal.Lib.Machine

/-!
# Decoders of framed streams

Frames are sent one after the other as octets, and the octets arrive in pieces.  A decoder is a
machine whose inputs are the pieces and whose outputs are the units the frames carry; `wants s` is
the most octets it takes next, and a piece `Fits` if it is not empty and no longer.

* `Framing` relates a decoder to the frames it takes: what its state says when no frame is begun
  (`Idle`), and once some octets of a frame were taken (`Taken`).
* `Position` is where the decoder stands in a list of frames.  One piece moves it
  (`Position.step`), so **however the octets of a list of frames are cut, the decoder gives out
  their units, each once and in order** (`Position.exec`, `Framing.exec_all`).
-/

namespace Lib

variable {σ β ω φ : Type}

/-- The piece is one the decoder takes: not empty, and no longer than it wants. -/
def Fits (wants : σ → Nat) (s : σ) (piece : List β) : Prop :=
  piece ≠ [] ∧ piece.length ≤ wants s

/-- A decoder takes the frames: the state it is in follows from the octets taken of a frame, and it
never asks for octets past the end of the frame. -/
structure Framing (M : Machine σ (List β) ω) (wants : σ → Nat) (octets : φ → List β)
    (unit : φ → ω) where
  /-- No frame is begun. -/
  Idle : σ → Prop
  /-- These octets of the frame have been taken. -/
  Taken : φ → List β → σ → Prop
  octets_ne_nil : ∀ f, octets f ≠ []
  idle_wants : ∀ {s}, Idle s → 0 < wants s
  start : ∀ {s} f, Idle s → Taken f [] s
  taken_wants : ∀ {f p q s}, Taken f p s → octets f = p ++ q → q ≠ [] →
    0 < wants s ∧ wants s ≤ q.length
  /-- A piece that does not end the frame. -/
  more : ∀ {f p c q s}, Taken f p s → octets f = p ++ (c ++ q) → q ≠ [] → Fits wants s c →
    ∃ s', M.step s c = .ok (s', []) ∧ Taken f (p ++ c) s'
  /-- The piece that ends the frame. -/
  done : ∀ {f p c s}, Taken f p s → octets f = p ++ c → Fits wants s c →
    ∃ s', M.step s c = .ok (s', [unit f]) ∧ Idle s'

namespace Framing

variable {M : Machine σ (List β) ω} {wants : σ → Nat} {octets : φ → List β} {unit : φ → ω}

/-- Where the decoder stands: the frames whose units are still to be given out, and the octets of
them still to be taken. -/
inductive Position (D : Framing M wants octets unit) : List φ → List β → σ → Prop
  | idle {fs : List φ} {s : σ} : D.Idle s → Position D fs (fs.flatMap octets) s
  | inside {f : φ} {fs : List φ} {p q : List β} {s : σ} : D.Taken f p s → octets f = p ++ q →
      q ≠ [] → Position D (f :: fs) (q ++ fs.flatMap octets) s

variable {D : Framing M wants octets unit} {fs : List φ} {rest piece : List β} {s : σ}

/-- The decoder always takes more. -/
theorem Position.wants_pos (h : D.Position fs rest s) : 0 < wants s := by
  cases h with
  | idle hidle => exact D.idle_wants hidle
  | inside htk hoct hne => exact (D.taken_wants htk hoct hne).1

/-- When octets are left, a frame is begun or can be. -/
theorem Position.of_rest (h : D.Position fs rest s) (hne : rest ≠ []) :
    ∃ f fs' p q, fs = f :: fs' ∧ D.Taken f p s ∧ octets f = p ++ q ∧ q ≠ [] ∧
      rest = q ++ fs'.flatMap octets := by
  cases h with
  | idle hidle =>
    cases fs with
    | nil => exact absurd rfl hne
    | cons f fs =>
      exact ⟨f, fs, [], octets f, rfl, D.start f hidle, rfl, D.octets_ne_nil f, List.flatMap_cons⟩
  | inside htk hoct hq => exact ⟨_, _, _, _, rfl, htk, hoct, hq, rfl⟩

/-- When none are left, every unit was given out. -/
theorem Position.of_nil (h : D.Position fs [] s) : fs = [] ∧ D.Idle s := by
  generalize hrs : ([] : List β) = rest at h
  cases h with
  | idle hidle =>
    cases fs with
    | nil => exact ⟨rfl, hidle⟩
    | cons f =>
      exact absurd (List.append_eq_nil_iff.mp hrs.symm).1 (D.octets_ne_nil f)
  | inside _ _ hq => exact absurd (List.append_eq_nil_iff.mp hrs.symm).1 hq

/-- **One piece**, which lies in one frame: it takes the decoder on, and the units given out and
those left are the units there were. -/
theorem Position.step (h : D.Position fs (piece ++ rest) s) (hfits : Fits wants s piece) :
    ∃ s' out fs', M.step s piece = .ok (s', out) ∧ D.Position fs' rest s' ∧
      out ++ fs'.map unit = fs.map unit := by
  obtain ⟨f, fs, p, q, rfl, htk, hoct, hq, hrs⟩ :=
    h.of_rest (List.append_ne_nil_of_left_ne_nil hfits.1 rest)
  have hlen := hfits.2.trans (D.taken_wants htk hoct hq).2
  obtain ⟨r, rfl⟩ := List.prefix_of_prefix_length_le ⟨rest, hrs⟩ (List.prefix_append q _) hlen
  rw [List.append_assoc, List.append_cancel_left_eq] at hrs
  subst hrs
  by_cases hr : r = []
  · subst hr
    rw [List.append_nil] at hoct
    obtain ⟨s', hstep, hidle⟩ := D.done htk hoct hfits
    exact ⟨s', [unit f], fs, hstep, .idle hidle, rfl⟩
  · obtain ⟨s', hstep, htk'⟩ := D.more htk hoct hr hfits
    exact ⟨s', [], f :: fs, hstep, .inside htk' (by rw [hoct, List.append_assoc]) hr, rfl⟩

/-- **Any number of pieces.** -/
theorem Position.exec {pieces} (h : D.Position fs (pieces.flatten ++ rest) s)
    (hfits : M.Meets (Fits wants) s pieces) :
    ∃ tr s' fs', M.exec s pieces = .ok (tr, s') ∧ D.Position fs' rest s' ∧
      tr.flatMap Prod.snd ++ fs'.map unit = fs.map unit := by
  induction pieces generalizing s fs with
  | nil => exact ⟨[], s, fs, rfl, h, rfl⟩
  | cons piece _ ih =>
    obtain ⟨hfit, hfits⟩ := hfits
    rw [List.flatten_cons, List.append_assoc] at h
    obtain ⟨s₁, out, fs₁, hstep, h₁, hun⟩ := h.step hfit
    rw [hstep] at hfits
    obtain ⟨tr, s', fs', hx, h', hun'⟩ := ih h₁ hfits
    refine ⟨(piece, out) :: tr, s', fs', ?_, h', ?_⟩
    · exact bind_eq_ok.mpr ⟨(s₁, out), hstep, bind_eq_ok.mpr ⟨(tr, s'), hx, rfl⟩⟩
    · rw [List.flatMap_cons, List.append_assoc, hun', hun]

/-- **All of the octets.** -/
theorem exec_all (D : Framing M wants octets unit) {pieces} (hidle : D.Idle s)
    (hpieces : pieces.flatten = fs.flatMap octets) (hfits : M.Meets (Fits wants) s pieces) :
    ∃ tr s', M.exec s pieces = .ok (tr, s') ∧ D.Idle s' ∧ tr.flatMap Prod.snd = fs.map unit := by
  have h : D.Position fs (pieces.flatten ++ []) s := by
    rw [List.append_nil, hpieces]
    exact .idle hidle
  obtain ⟨tr, s', fs', hx, h', hun⟩ := h.exec hfits
  obtain ⟨rfl, hidle'⟩ := h'.of_nil
  exact ⟨tr, s', hx, hidle', by simpa using hun⟩

end Framing

end Lib
