import Mathlib.Data.List.Infix

/-!
# The search for a word in a stream

`Longest word w p` says that `p` is the longest beginning of the word with which `w` ends.  When the
first letter of the word does not occur in it again, one letter of the stream either goes on with
the beginning or starts a new one (`matchNext`), and nothing of the beginning is kept on a mismatch:
**`Longest.matchNext`**.
-/

namespace Lib

variable {β : Type} [DecidableEq β] {word w p q : List β} {x : β}

/-- The longest end of `w` that begins `word`. -/
structure Longest (word w p : List β) : Prop where
  isPrefix : p <+: word
  isSuffix : p <:+ w
  longest : ∀ q, q <+: word → q <:+ w → q.length ≤ p.length

/-- The beginning of the word after one more letter. -/
def matchNext (word p : List β) (x : β) : List β :=
  if word[p.length]? = some x then p ++ [x] else if word.head? = some x then [x] else []

omit [DecidableEq β] in
theorem concat_prefix_iff : q ++ [x] <+: word ↔ q <+: word ∧ word[q.length]? = some x := by
  constructor
  · rintro ⟨r, rfl⟩
    exact ⟨⟨x :: r, by simp⟩, by simp⟩
  · rintro ⟨⟨r, rfl⟩, hx⟩
    cases r with
    | nil => simp at hx
    | cons y r =>
      cases show y = x by simpa using hx
      exact ⟨r, by simp⟩

omit [DecidableEq β] in
/-- The word has no beginning inside another one. -/
theorem eq_nil_of_suffix (hword : ∀ a ∈ word.head?, a ∉ word.tail) (hp : p <+: word)
    (hq : q <+: word) (hsuf : q <:+ p) (hlt : q.length < p.length) : q = [] := by
  obtain ⟨t, rfl⟩ := hsuf
  cases q with
  | nil => rfl
  | cons a =>
    obtain ⟨r, rfl⟩ := hq
    obtain ⟨r', hr'⟩ := hp
    cases t with
    | nil => simp at hlt
    | cons =>
      refine absurd ?_ (hword a rfl)
      rw [← hr']
      simp

theorem Longest.matchNext (hword : ∀ a ∈ word.head?, a ∉ word.tail) (h : Longest word w p) (x : β) :
    Longest word (w ++ [x]) (matchNext word p x) := by
  have hlongest : ∀ q, q ++ [x] <+: word → q <:+ w →
      (q = p ∧ word[p.length]? = some x) ∨ q = [] := by
    intro q hq hsuf
    obtain ⟨hq, hx⟩ := concat_prefix_iff.mp hq
    rcases Nat.lt_or_eq_of_le (h.longest q hq hsuf) with hlt | heq
    · exact .inr
        (eq_nil_of_suffix hword h.isPrefix hq
        (List.suffix_of_suffix_length_le hsuf h.isSuffix hlt.le) hlt)
    · obtain rfl := (List.suffix_of_suffix_length_le hsuf h.isSuffix heq.le).eq_of_length heq
      exact .inl ⟨rfl, hx⟩
  have hall (r : List β) (hpos : 1 ≤ r.length ∨ word.head? ≠ some x)
      (hgoes : word[p.length]? = some x → p.length < r.length) :
      ∀ q, q <+: word → q <:+ w ++ [x] → q.length ≤ r.length := by
    intro q hq hsuf
    rcases List.suffix_concat_iff.mp hsuf with rfl | ⟨q, rfl, hinit⟩
    · exact Nat.zero_le _
    · rcases hlongest q hq hinit with ⟨rfl, hx⟩ | rfl
      · rw [List.length_append]
        exact hgoes hx
      · have hx := (concat_prefix_iff.mp hq).2
        rw [List.length_nil, ← List.head?_eq_getElem?] at hx
        exact hpos.elim id fun hne => absurd hx hne
  unfold Lib.matchNext
  split_ifs with hx hhead
  · exact ⟨concat_prefix_iff.mpr ⟨h.isPrefix, hx⟩, List.suffix_concat_iff.mpr
      (.inr ⟨p, rfl, h.isSuffix⟩), hall _ (.inl (by simp)) fun _ => by simp⟩
  · refine ⟨?_, List.suffix_append .., hall _ (.inl le_rfl) fun h => absurd h hx⟩
    exact concat_prefix_iff.mpr ⟨List.nil_prefix, by simpa [List.head?_eq_getElem?] using hhead⟩
  · exact ⟨List.nil_prefix, List.nil_suffix, hall _ (.inr hhead) fun h => absurd h hx⟩

omit [DecidableEq β] in
/-- The word has been found when all of it is the beginning. -/
theorem Longest.found_iff (h : Longest word w p) : word <:+ w ↔ p = word := by
  constructor
  · intro hw
    exact h.isPrefix.eq_of_length_le (h.longest word (List.prefix_refl _) hw)
  · rintro rfl
    exact h.isSuffix

end Lib
