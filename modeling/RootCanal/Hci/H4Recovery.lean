import RootCanal.Lib.Search
import RootCanal.Hci.H4Parser

/-!
# Recovery of the H4 parser

A type octet of no packet type brings the parser into the recovery state, where it takes one octet
at a time and searches them for the HCI Reset command.  The first octet of the command does not
occur in it again, so the search may start over on a mismatch (`Lib.Longest`).

* **`recovery`: the parser leaves the recovery state with the first occurrence of the command, which
  it hands out, and it hands out nothing before.**

Source: `model/hci/h4_parser.cc` `Consume`
-/

namespace RootCanal.H4

open Lib

namespace H4Parser

variable {s : H4Parser} {w u : List UInt8}

/-- The parser has received `w` in the recovery state, without the command in it. -/
structure Searching (w : List UInt8) (s : H4Parser) : Prop where
  state : s.state = .hciRecovery
  type : s.hciPacketType = .command
  wanted : s.bytesWanted ≠ 0
  packet : Longest resetCommand w s.packet
  absent : s.packet ≠ resetCommand

theorem not_mem_tail_resetCommand : ∀ a ∈ resetCommand.head?, a ∉ resetCommand.tail := by
  rintro a ⟨⟩
  decide

/-- An octet in the recovery state. -/
theorem step_recover (hst : s.state = .hciRecovery) (octet : UInt8) : h4Parser.step s [octet] =
    advance (if (matchNext resetCommand s.packet octet).length = resetCommand.length then
      { s with packet := (matchNext resetCommand s.packet octet).tail, bytesWanted := 0 }
    else { s with packet := matchNext resetCommand s.packet octet }) := by
  have hstore : s.store octet [octet] = s.recover octet := by rw [store, hst]
  rw [step_octet (.inr hst), hstore]
  rfl

/-- One octet goes on with the search, or ends it. -/
theorem Searching.step (h : Searching w s) (octet : UInt8) : (resetCommand <:+ w ++ [octet] ∧ ∃ s',
      h4Parser.step s [octet] = .ok (s', [⟨.command, resetCommand.tail⟩]) ∧ s'.state = .hciType) ∨
    (¬ resetCommand <:+ w ++ [octet] ∧ ∃ s',
      h4Parser.step s [octet] = .ok (s', []) ∧ Searching (w ++ [octet]) s') := by
  have hnext := h.packet.matchNext not_mem_tail_resetCommand octet
  rw [hnext.found_iff, step_recover h.state]
  by_cases hfd : matchNext resetCommand s.packet octet = resetCommand
  · rw [hfd, if_pos rfl]
    simp [advance, h.state, finish, onPacketReady, h.type]
  · rw [if_neg fun heq => hfd (hnext.isPrefix.eq_of_length heq)]
    refine .inr ⟨hfd, { s with packet := matchNext resetCommand s.packet octet }, ?_,
      h.state, h.type, h.wanted, hnext, hfd⟩
    simp [advance, h.state, h.wanted]

/-- The type octet. -/
theorem searching_nil (octet : UInt8) (hst : s.state = .hciType)
    (hen : s.enableRecoveryState = true)
    (hoctet : PacketType.ofOctet octet = none) : ∃ s', h4Parser.step s [octet] = .ok (s', []) ∧
      Searching [] s' := by
  rw [step_octet (.inl hst), store, hst, advance]
  simp only [hoctet, hen, not_true, if_false]
  exact ⟨_, rfl, rfl, rfl, Nat.one_ne_zero, ⟨List.nil_prefix, List.nil_suffix, fun q _ hq =>
    hq.length_le⟩, List.cons_ne_nil _ _ ∘ Eq.symm⟩

/-- The octets before the command is complete. By induction on their end. -/
theorem Searching.exec (h : Searching [] s) (habs : ¬ resetCommand <:+: u) :
    ∃ tr s', h4Parser.exec s (u.map fun x => [x]) = .ok (tr, s') ∧ Searching u s' ∧
      tr.flatMap Prod.snd = [] := by
  induction u using List.reverseRecOn with
  | nil => exact ⟨[], s, rfl, h, rfl⟩
  | append_singleton u octet ih =>
    obtain ⟨tr, s₁, hx, h₁, hout⟩ := ih fun hin => habs (hin.trans (List.prefix_append ..).isInfix)
    rcases h₁.step octet with ⟨hfd, -⟩ | ⟨-, s', hstep, h'⟩
    · exact absurd hfd.isInfix habs
    · rw [List.map_append]
      exact ⟨_, s', Machine.exec_snoc hx hstep, h', by simp [hout]⟩

/-- **The search for the command**: until it has occurred, the parser stays and hands out nothing;
with its first occurrence the parser leaves, and hands it out. -/
theorem recovery (octet : UInt8) (u : List UInt8) (hstate : s.state = .hciType)
    (henabled : s.enableRecoveryState = true) (hoctet : PacketType.ofOctet octet = none) :
    (¬ resetCommand <:+: u → ∃ tr s', h4Parser.exec s ([octet] :: u.map fun x => [x]) =
      .ok (tr, s') ∧
      s'.state = .hciRecovery ∧ tr.flatMap Prod.snd = []) ∧
    (resetCommand <:+ u → ¬ resetCommand <:+: u.dropLast →
      ∃ tr s', h4Parser.exec s ([octet] :: u.map fun x => [x]) = .ok (tr, s') ∧
        s'.state = .hciType ∧ tr.flatMap Prod.snd = [⟨.command, [0x03, 0x0c, 0x00]⟩]) := by
  obtain ⟨s₁, hstep₁, h₁⟩ := searching_nil octet hstate henabled hoctet
  constructor
  · intro habs
    obtain ⟨tr, s', hx, h', hout⟩ := h₁.exec habs
    exact ⟨_, s', Machine.exec_cons hstep₁ hx, h'.state, hout⟩
  · intro hfd habs
    obtain ⟨v, x, rfl⟩ : ∃ v x, u = v ++ [x] :=
      (List.eq_nil_or_concat' u).resolve_left (by rintro rfl; cases List.suffix_nil.mp hfd)
    rw [List.dropLast_concat] at habs
    obtain ⟨tr, s₂, hx, h₂, hout⟩ := h₁.exec habs
    obtain ⟨-, s', hstep, hleft⟩ := (h₂.step x).resolve_right fun h => h.1 hfd
    rw [List.map_append]
    exact ⟨_, s', Machine.exec_cons hstep₁ (Machine.exec_snoc hx hstep), hleft, by simp [hout]; rfl⟩

theorem recovery_reset :
    ∃ tr s', h4Parser.exec (new true) [[0xff], [0x01], [0x03], [0x0c], [0x00]] = .ok (tr, s') ∧
    s'.state = .hciType ∧ tr.flatMap Prod.snd = [⟨.command, [0x03, 0x0c, 0x00]⟩] :=
  (recovery (s := new true) 0xff [0x01, 0x03, 0x0c, 0x00] rfl rfl rfl).2 (by decide) (by decide)

end H4Parser

end RootCanal.H4
