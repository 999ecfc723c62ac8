import RootCanal.Iso.Requests

/-!
# Answers to commands

**A command that is not answered with Success leaves the whole state as it was and sends nothing to
a peer** (`refused_changes_nothing`).

Some handlers refuse a command in the middle of a loop over its CISes, and LE Create BIG has a
check after its writes; what makes the second result true is that the loops only read, and that
the late check cannot fail (`checkBig_rtn`).
-/

namespace RootCanal.Iso

open Lib RootCanal.Hci RootCanal.Llcp

namespace IsoManager

/-- The status with which an output answers a command. -/
def answer? : Output → Option ErrorCode
  | .hci e => e.answer?
  | .llcp _ _ => none

/-- The statuses with which a list of outputs answers a command. -/
def answers (out : List Output) : List ErrorCode := out.filterMap answer?

section answers

variable {env : Env} {s s' : IsoManager} {out : List Output} {cmd : Command}

/-- Starting a request answers nothing. -/
theorem Started.answers (hstr : Started env s s' out) : answers out = [] := by
  cases hstr with
  | idle => rfl
  | sent => rfl

/-- A command either is refused, and then nothing changes, or is answered with Success. -/
theorem Effect.answers (he : Effect env s (.hci cmd) s' out) :
    (∃ status, status ≠ .success ∧ answers out = [status] ∧ s' = s ∧
      ∀ a p, Output.llcp a p ∉ out) ∨ answers out = [.success] := by
  cases he with
  | @refused _ _ status hans hne =>
    refine Or.inl ⟨status, hne, ?_, rfl, by simp⟩
    simp [IsoManager.answers, answer?, hans]
  | configured _ hans | dataPath _ hans =>
    right
    simp [IsoManager.answers, answer?, hans]
  | removedCig | accepted | rejected | disconnected => exact Or.inr rfl
  | created _ _ _ hstr =>
    right
    unfold IsoManager.answers
    rw [List.filterMap_append]
    have hn := hstr.answers
    unfold IsoManager.answers at hn
    rw [hn]
    rfl
  | broadcast _ _ hans =>
    right
    unfold IsoManager.answers
    rw [List.filterMap_map]
    exact hans

/-- **A command answered with a status other than Success changes nothing and sends nothing to a
peer**, in every state and with any parameters. -/
theorem refused_changes_nothing {status : ErrorCode}
    (h : isoManager.step s (env, .hci cmd) = .ok (s', out)) (hans : status ∈ answers out)
    (hne : status ≠ .success) : s' = s ∧ ∀ a p, Output.llcp a p ∉ out := by
  rcases (effect_of_step h).answers with ⟨-, -, -, hsame, hsilent⟩ | hok
  · exact ⟨hsame, hsilent⟩
  · rw [hok] at hans
    exact absurd (List.mem_singleton.mp hans) hne

end answers

/-- The second element of an LE Create CIS is refused after the first was found valid. -/
theorem refused_changes_nothing_second_element :
    ∃ tr s out, isoManager.Run (fun _ _ => True) new tr s ∧
      isoManager.step s (createCommand [0xe00, 0xe05]) = .ok (s, out) ∧
      answers out = [.unknownConnection] ∧ ∀ a p, Output.llcp a p ∉ out := by
  have hx : isoManager.ExecTo
      (fun _ s => ∃ r ∈ (isoManager.step s (createCommand [0xe00, 0xe05])).toOption,
      answers r.2 = [.unknownConnection]) new [linkUp, configureCommand 1 [1, 2]] := by
    decide +kernel
  obtain ⟨tr, s, hrun, ⟨s', out⟩, hstep, hans⟩ := isoManager.exists_free_run hx
  have hstep := toOption_eq_some.mp hstep
  obtain ⟨rfl, hsilent⟩ := refused_changes_nothing hstep
    (hans ▸ List.mem_singleton_self ErrorCode.unknownConnection) (by decide)
  exact ⟨tr, s', out, hrun, hstep, hans, hsilent⟩

end IsoManager

end RootCanal.Iso
