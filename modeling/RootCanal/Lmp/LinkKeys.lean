import RootCanal.Lmp.Sessions

/-!
# Authentication by a link key or a PIN code

`Pairing` is about hosts that have no link key, and devices that both support Secure Simple Pairing.
Here are the other authentications: the host of the initiator has a link key, and then that of the
responder is asked for its own; or it has none, and one of the devices does not support the pairing,
so that they use a PIN code.

* `guided_linkKeyRequest`, `guided_challenge`, `guided_legacyPairing`: the segments of the two
  procedures.
* **`authentication_concludes`**: if the hosts answer their prompts (`MaySay`; a host that is asked
  for a PIN code gives one), every run of the two link managers comes to its end, with nothing left
  in the queues, and with exactly the events of `transcript` at each host.

Source: `lmp/procedure/authentication.rs`, `lmp/procedure/legacy_pairing.rs`
-/

namespace RootCanal.Lmp

open Lib Lib.Session

/-- The reply of a host that has a link key, or has none. -/
def linkKeyReply (key : Bool) : Command :=
  if key then .linkKeyRequestReply else .linkKeyRequestNegativeReply

/-- How a host answers its prompts: it gives its link key, or says that it has none, and it gives
the PIN code. -/
def MaySay (key : Side → Bool) (x : Side) (c : Command) : Prop :=
  c = .pinCodeRequestReply ∨ c = linkKeyReply (key x)

instance MaySay.decidable (key : Side → Bool) (x : Side) (c : Command) :
    Decidable (MaySay key x c) :=
  inferInstanceAs (Decidable (_ ∨ _))

/-- A host is asked for its link key. -/
def keyLog (key : Bool) : List Event :=
  [.linkKeyRequest, .commandComplete (linkKeyReply key).opCode .success]

/-- A host is asked for its PIN code, and told of the link key. -/
def pinLog : List Event :=
  [.pinCodeRequest, .commandComplete .pinCodeRequestReply .success,
    .linkKeyNotification .combination]

/-- The events of each host. -/
def transcript (key : Side → Bool) : Side → List Event
  | .left => [.commandStatus .authenticationRequested .success] ++ keyLog (key .left) ++
      (if key .left then [] else pinLog) ++
        [.authenticationComplete (if key .left && !key .right then .pinOrKeyMissing else .success)]
  | .right => if key .left then keyLog (key .right) else pinLog

/-- The event of an output, if it is one. -/
def Output.event? : Output → Option Event
  | .event e => some e
  | .packet _ => none

/-- The session of the two procedures, of which all events are kept. -/
abbrev authentication (ctx : Side → Context) (key : Side → Bool) :
    Rules Future Packet Prompt Command Event Event :=
  session ctx (MaySay key) Output.event? (· = transcript key)

/-- The end of the procedure of the initiator. -/
def endWith (failure : Hci.ErrorCode) : Except Unit Unit → Procedure Unit
  | .error () => .emit (.authenticationComplete failure) (.ret ())
  | .ok () => .emit (.authenticationComplete .success) (.ret ())

/-- The initiator is at a procedure, and the responder at its beginning. -/
abbrev begun (ctx : Side → Context) (proc : Procedure Unit) (log : List Event) :
    Config Future Packet Prompt Command Event Event :=
  joint .left ⟨proc, log⟩ ⟨Authentication.respond (ctx .right), []⟩ [] []

variable {ctx : Side → Context} {key : Side → Bool} {x : Side} {log : List Event}

/-- A host is asked for its link key while the other side waits. -/
theorem guided_linkKeyRequest {k w} (hw : w.proc.Waits)
    (h : Guided (authentication ctx key) (joint x ⟨k (key x), log ++ keyLog (key x)⟩ w [] [])) :
    Guided (authentication ctx key)
      (joint x ⟨Authentication.linkKeyRequest.bind k, log⟩ w [] []) := by
  refine .tellL hw rfl ?_
  refine .commandL hw ⟨linkKeyReply (key x), ?_, .inr rfl⟩ ?_
  · cases key x <;> rfl
  · rintro c hacc (rfl | rfl)
    · cases hacc
    · cases hkey : key x <;> rw [hkey] at h
      all_goals
        refine .tellL hw rfl ?_
        rw [List.append_assoc]
        exact h

/-- The initiator has a link key: the responder answers the challenge if it has one too. -/
theorem guided_challenge {k} (h : Safe (authentication ctx key) (joint .left
      ⟨k (if key .right then .ok () else .error ()), log⟩ ⟨.ret (), keyLog (key .right)⟩ [] [])) :
    Guided (authentication ctx key) (begun ctx (Authentication.sendChallenge.bind k) log) := by
  refine .sendL ⟨_, _, rfl⟩ rfl ?_
  refine .receiveR ⟨_, _, rfl⟩ rfl rfl ?_
  rw [joint_comm]
  refine guided_linkKeyRequest ⟨_, _, rfl⟩ ?_
  rw [← joint_comm]
  refine Safe.guided ?_
  show Safe _ (joint .left _ ⟨if key .right = true then _ else _, keyLog (key .right)⟩ [] [])
  cases hkey : key .right <;> rw [hkey] at h
  all_goals
    refine .passL (fun _ => rfl) rfl rfl ?_
    exact h

/-- The initiator has none, and the devices use a PIN code. -/
theorem guided_legacyPairing {k} (h : Safe (authentication ctx key) (joint .left
      ⟨k (.ok ()), log ++ pinLog⟩ ⟨.ret (), pinLog⟩ [] [])) :
    Guided (authentication ctx key) (begun ctx (LegacyPairing.initiate.bind k) log) := by
  have hpin : ∀ x, ∃ c, (authentication ctx key).accepts ⟨[.pinCodeRequestReply], none⟩ c = true ∧
      (authentication ctx key).allowed x c := fun _ => ⟨.pinCodeRequestReply, rfl, .inl rfl⟩
  refine .tellL ⟨_, _, rfl⟩ rfl ?_
  refine .commandL ⟨_, _, rfl⟩ (hpin _) fun _ _ _ => ?_
  refine .tellL ⟨_, _, rfl⟩ rfl ?_
  refine .sendL ⟨_, _, rfl⟩ rfl ?_
  refine .receiveR ⟨_, _, rfl⟩ rfl rfl ?_
  refine .tellR ⟨_, _, rfl⟩ rfl ?_
  rw [joint_comm]
  refine .commandL ⟨_, _, rfl⟩ (hpin _) fun _ _ _ => ?_
  rw [← joint_comm]
  refine .tellR ⟨_, _, rfl⟩ rfl ?_
  refine Safe.guided ?_
  -- the random number is accepted, and the keys are exchanged
  refine .passL (fun _ => rfl) rfl rfl ?_
  refine .passR (fun _ => rfl) rfl rfl ?_
  refine .passL (fun _ => rfl) rfl rfl ?_
  -- each challenges the other
  refine .passR (fun _ => rfl) rfl rfl ?_
  refine .passL (fun _ => rfl) rfl rfl ?_
  refine .passL (fun _ => rfl) rfl rfl ?_
  refine .passR (fun _ => rfl) rfl rfl ?_
  refine .tellL rfl ?_
  refine .tellR rfl ?_
  simp only [List.append_assoc]
  exact h

/-- The devices do not both support Secure Simple Pairing. -/
theorem guided_initiatePairing {k}
    (hsup : ∃ x, ¬ (ctx x).supports Features.secureSimplePairingHostSupport)
    (h : Guided (authentication ctx key) (begun ctx (LegacyPairing.initiate.bind k) log)) :
    Guided (authentication ctx key)
      (begun ctx ((Authentication.initiatePairing (ctx .left)).bind k) log) := by
  have hpairing : Authentication.initiatePairing (ctx .left) =
      (Features.supportedOnBothPage1 (ctx .left) Features.secureSimplePairingHostSupport).bind
        fun b => if b then SecureSimplePairing.initiate (ctx .left) else LegacyPairing.initiate :=
        rfl
  rw [hpairing, Proc.bind_assoc, Features.supportedOnBothPage1, Features.supportedOnBothPage]
  by_cases hleft : (ctx .left).extendedFeatures 1 &&& Features.secureSimplePairingHostSupport ≠ 0
  · rw [if_pos hleft]
    refine .sendL ⟨_, _, rfl⟩ rfl ?_
    refine .serveR ⟨_, _, rfl⟩ rfl rfl ?_
    refine .receiveL ⟨_, _, rfl⟩ rfl rfl ?_
    have hright : ¬ (ctx .right).extendedFeatures 1 &&&
        Features.secureSimplePairingHostSupport ≠ 0 := by
      obtain ⟨x, hx⟩ := hsup
      cases x with
      | left => exact absurd hleft hx
      | right => exact hx
    show Guided _ (joint .left ⟨Proc.bind (if decide ((ctx .right).extendedFeatures 1 &&&
      Features.secureSimplePairingHostSupport ≠ 0) = true then _ else _) k, log⟩ _ [] [])
    rw [decide_eq_false hright]
    exact h
  · rw [if_neg hleft]
    exact h

/-- **The procedures of the two sides are guided**, once the initiator has been told to
authenticate. -/
theorem guided_authentication
    (h : key .left = true ∨ ∃ x, ¬ (ctx x).supports Features.secureSimplePairingHostSupport) :
    ∃ k, Authentication.initiate (ctx .left) = .command ⟨[.authenticationRequested], none⟩ k ∧
      ∀ c, Guided (authentication ctx key) (begun ctx (k c) []) := by
  refine ⟨_, rfl, fun _ => ?_⟩
  refine .tellL ⟨_, _, rfl⟩ rfl ?_
  refine guided_linkKeyRequest ⟨_, _, rfl⟩ ?_
  cases hkey : key .left with
  | true =>
    show Guided _ (begun ctx (Authentication.sendChallenge.bind (endWith .pinOrKeyMissing)) _)
    refine guided_challenge ?_
    cases hright : key .right
    all_goals
      refine .tellL rfl ?_
      refine .ret ?_
      funext y
      cases y <;> simp [transcript, hkey, hright]
  | false =>
    show Guided _
      (begun ctx
      ((Authentication.initiatePairing (ctx .left)).bind (endWith .authenticationFailure)) _)
    have hsup := h.resolve_left (by simp [hkey])
    refine guided_initiatePairing hsup (guided_legacyPairing ?_)
    refine .tellL rfl ?_
    refine .ret ?_
    funext y
    cases y <;> simp [transcript, hkey]

/-- **Every authentication that is not Secure Simple Pairing concludes.**  In every run of two link
managers whose hosts answer their prompts: the two are not stuck before the end, every order of
steps that do something comes to the end, and then each host has been sent the events of its
`transcript` and the queues are empty. -/
theorem authentication_concludes (ctx : Side → Context) (key : Side → Bool)
    (hkey : key .left = true ∨ ∃ x, ¬ (ctx x).supports Features.secureSimplePairingHostSupport)
    {tr : List (Duplex.Input Input Unit × List (Side × Output))} {s : Pair}
    (h : pair.Run (Answered (MaySay key)) (start ctx) tr s) :
    (Stuck s → Ended s) ∧ pair.Concludes (Answered (MaySay key)) Idle Ended s ∧
      (Ended s → (∀ x, told Output.event? x tr = transcript key x) ∧ ∀ x, s.inbox x = [] ∧
        (s.node x).lmp = []) := by
  obtain ⟨k, hinitiate, hg⟩ := guided_authentication hkey
  have hreply : ∀ x c, MaySay key x c → c.opCode.isReply = true := by
    rintro x c (rfl | rfl)
    · rfl
    · cases key x <;> rfl
  have hlog : ∀ x, ((begun ctx (k .authenticationRequested) []).node x).log = [] := by
    intro x
    cases x <;> rfl
  obtain ⟨hstuck, hconcludes, -, hend⟩ := run_concludes (R := authentication ctx key) hreply
    (linkRules_session fun _ _ _ => rfl) (hg .authenticationRequested)
    (simulates_start hinitiate) hlog h
  refine ⟨hstuck, hconcludes, fun h => ⟨fun x => ?_, (hend h).2⟩⟩
  exact congrFun (hend h).1 x

/-- Neither device supports Secure Simple Pairing, and both hosts give the PIN code. -/
theorem authentication_concludes_pin : let ctx : Side → Context := fun _ =>
      ⟨fun _ => 0, fun curve => ⟨curve, .replicate _ (.replicate 16 0)⟩, fun _ _ => none⟩
    (∃ x, ¬ (ctx x).supports Features.secureSimplePairingHostSupport) ∧
      ∃ tr s, pair.Run (Answered (MaySay fun _ => false)) (start ctx) tr s ∧ Ended s ∧
        (∀ x, told Output.event? x tr = transcript (fun _ => false) x) ∧ ∀ x, s.inbox x = [] ∧
          (s.node x).lmp = [] := by
  intro ctx
  have hsup : ∃ x, ¬ (ctx x).supports Features.secureSimplePairingHostSupport := ⟨.left, by decide⟩
  refine ⟨hsup, ?_⟩
  refine pair.run_and (turns 1 ++ [.act .left (.hci .linkKeyRequestNegativeReply)] ++ turns 1 ++
    [.act .left (.hci .pinCodeRequestReply)] ++ turns 1 ++
    [.act .right (.hci .pinCodeRequestReply)] ++ turns 6)
    (by decide +kernel) (by decide +kernel) fun tr s hrun hend => ?_
  exact (authentication_concludes ctx _ (.inr hsup) hrun).2.2 hend

end RootCanal.Lmp
