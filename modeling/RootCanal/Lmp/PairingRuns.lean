import RootCanal.Lmp.Pairing

/-!
# Two link managers that pair

Two link managers joined by channels that keep the order.  The host of the left one asks for
authentication, the hosts have no link key, and both controllers support Secure Simple Pairing and
can compute the shared secret.

* `run_rules`: the link managers follow the session of their two procedures (`Sessions`) to its end.
* **`pairing_completes`**: with replies that are handled (`Handled`), no run gets stuck, both hosts
  are told once that the pairing is complete, with the same status, and no packet is left over.
* **`unhandled_replies_get_stuck`**: each of the other negative replies leaves a side waiting for
  ever.
* **`positive_pairing_succeeds`**: with positive replies the pairing succeeds, with one association
  method and one type of link key.

Source: `lmp/procedure/secure_simple_pairing.rs`, `lmp/procedure/authentication.rs`,
`lmp/procedure/mod.rs`
-/

namespace RootCanal.Lmp

open Lib Lib.Session

/-! ## What the hosts are told -/

/-- The status of a Simple Pairing Complete event. -/
def Event.completion? : Event → Option Hci.ErrorCode
  | .simplePairingComplete status => some status
  | _ => none

/-- The key type of a Link Key Notification event. -/
def Event.keyType? : Event → Option KeyType
  | .linkKeyNotification keyType => some keyType
  | _ => none

/-- The association method that a side chooses, with the parameters that its host has given and
those of the peer, which its host is told. -/
def chosenMethod (own : AuthenticationParams) (x : Side) :
    Event → Option SecureSimplePairing.AuthenticationMethod
  | .ioCapabilityResponse peer =>
    match x with
    | .left => some (SecureSimplePairing.authenticationMethod own peer)
    | .right => some (SecureSimplePairing.authenticationMethod peer own)
  | _ => none

section run

variable {ctx : Side → Context} {params : Side → AuthenticationParams}
  {allowed : Side → Command → Prop} {s : Pair}
  {tr : List (Duplex.Input Input Unit × List (Side × Output))}

theorem Handled.isReply {x d} (h : Handled params x d) : d.opCode.isReply = true := by
  cases d with
  | authenticationRequested | setConnectionEncryption => simp [Handled, Positive] at h
  | _ => rfl

/-- The hosts are told once, and the same, whether the pairing has succeeded. -/
theorem completions_of_final {logs} (h : (rules ctx params allowed).final logs) :
    ∃ status, ∀ x, (logs x).filterMap Event.completion? = [status] := by
  rcases h with h | ⟨-, h⟩
  · refine ⟨.success, fun x => ?_⟩
    rw [h x]
    rfl
  · refine ⟨.authenticationFailure, fun x => ?_⟩
    rw [h x]
    rfl

/-- **A run follows the session to its end.** -/
theorem run_rules (hpositive : ∀ x c, Positive params x c → allowed x c)
    (hhandled : ∀ x c, allowed x c → Handled params x c) (hsecret : ∀ x, (secret ctx x).isSome)
    (hsup : ∀ x, (ctx x).supports Features.secureSimplePairingHostSupport)
    (h : pair.Run (Answered allowed) (start ctx) tr s) :
    (Stuck s → Ended s) ∧ pair.Concludes (Answered allowed) Idle Ended s ∧
      (∃ logs, (rules ctx params allowed).final logs ∧ ∀ x, told Output.noted? x tr <+: logs x) ∧
      (Ended s → (rules ctx params allowed).final (fun x => told Output.noted? x tr) ∧
        ∀ x, s.inbox x = [] ∧ (s.node x).lmp = []) := by
  obtain ⟨k, hinitiate, hg⟩ := SecureSimplePairing.guided_authentication hpositive hhandled
    hsecret hsup
  refine run_concludes (R := rules ctx params allowed) (fun x c hal => (hhandled x c hal).isReply)
    (linkRules_rules ctx params allowed) (hg .authenticationRequested) (simulates_start hinitiate)
    (fun x => ?_) h
  cases x <;> rfl

end run

/-! ## Replies that are handled -/

/-- **Pairing completes.** -/
theorem pairing_completes (ctx : Side → Context) (params : Side → AuthenticationParams)
    (hsecret : ∀ x, (secret ctx x).isSome)
    (hsupport : ∀ x, (ctx x).supports Features.secureSimplePairingHostSupport)
    {tr : List (Duplex.Input Input Unit × List (Side × Output))} {s : Pair}
    (h : pair.Run (Answered (Handled params)) (start ctx) tr s) :
    (Stuck s → Ended s) ∧ pair.Concludes (Answered (Handled params)) Idle Ended s ∧
      (∀ x, ((told Output.noted? x tr).filterMap Event.completion?).length ≤ 1) ∧
      (Ended s → (∃ status, ∀ x, (told Output.noted? x tr).filterMap Event.completion? = [status]) ∧
        ∀ x, s.inbox x = [] ∧ (s.node x).lmp = []) := by
  obtain ⟨hstuck, hconcludes, ⟨logs, hfinal, hextends⟩, hend⟩ :=
    run_rules (fun _ _ h => .inl h) (fun _ _ h => h) hsecret hsupport h
  refine ⟨hstuck, hconcludes, fun x => ?_, fun h => ⟨completions_of_final (hend h).1, (hend h).2⟩⟩
  obtain ⟨status, hst⟩ := completions_of_final hfinal
  have hle := ((hextends x).filterMap Event.completion?).length_le
  rwa [hst x] at hle

/-- A controller that supports everything. -/
def sample : Context where
  extendedFeatures _ := 0xffffffffffffffff
  publicKey c := ⟨c, .replicate _ (.replicate 16 0)⟩
  sharedSecret
    | .p192, _ => some .p192
    | .p256, _ => some .p256

/-- A run up to the first prompt for IO capabilities. -/
def firstRequest : List (Duplex.Input Input Unit) :=
  turns 1 ++ [.act .left (.hci .linkKeyRequestNegativeReply)] ++ turns 2

/-- A run up to the second one. -/
def secondRequest (params : Side → AuthenticationParams) : List (Duplex.Input Input Unit) :=
  firstRequest ++ [.act .left (.hci (.ioCapabilityRequestReply (params .left)))] ++ turns 1

/-- A run up to the first stage of the authentication: the keys have been exchanged. -/
def firstStage (params : Side → AuthenticationParams) : List (Duplex.Input Input Unit) :=
  secondRequest params ++ [.act .right (.hci (.ioCapabilityRequestReply (params .right)))] ++
    turns 17

/-- The responder does not confirm the number. -/
theorem pairing_completes_unconfirmed : ∃ tr s,
    pair.Run (Answered (Handled fun _ => ⟨.displayYesNo, .notPresent, .noBonding⟩))
      (start fun _ => sample) tr s ∧
      Ended s ∧ (∃ status, ∀ x, (told Output.noted? x tr).filterMap Event.completion? = [status]) ∧
        ∀ x, s.inbox x = [] ∧ (s.node x).lmp = [] := by
  refine pair.run_and (firstStage (fun _ => ⟨.displayYesNo, .notPresent, .noBonding⟩) ++
    [.act .left (.hci .userConfirmationRequestReply),
      .act .right (.hci .userConfirmationRequestNegativeReply)] ++
      turns 5) (by decide +kernel) (by decide +kernel) fun tr s hrun hend => ?_
  exact (pairing_completes _ _ (by decide) (fun _ => by decide) hrun).2.2.2 hend

/-! ## Replies that are not handled -/

/-- The replies of a host. -/
def Reply (params : Side → AuthenticationParams) (x : Side) (c : Command) : Prop :=
  Positive params x c ∨ c.negative = true

instance Reply.decidable (params : Side → AuthenticationParams) (x : Side) (c : Command) :
    Decidable (Reply params x c) :=
  inferInstanceAs (Decidable (_ ∨ _))

/-- The hosts give replies with which neither side can go on, although a procedure has not
returned. -/
def GetsStuck (params : AuthenticationParams) (replies : List (Duplex.Input Input Unit)) : Prop :=
  pair.Meets (Answered (Reply fun _ => params)) (start fun _ => sample) replies ∧
    pair.ExecTo (fun _ s => Stuck s ∧ ¬ Ended s) (start fun _ => sample) replies

instance GetsStuck.decidable (params : AuthenticationParams)
    (replies : List (Duplex.Input Input Unit)) : Decidable (GetsStuck params replies) :=
  inferInstanceAs (Decidable (_ ∧ _))

/-- **Each reply that is not handled gets two link managers stuck**: IO capabilities that the
initiator or the responder refuses, a passkey that the initiator or the responder does not enter
although both are to, and out-of-band data that the initiator does not have. -/
theorem unhandled_replies_get_stuck :
    GetsStuck ⟨.displayYesNo, .notPresent, .noBonding⟩ (firstRequest ++
      [.act .left (.hci (.ioCapabilityRequestNegativeReply .pairingNotAllowed))] ++ turns 2) ∧
    GetsStuck ⟨.displayYesNo, .notPresent, .noBonding⟩
      (secondRequest (fun _ => ⟨.displayYesNo, .notPresent, .noBonding⟩) ++
        [.act .right (.hci (.ioCapabilityRequestNegativeReply .pairingNotAllowed))] ++ turns 2) ∧
    GetsStuck ⟨.keyboardOnly, .notPresent, .noBondingMitmProtection⟩
      (firstStage (fun _ => ⟨.keyboardOnly, .notPresent, .noBondingMitmProtection⟩) ++
        [.act .left (.hci .userPasskeyRequestNegativeReply),
          .act .right (.hci .userPasskeyRequestReply)] ++
        turns 3) ∧
    GetsStuck ⟨.keyboardOnly, .notPresent, .noBondingMitmProtection⟩
      (firstStage (fun _ => ⟨.keyboardOnly, .notPresent, .noBondingMitmProtection⟩) ++
        [.act .left (.hci .userPasskeyRequestReply), .act .right
          (.hci .userPasskeyRequestNegativeReply)] ++
        turns 3) ∧
    GetsStuck ⟨.displayYesNo, .p192Present, .noBonding⟩
      (firstStage (fun _ => ⟨.displayYesNo, .p192Present, .noBonding⟩) ++
        [.act .left (.hci .remoteOobDataRequestNegativeReply),
          .act .right (.hci .remoteOobDataRequestReply)] ++ turns 3) := by
  refine ⟨?_, ?_, ?_, ?_, ?_⟩ <;> decide +kernel

/-! ## Positive replies -/

/-- The secrets of the two sides match. -/
theorem secret_eq {ctx} (hcurve : ∀ x c, ((ctx x).publicKey c).curve = c)
    (hsecret : ∀ c, (ctx .left).sharedSecret c ((ctx .right).publicKey c) =
      (ctx .right).sharedSecret c ((ctx .left).publicKey c)) (x : Side) : secret ctx x =
        secret ctx .left := by
  cases x with
  | left => rfl
  | right =>
    show (ctx .right).sharedSecret (initiatorKey ctx).curve (initiatorKey ctx) =
      (ctx .left).sharedSecret (curve ctx) ((ctx .right).publicKey (initiatorKey ctx).curve)
    rw [show (initiatorKey ctx).curve = curve ctx from hcurve .left (curve ctx), hsecret]
    rfl

/-- **With positive replies pairing succeeds**: whatever comes, both procedures return; then both
hosts have been told of the success, with one association method and one type of link key, and no
packet is left over. -/
theorem positive_pairing_succeeds (ctx : Side → Context) (params : Side → AuthenticationParams)
    (htotal : ∀ x, (secret ctx x).isSome)
    (hsupport : ∀ x, (ctx x).supports Features.secureSimplePairingHostSupport)
    (hcurve : ∀ x c, ((ctx x).publicKey c).curve = c)
    (hsecret : ∀ c, (ctx .left).sharedSecret c ((ctx .right).publicKey c) =
      (ctx .right).sharedSecret c ((ctx .left).publicKey c))
    {tr : List (Duplex.Input Input Unit × List (Side × Output))} {s : Pair}
    (h : pair.Run (Answered (Positive params)) (start ctx) tr s) :
    (Stuck s → Ended s) ∧ pair.Concludes (Answered (Positive params)) Idle Ended s ∧
      (Ended s → (∀ x, s.inbox x = [] ∧ (s.node x).lmp = []) ∧
        ∃ method keyType, ∀ x, (told Output.noted? x tr).filterMap Event.completion? = [.success] ∧
          (told Output.noted? x tr).filterMap (chosenMethod (params x) x) = [method] ∧
          (told Output.noted? x tr).filterMap Event.keyType? = [keyType]) := by
  obtain ⟨hstuck, hconcludes, -, hend⟩ := run_rules (fun _ _ h => h) (fun _ _ h => .inl h)
    htotal hsupport h
  refine ⟨hstuck, hconcludes, fun h =>
    ⟨(hend h).2, method params, keyType ctx params .left, fun x => ?_⟩⟩
  have hok : told Output.noted? x tr = successLog ctx params x := by
    rcases (hend h).1 with h | ⟨⟨y, c, hc, hneg⟩, -⟩
    · exact h x
    · -- no positive reply is a negative one
      exfalso
      cases c with
      | ioCapabilityRequestNegativeReply | userConfirmationRequestNegativeReply
      | userPasskeyRequestNegativeReply | remoteOobDataRequestNegativeReply => exact hc
      | _ => cases hneg
  have hkey : keyType ctx params x = keyType ctx params .left := by
    rw [keyType, secret_eq hcurve hsecret x]
    rfl
  rw [hok, successLog, hkey]
  cases x with
  | left | right => exact ⟨rfl, rfl, rfl⟩

/-- Both hosts confirm the number. -/
theorem positive_pairing_succeeds_confirmed : ∃ tr s,
    pair.Run (Answered (Positive fun _ => ⟨.displayYesNo, .notPresent, .noBonding⟩))
      (start fun _ => sample) tr s ∧ Ended s ∧ (∀ x, s.inbox x = [] ∧ (s.node x).lmp = []) ∧
        ∃ method keyType, ∀ x, (told Output.noted? x tr).filterMap Event.completion? = [.success] ∧
          (told Output.noted? x tr).filterMap
            (chosenMethod ⟨.displayYesNo, .notPresent, .noBonding⟩ x) = [method] ∧
          (told Output.noted? x tr).filterMap Event.keyType? = [keyType] := by
  refine pair.run_and (firstStage (fun _ => ⟨.displayYesNo, .notPresent, .noBonding⟩) ++
    [.act .left (.hci .userConfirmationRequestReply),
      .act .right (.hci .userConfirmationRequestReply)] ++
      turns 8) (by decide +kernel) (by decide +kernel) fun tr s hrun hend => ?_
  exact (positive_pairing_succeeds _ _ (by decide) (fun _ => by decide) (fun _ _ => rfl)
    (fun _ => rfl) hrun).2.2 hend

end RootCanal.Lmp
