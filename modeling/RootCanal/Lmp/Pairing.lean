import RootCanal.Lmp.KeyTransfer

/-!
# Secure Simple Pairing of two procedures

The procedure that initiates an authentication and the one that responds, as two processes joined by
channels (`Lib.Session`).  `rules` says what the hosts may reply, what the hosts are told
(`successLog`, `failureLog`), and that requests for features are served on the way.

The two procedures are followed segment by segment: features, IO capabilities, the keys
(`KeyTransfer`), the first stage for each association method, the second stage.  A lemma `safe_*`
takes both sides over a segment, given that they are safe afterwards.

* **`guided_authentication`**: for all parameters and all features the procedures reach agreement,
  if the hosts give replies that are handled (`Handled`) and each side can compute the secret.

Source: `lmp/procedure/authentication.rs`, `lmp/procedure/secure_simple_pairing.rs`,
`lmp/procedure/features.rs`
-/

namespace RootCanal.Lmp

open Lib Lib.Session

/-! ## What hosts say -/

/-- The replies of a host that goes along with the pairing, and has no link key. -/
def Positive (params : Side → AuthenticationParams) (x : Side) : Command → Prop
  | .linkKeyRequestNegativeReply => True
  | .ioCapabilityRequestReply p => p = params x
  | .userConfirmationRequestReply => True
  | .userPasskeyRequestReply => True
  | .remoteOobDataRequestReply => True
  | _ => False

instance Positive.decidable (params : Side → AuthenticationParams) (x : Side) (c : Command) :
    Decidable (Positive params x c) :=
  decidable_of_iff (c ∈ [.linkKeyRequestNegativeReply, .ioCapabilityRequestReply (params x),
    .userConfirmationRequestReply, .userPasskeyRequestReply, .remoteOobDataRequestReply]) (by
      cases c <;> simp [Positive])

/-- The replies of a host that does not. -/
def Command.negative : Command → Bool
  | .ioCapabilityRequestNegativeReply _ => true
  | .userConfirmationRequestNegativeReply => true
  | .userPasskeyRequestNegativeReply => true
  | .remoteOobDataRequestNegativeReply => true
  | _ => false

/-- The negative replies that the procedures handle: a number that is not confirmed, a passkey that
is not entered unless both are to enter it, and out-of-band data that the responder does not
have. -/
def Handled (params : Side → AuthenticationParams) (x : Side) (c : Command) : Prop :=
  Positive params x c ∨ c = .userConfirmationRequestNegativeReply ∨
    (c = .userPasskeyRequestNegativeReply ∧ ∃ y, (params y).ioCapability ≠ .keyboardOnly) ∨
    (c = .remoteOobDataRequestNegativeReply ∧ x = .right)

instance Handled.decidable (params : Side → AuthenticationParams) (x : Side) (c : Command) :
    Decidable (Handled params x c) :=
  inferInstanceAs (Decidable (_ ∨ _ ∨ (_ ∧ ∃ _, _) ∨ _))

/-! ## What comes of a pairing -/

/-- The events that tell how the pairing went. -/
def Event.noted : Event → Option Event
  | .ioCapabilityResponse p => some (.ioCapabilityResponse p)
  | .simplePairingComplete status => some (.simplePairingComplete status)
  | .linkKeyNotification keyType => some (.linkKeyNotification keyType)
  | _ => none

/-- The event of an output, if it tells how the pairing went. -/
def Output.noted? : Output → Option Event
  | .event e => e.noted
  | .packet _ => none

section outcome

variable (ctx : Side → Context) (params : Side → AuthenticationParams)
  (allowed : Side → Command → Prop)

/-- The curve of the key that the initiator generates. -/
def curve : Curve :=
  if (ctx .left).supports Features.secureConnectionsHostSupport ∧
      (ctx .right).supports Features.secureConnectionsHostSupport then .p256 else .p192

/-- The key that the initiator sends. -/
def initiatorKey : PublicKey := (ctx .left).publicKey (curve ctx)

/-- The key that the responder sends. -/
def responderKey : PublicKey := (ctx .right).publicKey (initiatorKey ctx).curve

/-- The secret of each side, if it can be computed. -/
def secret : Side → Option DhKey
  | .left => (ctx .left).sharedSecret (curve ctx) (responderKey ctx)
  | .right => (ctx .right).sharedSecret (initiatorKey ctx).curve (initiatorKey ctx)

/-- The association method of the pairing. -/
def method : SecureSimplePairing.AuthenticationMethod :=
  SecureSimplePairing.authenticationMethod (params .left) (params .right)

/-- The type of the link key of each side.  Without a secret a side does not come to have one. -/
def keyType (x : Side) : KeyType :=
  SecureSimplePairing.linkKeyType (method params) ((secret ctx x).getD .p192)

/-- What a side tells of a pairing that succeeds. -/
def successLog (x : Side) : List Event :=
  [.ioCapabilityResponse (params x.other), .simplePairingComplete .success,
    .linkKeyNotification (keyType ctx params x)]

/-- What a side tells of a pairing that fails. -/
def failureLog (x : Side) : List Event :=
  [.ioCapabilityResponse (params x.other), .simplePairingComplete .authenticationFailure]

/-- The session of two link managers that pair. -/
def rules : Rules Future Packet Prompt Command Event Event :=
  session ctx allowed Output.noted? fun logs => (∀ x, logs x = successLog ctx params x) ∨
    ((∃ x c, allowed x c ∧ c.negative = true) ∧ ∀ x, logs x = failureLog params x)

theorem linkRules_rules : LinkRules ctx Output.noted? (rules ctx params allowed) :=
  linkRules_session fun _ _ _ => rfl

end outcome

/-! ## Commitments -/

namespace SecureSimplePairing

variable {ctx : Side → Context} {params : Side → AuthenticationParams}
  {allowed : Side → Command → Prop}
  {log log' : List Event} {x : Side}

theorem sendCommitments_succ (n : ℕ) : sendCommitments (n + 1) = sendConfirm.bind fun _ =>
    receiveConfirm.bind fun c => (sendCommitment c).bind fun _ => sendCommitments n := rfl

theorem receiveCommitments_succ (n : ℕ) : receiveCommitments (n + 1) = receiveConfirm.bind fun c =>
    (receiveCommitment (some c)).bind fun _ => receiveCommitments n := rfl

section rounds

variable {k k' : Unit → Procedure Unit}
  (h : Safe (rules ctx params allowed) (joint x ⟨k (), log⟩ ⟨k' (), log'⟩ [] []))

include h

/-- The nonces go back and forth. -/
theorem safe_numbers :
    Safe (rules ctx params allowed)
      (joint x ⟨sendNumbers.bind k, log⟩ ⟨receiveNumbers.bind k', log'⟩ [] []) := by
  refine .passR (fun _ => rfl) rfl rfl ?_
  refine .passL (fun _ => rfl) rfl rfl ?_
  refine .passL (fun _ => rfl) rfl rfl ?_
  refine .passR (fun _ => rfl) rfl rfl ?_
  exact h

/-- The responder commits itself first. -/
theorem safe_commitment :
    Safe (rules ctx params allowed)
      (joint x ⟨receiveConfirm.bind fun c => (sendCommitment c).bind k, log⟩
      ⟨(receiveCommitment none).bind k', log'⟩ [] []) := by
  refine .passL (fun _ => rfl) rfl rfl ?_
  show Safe _
    (joint x ⟨(sendCommitment buildCommitment).bind k, log⟩ ⟨receiveNumbers.bind k', log'⟩ [] [])
  exact safe_numbers h

/-- The initiator commits itself first. -/
theorem safe_commitments_one : Safe (rules ctx params allowed) (joint x
      ⟨sendConfirm.bind fun _ => receiveConfirm.bind fun c => (sendCommitment c).bind k, log⟩
      ⟨receiveConfirm.bind fun c => (receiveCommitment (some c)).bind k', log'⟩ [] []) := by
  refine .passR (fun _ => rfl) rfl rfl ?_
  show Safe _ (joint x ⟨receiveConfirm.bind fun c => (sendCommitment c).bind k, log⟩
    ⟨(receiveCommitment (some buildCommitment)).bind k', log'⟩ [] [])
  exact safe_commitment h

/-- The rounds of a passkey entry. By induction on their number. -/
theorem safe_commitments (n : ℕ) :
    Safe (rules ctx params allowed) (joint x ⟨(sendCommitments n).bind k, log⟩
      ⟨(receiveCommitments n).bind k', log'⟩ [] []) := by
  induction n with
  | zero => exact h
  | succ _ ih =>
    simp only [sendCommitments_succ, receiveCommitments_succ, Proc.bind_assoc]
    exact safe_commitments_one ih

end rounds

/-! ## Prompts -/

theorem request_bind (event : Event) (reply negativeReply : OpCode) (answers : Option OpCode)
    (k : Except Unit Unit → Procedure Unit) :
    (request event reply negativeReply answers).bind k =
      .emit event (.command ⟨[reply, negativeReply], answers⟩ fun c =>
        if c.opCode = reply then .emit (.commandComplete reply .success) (k (.ok ()))
        else .emit (.commandComplete negativeReply .success) (k (.error ()))) := by
  show Proc.emit event (.command ⟨[reply, negativeReply], answers⟩ fun c =>
    Proc.bind (if c.opCode = reply then _ else _) k) = _
  congr 2
  funext c
  split <;> rfl

/-- A host is asked: the pairing goes on with each of the two answers that it may give. -/
theorem safe_requestL {event reply negativeReply answers k w i j d} (hevent : event.noted = none)
    (hd : d.opCode = reply)
    (hal : allowed x d)
    (href : ∀ m, m.foreign = true → Refuses (rules ctx params allowed) x m (k (.ok ())))
    (hok : Safe (rules ctx params allowed) (joint x ⟨k (.ok ()), log⟩ w i j))
    (herror : ∀ c, c.opCode = negativeReply → allowed x c →
      Safe (rules ctx params allowed) (joint x ⟨k (.error ()), log⟩ w i j)) :
    Safe (rules ctx params allowed)
      (joint x ⟨(request event reply negativeReply answers).bind k, log⟩ w i j) := by
  rw [request_bind]
  refine .emitL hevent ?_
  refine .commandL (c := d) ?_ hal ?_ ?_
  · show decide (d.opCode ∈ [reply, negativeReply]) = true
    simp [hd]
  · intro m hm
    rw [if_pos hd]
    exact href m hm
  · intro c hacc hal
    have hmem : c.opCode ∈ [reply, negativeReply] := of_decide_eq_true hacc
    by_cases hc : c.opCode = reply
    · rw [if_pos hc]
      exact .emitL rfl hok
    · rw [if_neg hc]
      have hneg : c.opCode = negativeReply := by simpa [hc] using hmem
      exact .emitL rfl (herror c hneg hal)

theorem safe_requestR {event reply negativeReply answers k v i j d} (hevent : event.noted = none)
    (hd : d.opCode = reply)
    (hal : allowed x.other d)
    (href : ∀ m, m.foreign = true → Refuses (rules ctx params allowed) x.other m (k (.ok ())))
    (hok : Safe (rules ctx params allowed) (joint x v ⟨k (.ok ()), log⟩ i j))
    (herror : ∀ c, c.opCode = negativeReply → allowed x.other c →
      Safe (rules ctx params allowed) (joint x v ⟨k (.error ()), log⟩ i j)) :
    Safe (rules ctx params allowed)
      (joint x v ⟨(request event reply negativeReply answers).bind k, log⟩ i j) := by
  rw [joint_comm] at hok ⊢
  refine safe_requestL hevent hd hal href hok fun c hc hal => ?_
  rw [← joint_comm]
  exact herror c hc hal

/-- A wait for the answer to a packet does not take a packet that begins a procedure. -/
theorem takes_sendAccepted {o m} (hm : m.foreign = true) :
    Future.takes (.sendAccepted o) m = false := by
  cases m with
  | accepted | notAccepted => simp [Packet.foreign, Packet.opcode] at hm
  | _ => rfl

theorem takes_receive {opcodes m} (hm : m.foreign = true)
    (hopcodes : ∀ o ∈ opcodes, o ∉ [Opcode.auRand, .ioCapabilityReq, .inRand, .encryptionModeReq]) :
    Future.takes (.receive opcodes) m = false := by
  refine decide_eq_false fun hmem => ?_
  exact hopcodes _ hmem (of_decide_eq_true hm)

/-! ## Stage 2 -/

/-- What has been told once the pairing has succeeded. -/
def succeeded (log : List Event) (kt : KeyType) : List Event :=
  log ++ [Event.simplePairingComplete .success] ++ [Event.linkKeyNotification kt]

/-- What has been told once the pairing has failed. -/
def failed (log : List Event) : List Event :=
  log ++ [Event.simplePairingComplete .authenticationFailure]

section stages

variable (kt kt' : KeyType) {k k' : Except Unit Unit → Procedure Unit}

/-- Both go on. -/
theorem safe_stage2 (h : Safe (rules ctx params allowed) (joint x ⟨k (.ok ()), succeeded log kt⟩
      ⟨k' (.ok ()), succeeded log' kt'⟩ [] [])) :
    Safe (rules ctx params allowed) (joint x ⟨(initiateStage2 kt (.ok ())).bind k, log⟩
      ⟨(respondStage2 kt' (.ok false)).bind k', log'⟩ [] []) := by
  -- the checks
  refine .passR (fun _ => rfl) rfl rfl ?_
  refine .passL (fun _ => rfl) rfl rfl ?_
  refine .passL (fun _ => rfl) rfl rfl ?_
  refine .sendL (fun _ => rfl) rfl ?_
  refine .tellL rfl ?_
  refine .receiveR rfl ?_
  refine .tellR rfl ?_
  -- the challenge of the initiator
  refine .passR (fun _ => rfl) rfl rfl ?_
  refine .passL (fun _ => rfl) rfl rfl ?_
  -- the challenge of the responder
  refine .passL (fun _ => rfl) rfl rfl ?_
  refine .passR (fun _ => rfl) rfl rfl ?_
  refine .tellL rfl ?_
  refine .tellR rfl ?_
  exact h

variable (h : Safe (rules ctx params allowed) (joint x ⟨k (.error ()), failed log⟩
  ⟨k' (.error ()), failed log'⟩ [] []))

include h

/-- The user of the responder has not confirmed the number. -/
theorem safe_stage2_unconfirmedR :
    Safe (rules ctx params allowed) (joint x ⟨(initiateStage2 kt (.ok ())).bind k, log⟩
      ⟨(respondStage2 kt' (.ok true)).bind k', log'⟩ [] []) := by
  refine .passR (fun _ => rfl) rfl rfl ?_
  refine .sendR (fun _ => rfl) rfl ?_
  refine .tellR rfl ?_
  refine .receiveL rfl ?_
  refine .tellL rfl ?_
  exact h

/-- The user of the initiator has not confirmed the number, and the responder has been told. -/
theorem safe_stage2_unconfirmedL (b : Bool) :
    Safe (rules ctx params allowed) (joint x ⟨(initiateStage2 kt (.error ())).bind k, log⟩
      ⟨(respondStage2 kt' (.ok b)).bind k', log'⟩ [] [.numericComparisonFailed]) := by
  refine .receiveR rfl ?_
  refine .tellL rfl ?_
  refine .tellR rfl ?_
  exact h

/-- Stage 1 has failed at both. -/
theorem safe_stage2_failed :
    Safe (rules ctx params allowed) (joint x ⟨(initiateStage2 kt (.error ())).bind k, log⟩
      ⟨(respondStage2 kt' (.error ())).bind k', log'⟩ [] []) := by
  refine .tellL rfl ?_
  refine .tellR rfl ?_
  exact h

end stages

/-! ## Stage 1 -/

/-- What the initiator does when its user has been asked for the number. -/
def afterConfirmation : Except Unit Unit → Procedure (Except Unit Unit)
  | .error () => .send .numericComparisonFailed (.ret (.error ()))
  | .ok () => .ret (.ok ())

/-- What the responder does. -/
def noteConfirmation : Except Unit Unit → Procedure (Except Unit Bool)
  | .error () => .ret (.ok true)
  | .ok () => .ret (.ok false)

/-- Neither device shows a passkey. -/
def isNumeric (initiator responder : AuthenticationParams) : Prop :=
  authenticationMethod initiator responder = .numericComparisonJustWork ∨
    authenticationMethod initiator responder = .numericComparisonUserConfirm

section methods

variable {initiator responder : AuthenticationParams}

/-- Stage 1 with numeric comparison, initiator. -/
theorem initiateStage1_numeric (h : isNumeric initiator responder) :
    initiateStage1 initiator responder =
    receiveConfirm.bind fun c => (sendCommitment c).bind fun _ =>
      userConfirmationRequest.bind afterConfirmation := by
  unfold initiateStage1
  rcases h with h | h <;> rw [h] <;> rfl

/-- Stage 1 with numeric comparison, responder. -/
theorem respondStage1_numeric (h : isNumeric initiator responder) :
    respondStage1 initiator responder =
    (receiveCommitment none).bind fun _ => userConfirmationRequest.bind noteConfirmation := by
  unfold respondStage1
  rcases h with h | h <;> rw [h] <;> rfl

/-- The entry of a passkey at the initiator. -/
def enterPasskey : Except Unit Unit → Procedure (Except Unit Unit)
  | .error () => .send .passkeyFailed (.ret (.error ()))
  | .ok () => sendConfirm.bind fun _ => receiveConfirm.bind sendPasskeyCommitments

/-- The commitment that follows a passkey that the initiator has shown. -/
def confirmShown : Packet → Procedure (Except Unit Unit)
  | .simplePairingConfirm confirm => sendPasskeyCommitments confirm
  | .notAccepted _ _ => pure (.error ())
  | _ => unreachable

/-- The commitment that follows a passkey that has been entered at the responder, or has not. -/
def confirmEntered (confirm : Chunk) : Except Unit Unit → Procedure (Except Unit Bool)
  | .error () =>
    .send (.notAccepted .simplePairingConfirm Hci.ErrorCode.authenticationFailure.toUInt8)
      (.ret (.error ()))
  | .ok () => receivePasskeyCommitments confirm

/-- The commitment that follows a passkey that the responder has shown. -/
def awaitEntry : Packet → Procedure (Except Unit Bool)
  | .simplePairingConfirm confirm => receivePasskeyCommitments confirm
  | .passkeyFailed => pure (.error ())
  | _ => unreachable

/-- What the initiator does with the data. -/
def afterData : Except Unit Unit → Procedure (Except Unit Unit)
  | .error () => .ret (.error ())
  | .ok () =>
    sendConfirm.bind fun _ => receiveConfirm.bind fun c => (sendCommitment c).bind
      fun _ => .ret (.ok ())

/-- Stage 1 with out of band data, initiator. -/
theorem initiateStage1_oob (h : authenticationMethod initiator responder = .outOfBand) :
    initiateStage1 initiator responder = (oobDataRequest initiator).bind afterData := by
  unfold initiateStage1
  rw [h]
  rfl

/-- Stage 1 with out of band data, responder. -/
theorem respondStage1_oob (h : authenticationMethod initiator responder = .outOfBand) :
    respondStage1 initiator responder = (oobDataRequest responder).bind fun _ =>
      receiveConfirm.bind fun c => (receiveCommitment (some c)).bind fun _ => .ret (.ok false) := by
  unfold respondStage1
  rw [h]
  rfl

variable (h : authenticationMethod initiator responder = .passkeyEntry)

include h

/-- A passkey is entered at one of the devices. -/
theorem keyboard_of_passkeyEntry :
    initiator.ioCapability = .keyboardOnly ∨ responder.ioCapability = .keyboardOnly := by
  by_contra hneither
  obtain ⟨hinit, hresponder⟩ := not_or.mp hneither
  unfold authenticationMethod at h
  simp only [hinit, hresponder, false_and, or_self, if_false] at h
  split_ifs at h

/-- The initiator's user enters the passkey. -/
theorem initiateStage1_enter (hkb : initiator.ioCapability = .keyboardOnly) :
    initiateStage1 initiator responder = userPasskeyRequest.bind enterPasskey := by
  unfold initiateStage1
  rw [h]
  rw [if_pos hkb]
  rfl

/-- The initiator shows the passkey. -/
theorem initiateStage1_show (hdisplay : initiator.ioCapability ≠ .keyboardOnly) :
    initiateStage1 initiator responder = .emit (.userPasskeyNotification 0)
      (sendConfirm.bind fun _ => .receive (.receive [.simplePairingConfirm, .notAccepted])
        confirmShown) := by
  unfold initiateStage1
  rw [h]
  rw [if_neg hdisplay]
  rfl

/-- The responder's user enters the passkey. -/
theorem respondStage1_enter (hkb : responder.ioCapability = .keyboardOnly) :
    respondStage1 initiator responder = userPasskeyRequest.bind fun entered =>
      receiveConfirm.bind fun confirm => confirmEntered confirm entered := by
  unfold respondStage1
  rw [h]
  rw [if_pos hkb]
  rfl

/-- The responder shows the passkey. -/
theorem respondStage1_show (hdisplay : responder.ioCapability ≠ .keyboardOnly) :
    respondStage1 initiator responder = .emit (.userPasskeyNotification 0)
      (.receive (.receive [.simplePairingConfirm, .passkeyFailed]) awaitEntry) := by
  unfold respondStage1
  rw [h]
  rw [if_neg hdisplay]
  rfl

end methods

/-! ## Both stages

What follows the pairing at each side is given by `k` and `k'`; it has to be safe after a success,
and after a failure if some host may give a negative reply. -/

/-- The two sides before the stages. -/
def atStages (params : Side → AuthenticationParams) (kt kt' : KeyType)
    (k k' : Except Unit Unit → Procedure Unit)
    (log log' : List Event) : Config Future Packet Prompt Command Event Event :=
  joint .left
    ⟨((initiateStage1 (params .left) (params .right)).bind (initiateStage2 kt)).bind k, log⟩
    ⟨((respondStage1 (params .left) (params .right)).bind (respondStage2 kt')).bind k', log'⟩ [] []

section both

variable {kt kt' : KeyType} {k k' : Except Unit Unit → Procedure Unit}
  (hpositive : ∀ x c, Positive params x c → allowed x c)
  (hhandled : ∀ x c, allowed x c → Handled params x c)
  (hsuccess : Safe (rules ctx params allowed) (joint .left ⟨k (.ok ()), succeeded log kt⟩
    ⟨k' (.ok ()), succeeded log' kt'⟩ [] []))
  (hfailure : (∃ x c, allowed x c ∧ c.negative = true) →
    Safe (rules ctx params allowed) (joint .left
    ⟨k (.error ()), failed log⟩ ⟨k' (.error ()), failed log'⟩ [] []))

theorem negative_of_unconfirmed {c : Command}
    (hc : c.opCode = .userConfirmationRequestNegativeReply) : c.negative = true := by
  cases c with
  | userConfirmationRequestNegativeReply => rfl
  | _ => cases hc

theorem eq_of_not_entered {c : Command} (hc : c.opCode = .userPasskeyRequestNegativeReply) :
    c = .userPasskeyRequestNegativeReply := by
  cases c with
  | userPasskeyRequestNegativeReply => rfl
  | _ => cases hc

theorem eq_of_no_data {c : Command} (hc : c.opCode = .remoteOobDataRequestNegativeReply) :
    c = .remoteOobDataRequestNegativeReply := by
  cases c with
  | remoteOobDataRequestNegativeReply => rfl
  | _ => cases hc

include hpositive hsuccess hfailure

/-- The users compare numbers. -/
theorem safe_numeric (hmeth : isNumeric (params .left) (params .right)) :
    Safe (rules ctx params allowed) (atStages params kt kt' k k' log log') := by
  rw [atStages, initiateStage1_numeric hmeth, respondStage1_numeric hmeth]
  simp only [Proc.bind_assoc]
  refine safe_commitment ?_
  refine safe_requestL (d := .userConfirmationRequestReply) rfl rfl (hpositive _ _ trivial)
    (fun m hm => takes_sendAccepted hm) ?_ ?_
  · refine safe_requestR (d := .userConfirmationRequestReply) rfl rfl (hpositive _ _ trivial)
      (fun m hm => takes_receive hm (by decide)) ?_ ?_
    · exact safe_stage2 _ _ hsuccess
    · intro c hc hal
      exact safe_stage2_unconfirmedR _ _ (hfailure ⟨_, c, hal, negative_of_unconfirmed hc⟩)
  · intro c hc hal
    have hfail := hfailure ⟨_, c, hal, negative_of_unconfirmed hc⟩
    refine .sendL (fun _ => rfl) rfl ?_
    refine safe_requestR (d := .userConfirmationRequestReply) rfl rfl (hpositive _ _ trivial)
      (fun m hm => takes_receive hm (by decide)) ?_ ?_
    · exact safe_stage2_unconfirmedL kt kt' hfail false
    · intro c' _ _
      exact safe_stage2_unconfirmedL kt kt' hfail true

omit hpositive hsuccess hfailure in
/-- The rounds of a passkey entry, once the responder has the first commitment.  The initiator waits
for that of the responder, in one way or another. -/
theorem safe_passkey_rounds {f g l l'} (hf : f.takes (.simplePairingConfirm buildCommitment) = true)
    (hg : g (.simplePairingConfirm buildCommitment) =
      (sendPasskeyCommitments buildCommitment).bind l)
    (h : Safe (rules ctx params allowed) (joint x ⟨l (.ok ()), log⟩ ⟨l' (.ok false), log'⟩ [] [])) :
    Safe (rules ctx params allowed) (joint x ⟨.receive f g, log⟩
      ⟨(receivePasskeyCommitments buildCommitment).bind l', log'⟩ [] []) := by
  have hreceive : (receivePasskeyCommitments buildCommitment).bind l' =
      .send (.simplePairingConfirm buildCommitment) (receiveNumbers.bind fun _ =>
        (receiveCommitments (passkeyEntryRepeatNumber - 1)).bind fun _ => l' (.ok false)) := by
    show ((receiveCommitment (some buildCommitment)).bind fun _ =>
      (receiveCommitments (passkeyEntryRepeatNumber - 1)).bind fun _ => .ret (.ok false)).bind l' =
        _
    simp only [Proc.bind_assoc]
    rfl
  have hsend : (sendPasskeyCommitments buildCommitment).bind l = sendNumbers.bind fun _ =>
      (sendCommitments (passkeyEntryRepeatNumber - 1)).bind fun _ => l (.ok ()) := by
    show ((sendCommitment buildCommitment).bind fun _ =>
      (sendCommitments (passkeyEntryRepeatNumber - 1)).bind fun _ => .ret (.ok ())).bind l = _
    simp only [Proc.bind_assoc]
    rfl
  rw [hreceive]
  refine .sendR (fun _ => rfl) rfl ?_
  refine .receiveL hf ?_
  rw [hg, hsend]
  refine safe_numbers ?_
  exact safe_commitments h _

variable (hmeth : authenticationMethod (params .left) (params .right) = .passkeyEntry)

include hmeth

/-- The passkey is entered at the initiator and shown at the responder. -/
theorem safe_passkey_enter_show (hleft : (params .left).ioCapability = .keyboardOnly)
    (hrt : (params .right).ioCapability ≠ .keyboardOnly) :
    Safe (rules ctx params allowed) (atStages params kt kt' k k' log log') := by
  rw [atStages, initiateStage1_enter hmeth hleft, respondStage1_show hmeth hrt]
  simp only [Proc.bind_assoc]
  refine .emitR rfl ?_
  refine safe_requestL (d := .userPasskeyRequestReply) rfl rfl (hpositive _ _ trivial)
    (fun m hm => takes_receive hm (by decide)) ?_ ?_
  · refine .passR (fun _ => rfl) rfl rfl ?_
    exact safe_passkey_rounds (l := fun a => (initiateStage2 kt a).bind k) rfl rfl
      (safe_stage2 kt kt' hsuccess)
  · intro c hc hal
    refine .passR (fun _ => rfl) rfl rfl ?_
    refine safe_stage2_failed kt kt' (hfailure ⟨_, c, hal, ?_⟩)
    rw [eq_of_not_entered hc]
    rfl

/-- The passkey is shown at the initiator and entered at the responder. -/
theorem safe_passkey_show_enter (hleft : (params .left).ioCapability ≠ .keyboardOnly)
    (hrt : (params .right).ioCapability = .keyboardOnly) :
    Safe (rules ctx params allowed) (atStages params kt kt' k k' log log') := by
  rw [atStages, initiateStage1_show hmeth hleft, respondStage1_enter hmeth hrt]
  simp only [Proc.bind_assoc]
  refine .emitL rfl ?_
  refine .sendL (fun _ => rfl) rfl ?_
  refine safe_requestR (d := .userPasskeyRequestReply) rfl rfl (hpositive _ _ trivial)
    (fun m hm => takes_receive hm (by decide)) ?_ ?_
  · refine .receiveR rfl ?_
    exact safe_passkey_rounds (l := fun a => (initiateStage2 kt a).bind k) rfl rfl
      (safe_stage2 kt kt' hsuccess)
  · intro c hc hal
    refine .receiveR rfl ?_
    refine .passL (fun _ => rfl) rfl rfl ?_
    refine safe_stage2_failed kt kt' (hfailure ⟨_, c, hal, ?_⟩)
    rw [eq_of_not_entered hc]
    rfl

include hhandled

omit hfailure in
/-- The passkey is entered at both. Then neither host may fail to, since neither device could be
told. -/
theorem safe_passkey_enter_enter (hleft : (params .left).ioCapability = .keyboardOnly)
    (hrt : (params .right).ioCapability = .keyboardOnly) :
    Safe (rules ctx params allowed) (atStages params kt kt' k k' log log') := by
  have hentered : ∀ x c, c.opCode = .userPasskeyRequestNegativeReply → ¬ allowed x c := by
    intro x c hc hal
    rw [eq_of_not_entered hc] at hal
    have hkb : ∀ y, (params y).ioCapability = .keyboardOnly :=
        (Side.forall_iff .left).mpr ⟨hleft, hrt⟩
    simpa [Handled, Positive, hkb] using hhandled _ _ hal
  rw [atStages, initiateStage1_enter hmeth hleft, respondStage1_enter hmeth hrt]
  simp only [Proc.bind_assoc]
  refine safe_requestL (d := .userPasskeyRequestReply) rfl rfl (hpositive _ _ trivial)
    (fun m hm => takes_receive hm (by decide)) ?_ fun c hc hal => absurd hal (hentered _ c hc)
  refine safe_requestR (d := .userPasskeyRequestReply) rfl rfl (hpositive _ _ trivial)
    (fun m hm => takes_receive hm (by decide)) ?_ fun c hc hal => absurd hal (hentered _ c hc)
  refine .passR (fun _ => rfl) rfl rfl ?_
  exact safe_passkey_rounds (l := fun a => (initiateStage2 kt a).bind k) rfl rfl
    (safe_stage2 kt kt' hsuccess)

omit hmeth

omit hfailure in
/-- The devices use data that they have exchanged out of band.  The initiator may not be without it,
since the responder would not be told. -/
theorem safe_oob (hmeth : authenticationMethod (params .left) (params .right) = .outOfBand) :
    Safe (rules ctx params allowed) (atStages params kt kt' k k' log log') := by
  rw [atStages, initiateStage1_oob hmeth, respondStage1_oob hmeth]
  simp only [Proc.bind_assoc]
  -- both have what they need
  have hcommit : Safe (rules ctx params allowed) (joint .left
      ⟨(afterData (.ok ())).bind fun r => (initiateStage2 kt r).bind k, log⟩
      ⟨receiveConfirm.bind fun c => (receiveCommitment (some c)).bind fun _ =>
        (respondStage2 kt' (.ok false)).bind k', log'⟩ [] []) := by
    simp only [afterData, Proc.bind_assoc]
    exact safe_commitments_one (safe_stage2 kt kt' hsuccess)
  -- the answer of the responder's host does not matter
  have hrt : Safe (rules ctx params allowed) (joint .left
      ⟨(afterData (.ok ())).bind fun r => (initiateStage2 kt r).bind k, log⟩
      ⟨(oobDataRequest (params .right)).bind fun _ => receiveConfirm.bind fun c =>
        (receiveCommitment (some c)).bind fun _ => (respondStage2 kt' (.ok false)).bind k', log'⟩ []
          []) := by
    unfold oobDataRequest
    split
    · exact safe_requestR (d := .remoteOobDataRequestReply) rfl rfl (hpositive _ _ trivial)
        (fun m hm => takes_receive hm (by decide)) hcommit fun _ _ _ => hcommit
    · exact hcommit
  unfold oobDataRequest
  split
  · refine safe_requestL (d := .remoteOobDataRequestReply) rfl rfl (hpositive _ _ trivial)
      (fun m hm => takes_receive hm (by decide)) hrt fun c hc hal => ?_
    rw [eq_of_no_data hc] at hal
    simpa [Handled, Positive] using hhandled _ _ hal
  · exact hrt

/-- **Both stages of the authentication, with every method.** -/
theorem safe_stages : Safe (rules ctx params allowed) (atStages params kt kt' k k' log log') := by
  cases hmeth : authenticationMethod (params .left) (params .right) with
  | outOfBand => exact safe_oob hpositive hhandled hsuccess hmeth
  | numericComparisonJustWork => exact safe_numeric hpositive hsuccess hfailure (.inl hmeth)
  | numericComparisonUserConfirm => exact safe_numeric hpositive hsuccess hfailure (.inr hmeth)
  | passkeyEntry =>
    by_cases hleft : (params .left).ioCapability = .keyboardOnly
    · by_cases hrt : (params .right).ioCapability = .keyboardOnly
      · exact safe_passkey_enter_enter hpositive hhandled hsuccess hmeth hleft hrt
      · exact safe_passkey_enter_show hpositive hsuccess hfailure hmeth hleft hrt
    · have hrt := (keyboard_of_passkeyEntry hmeth).resolve_left hleft
      exact safe_passkey_show_enter hpositive hsuccess hfailure hmeth hleft hrt

end both

/-! ## The exchange of capabilities and keys -/

section exchange

variable {f : Future} {g : Packet → Procedure Unit}

/-- The initiator asks for a feature while the responder waits for another packet. -/
theorem guided_features {feature k}
    (hf : ∀ page last features, f.takes (.featuresReqExt page last features) = false)
    (h : Guided (rules ctx params allowed) (joint .left
      ⟨k ((ctx .left).supports feature ∧ (ctx .right).supports feature), log⟩
        ⟨.receive f g, log'⟩ [] [])) :
    Guided (rules ctx params allowed) (joint .left
      ⟨(Features.supportedOnBothPage1 (ctx .left) feature).bind k, log⟩
        ⟨.receive f g, log'⟩ [] []) := by
  unfold Features.supportedOnBothPage1 Features.supportedOnBothPage
  by_cases hleft : (ctx .left).supports feature
  · have hmask : (ctx .left).extendedFeatures 1 &&& feature ≠ 0 := hleft
    rw [if_pos hmask]
    refine .sendL ⟨_, _, rfl⟩ rfl ?_
    refine .serveR ⟨_, _, rfl⟩ rfl (hf _ _ _) ?_
    refine .receiveL ⟨_, _, rfl⟩ rfl rfl ?_
    simp only [hleft, true_and] at h
    exact h
  · have hmask : ¬ (ctx .left).extendedFeatures 1 &&& feature ≠ 0 := hleft
    rw [if_neg hmask]
    simp only [hleft, false_and, decide_false] at h
    exact h

variable (hpositive : ∀ x c, Positive params x c → allowed x c)
  (hhandled : ∀ x c, allowed x c → Handled params x c)

include hpositive hhandled

/-- A host tells its capabilities. -/
theorem guided_ioCapabilityL {k w} (hw : w.proc.Waits)
    (h : Guided (rules ctx params allowed) (joint x ⟨k (.ok (params x)), log⟩ w [] [])) :
    Guided (rules ctx params allowed) (joint x ⟨ioCapabilityRequest.bind k, log⟩ w [] []) := by
  refine .emitL hw rfl ?_
  refine .commandL hw ⟨.ioCapabilityRequestReply (params x), rfl, hpositive _ _ rfl⟩ ?_
  intro c hacc hal
  have hc : c = .ioCapabilityRequestReply (params x) := by
    have hhandled := hhandled _ _ hal
    cases c with
    | ioCapabilityRequestReply => simpa [Handled, Positive] using hhandled
    | ioCapabilityRequestNegativeReply => simp [Handled, Positive] at hhandled
    | _ => cases hacc
  subst hc
  exact .emitL hw rfl h

theorem guided_ioCapabilityR {k v} (hw : v.proc.Waits)
    (h : Guided (rules ctx params allowed) (joint x v ⟨k (.ok (params x.other)), log⟩ [] [])) :
    Guided (rules ctx params allowed) (joint x v ⟨ioCapabilityRequest.bind k, log⟩ [] []) := by
  rw [joint_comm] at h ⊢
  exact guided_ioCapabilityL hpositive hhandled hw h

omit hpositive hhandled in
/-- What is sent of a host's capabilities is read as it was. -/
theorem ioCapabilityResponse_toUInt8 (p : AuthenticationParams) :
    ioCapabilityResponse p.ioCapability.toUInt8 p.oobDataPresent.toUInt8
      p.authenticationRequirements.toUInt8 = .emit (.ioCapabilityResponse p) (.ret p) := by
  unfold ioCapabilityResponse
  simp only [IoCapability.ofUInt8?_toUInt8, OobDataPresent.ofUInt8?_toUInt8,
    AuthenticationRequirements.ofUInt8?_toUInt8]
  rfl

omit hpositive hhandled in
/-- Packets tell nothing of the pairing. -/
theorem notedOf_noted (ps : List Packet) : notedOf Output.noted? ps = [] :=
  List.filterMap_eq_nil_iff.mpr fun _ _ => rfl

omit hpositive hhandled in
theorem sharedSecret_of_isSome {c : Context} {curve : Curve} {key : PublicKey}
    (h : (c.sharedSecret curve key).isSome = true) :
    sharedSecret c curve key = .ret ((c.sharedSecret curve key).getD .p192) := by
  obtain ⟨dhKey, hsome⟩ := Option.isSome_iff_exists.mp h
  unfold sharedSecret
  rw [hsome]
  rfl

section keys

variable (hsecret : ∀ x, (secret ctx x).isSome) {k k' : Except Unit Unit → Procedure Unit}
  (hsuccess : Safe (rules ctx params allowed) (joint .left
    ⟨k (.ok ()), succeeded log (keyType ctx params .left)⟩
    ⟨k' (.ok ()), succeeded log' (keyType ctx params .right)⟩ [] []))
  (hfailure : (∃ x c, allowed x c ∧ c.negative = true) →
    Safe (rules ctx params allowed) (joint .left
    ⟨k (.error ()), failed log⟩ ⟨k' (.error ()), failed log'⟩ [] []))

include hsecret hsuccess hfailure

/-- The keys are exchanged and the two go through the stages. -/
theorem guided_keyExchange : Guided (rules ctx params allowed) (joint .left
      ⟨((initiateKeyExchange (ctx .left)).bind fun dhKey =>
        (initiateStage1 (params .left) (params .right)).bind
          (initiateStage2 (linkKeyType (method params) dhKey))).bind k, log⟩
      ⟨((respondKeyExchange (ctx .right)).bind fun dhKey =>
        (respondStage1 (params .left) (params .right)).bind
          (respondStage2 (linkKeyType (method params) dhKey))).bind k', log'⟩ [] []) := by
  have hinitiate : initiateKeyExchange (ctx .left) =
      (Features.supportedOnBothPage1 (ctx .left) Features.secureConnectionsHostSupport).bind
        fun b => (sendPublicKey ((ctx .left).publicKey (if b then .p256 else .p192))).bind fun _ =>
          receivePublicKey.bind fun key => sharedSecret (ctx .left)
            (if b then .p256 else .p192) key := rfl
  have hrespond : respondKeyExchange (ctx .right) = receivePublicKey.bind fun key =>
      (sendPublicKey ((ctx .right).publicKey key.curve)).bind fun _ =>
        sharedSecret (ctx .right) key.curve key := rfl
  rw [hinitiate, hrespond]
  simp only [Proc.bind_assoc]
  refine guided_features (f := .receive [.encapsulatedHeader]) (fun _ _ _ => rfl) ?_
  simp only [decide_eq_true_eq]
  refine Safe.guided ?_
  refine safe_publicKey _ ?_
  -- the responder sends its key
  rw [joint_comm]
  refine safe_publicKey _ ?_
  rw [← joint_comm]
  simp only [notedOf_noted, List.append_nil]
  have hleft : sharedSecret (ctx .left) (curve ctx) (responderKey ctx) = .ret
      ((secret ctx .left).getD .p192) := sharedSecret_of_isSome (hsecret .left)
  have hright : sharedSecret (ctx .right) (initiatorKey ctx).curve (initiatorKey ctx) =
      .ret ((secret ctx .right).getD .p192) :=
    sharedSecret_of_isSome (hsecret .right)
  show Safe _ (joint .left ⟨(sharedSecret (ctx .left) (curve ctx) (responderKey ctx)).bind _, log⟩
    ⟨(sharedSecret (ctx .right) (initiatorKey ctx).curve (initiatorKey ctx)).bind _, log'⟩ [] [])
  rw [hleft, hright]
  have hstages := safe_stages hpositive hhandled hsuccess hfailure
  simp only [atStages, Proc.bind_assoc] at hstages
  exact hstages

end keys

/-! ## The whole pairing -/

/-- What the initiator does when the responder has told its capabilities. -/
def initiateFrom (ctx : Context) (initiator : AuthenticationParams) :
    Packet → Procedure (Except Unit Unit)
  | .ioCapabilityRes ioCapabilities oobAuthenticationData authenticationRequirement =>
    (ioCapabilityResponse ioCapabilities oobAuthenticationData authenticationRequirement).bind
      fun responder =>
      (initiateKeyExchange ctx).bind fun dhKey => (initiateStage1 initiator responder).bind
        (initiateStage2 (linkKeyType (authenticationMethod initiator responder) dhKey))
  | _ => unreachable

/-- What the initiator does when its host has told its capabilities. -/
def initiateWith (ctx : Context) :
    Except Hci.ErrorCode AuthenticationParams → Procedure (Except Unit Unit)
  | .error _ => .emit (.simplePairingComplete .authenticationFailure) (.ret (.error ()))
  | .ok initiator =>
    .send (.ioCapabilityReq initiator.ioCapability.toUInt8 initiator.oobDataPresent.toUInt8
      initiator.authenticationRequirements.toUInt8) (.receive (.receive [.ioCapabilityRes])
        (initiateFrom ctx initiator))

/-- What the responder does when its host has told its capabilities. -/
def respondWith (ctx : Context) (initiator : AuthenticationParams) :
    Except Hci.ErrorCode AuthenticationParams → Procedure (Except Unit Unit)
  | .error reason => .send (.notAcceptedExt .ioCapabilityReq reason.toUInt8)
      (.emit (.simplePairingComplete .authenticationFailure) (.ret (.error ())))
  | .ok responder =>
    .send (.ioCapabilityRes responder.ioCapability.toUInt8 responder.oobDataPresent.toUInt8
      responder.authenticationRequirements.toUInt8) ((respondKeyExchange ctx).bind fun dhKey =>
        (respondStage1 initiator responder).bind
          (respondStage2 (linkKeyType (authenticationMethod initiator responder) dhKey)))

omit hpositive hhandled in
theorem initiate_eq (ctx : Context) : initiate ctx = ioCapabilityRequest.bind (initiateWith ctx) :=
  rfl

omit hpositive hhandled in
theorem respond_eq (ctx : Context) (p : AuthenticationParams) :
    respond ctx p.ioCapability.toUInt8 p.oobDataPresent.toUInt8
      p.authenticationRequirements.toUInt8 =
      .emit (.ioCapabilityResponse p) (ioCapabilityRequest.bind (respondWith ctx p)) := by
  show (ioCapabilityResponse _ _ _).bind _ = _
  rw [ioCapabilityResponse_toUInt8]
  rfl

/-- **Two devices pair, from the first question to the host of the initiator on.** -/
theorem guided_initiate {k} (hsecret : ∀ x, (secret ctx x).isSome)
    (hsuccess : Safe (rules ctx params allowed) (joint .left
      ⟨k (.ok ()), successLog ctx params .left⟩ ⟨.ret (), successLog ctx params .right⟩ [] []))
    (hfailure : (∃ x c, allowed x c ∧ c.negative = true) →
      Safe (rules ctx params allowed) (joint .left
      ⟨k (.error ()), failureLog params .left⟩ ⟨.ret (), failureLog params .right⟩ [] [])) :
    Guided (rules ctx params allowed) (joint .left ⟨(initiate (ctx .left)).bind k, []⟩
      ⟨Authentication.respond (ctx .right), []⟩ [] []) := by
  rw [initiate_eq, Proc.bind_assoc]
  refine guided_ioCapabilityL hpositive hhandled ⟨_, _, rfl⟩ ?_
  refine .sendL ⟨_, _, rfl⟩ rfl ?_
  refine .receiveR ⟨_, _, rfl⟩ rfl rfl ?_
  show Guided _ (joint .left _ ⟨(respond (ctx .right) (params .left).ioCapability.toUInt8
    (params .left).oobDataPresent.toUInt8 (params .left).authenticationRequirements.toUInt8).bind
      fun _ => .ret (), []⟩ [] [])
  rw [respond_eq]
  refine .tellR ⟨_, _, rfl⟩ rfl ?_
  show Guided _
    (joint .left _ ⟨(ioCapabilityRequest.bind (respondWith (ctx .right) (params .left))).bind
      fun _ => .ret (), _⟩ [] [])
  rw [Proc.bind_assoc]
  refine guided_ioCapabilityR hpositive hhandled ⟨_, _, rfl⟩ ?_
  refine .sendR ⟨_, _, rfl⟩ rfl ?_
  refine .receiveL ⟨_, _, rfl⟩ rfl rfl ?_
  show Guided _ (joint .left ⟨((ioCapabilityResponse (params .right).ioCapability.toUInt8
    (params .right).oobDataPresent.toUInt8 (params .right).authenticationRequirements.toUInt8).bind
      _).bind k, []⟩
      _ [] [])
  rw [ioCapabilityResponse_toUInt8]
  refine .tellL ⟨_, _, rfl⟩ rfl ?_
  show Guided _ (joint .left
    ⟨((initiateKeyExchange (ctx .left)).bind fun dhKey =>
      (initiateStage1 (params .left) (params .right)).bind
      (initiateStage2 (linkKeyType (method params) dhKey))).bind k, _⟩
    ⟨((respondKeyExchange (ctx .right)).bind fun dhKey =>
      (respondStage1 (params .left) (params .right)).bind
      (respondStage2 (linkKeyType (method params) dhKey))).bind fun _ => .ret (), _⟩ [] [])
  exact guided_keyExchange hpositive hhandled hsecret hsuccess hfailure

/-- The end of the procedure of the initiator. -/
def endAuthentication : Except Unit Unit → Procedure Unit
  | .error () => .emit (.authenticationComplete .authenticationFailure) (.ret ())
  | .ok () => .emit (.authenticationComplete .success) (.ret ())

/-- **The procedures of the two sides are guided**, once the initiator has been told to
authenticate, when both support the pairing and can compute the secret. -/
theorem guided_authentication (hsecret : ∀ x, (secret ctx x).isSome)
    (hsup : ∀ x, (ctx x).supports Features.secureSimplePairingHostSupport) :
    ∃ k, Authentication.initiate (ctx .left) = .command ⟨[.authenticationRequested], none⟩ k ∧
      ∀ c, Guided (rules ctx params allowed) (joint .left ⟨k c, []⟩
        ⟨Authentication.respond (ctx .right), []⟩ [] []) := by
  refine ⟨_, rfl, fun _ => ?_⟩
  refine .emitL ⟨_, _, rfl⟩ rfl ?_
  refine .emitL ⟨_, _, rfl⟩ rfl ?_
  refine .commandL ⟨_, _, rfl⟩ ⟨.linkKeyRequestNegativeReply, rfl, hpositive _ _ trivial⟩ ?_
  intro c hacc hal
  have hc : c = .linkKeyRequestNegativeReply := by
    have hhandled := hhandled _ _ hal
    cases c with
    | linkKeyRequestNegativeReply => rfl
    | linkKeyRequestReply => simp [Handled, Positive] at hhandled
    | _ => cases hacc
  subst hc
  refine .emitL ⟨_, _, rfl⟩ rfl ?_
  show Guided _
    (joint .left ⟨(Authentication.initiatePairing (ctx .left)).bind endAuthentication, []⟩ _ [] [])
  have hpairing : Authentication.initiatePairing (ctx .left) =
      (Features.supportedOnBothPage1 (ctx .left) Features.secureSimplePairingHostSupport).bind
        fun b => if b then initiate (ctx .left) else LegacyPairing.initiate := rfl
  rw [hpairing, Proc.bind_assoc]
  refine guided_features (f := .receive [.auRand, .ioCapabilityReq, .inRand]) (fun _ _ _ => rfl) ?_
  rw [decide_eq_true ⟨hsup .left, hsup .right⟩]
  show Guided _ (joint .left ⟨(initiate (ctx .left)).bind endAuthentication, []⟩
    ⟨Authentication.respond (ctx .right), []⟩ [] [])
  refine guided_initiate hpositive hhandled hsecret ?_ fun hneg => ?_
  · refine .emitL rfl ?_
    refine .ret (.inl ?_)
    exact (Side.forall_iff .left).mpr ⟨rfl, rfl⟩
  · refine .emitL rfl ?_
    refine .ret (.inr ⟨hneg, ?_⟩)
    exact (Side.forall_iff .left).mpr ⟨rfl, rfl⟩

end exchange

end SecureSimplePairing

end RootCanal.Lmp
