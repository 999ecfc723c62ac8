import RootCanal.Lib.Session
import RootCanal.Lmp.Packets

/-!
# The procedures of a link manager

The procedures are `async` functions.  Each is a process: it sends packets to the peer and events to
the host, and waits for a packet of one of some types, for the answer to a packet, or for a command.

A wait looks at the first packet of the queue only (`Future.poll`).  The wait for an answer polls
twice, for `Accepted` and then for `NotAccepted`, and drops a packet of these types that is about
something else.

Source: `lmp/procedure/mod.rs`, `authentication.rs`, `secure_simple_pairing.rs`,
`legacy_pairing.rs`, `encryption.rs`, `features.rs`
-/

namespace RootCanal.Lmp

open Lib Lib.Session
open RootCanal.Hci (ErrorCode)

/-! ## Waiting -/

/-- A wait for a packet. -/
inductive Future
  /-- A packet of one of these types.
  Source: `mod.rs` `ReceiveFuture` -/
  | receive (opcodes : List Opcode)
  /-- The answer to a packet of this type.
  Source: `mod.rs` `SendAcceptedLmpPacketFuture` -/
  | sendAccepted (opcode : Opcode)
  deriving DecidableEq, Repr

/-- The packet is taken if it is of one of the types. -/
def pollLmpPacket (opcodes : List Opcode) : List Packet → Option Packet × List Packet
  | [] => (none, [])
  | p :: lmp => if p.opcode ∈ opcodes then (some p, lmp) else (none, p :: lmp)

/-- The wait ends with this packet. -/
def Future.takes : Future → Packet → Bool
  | .receive opcodes, p => p.opcode ∈ opcodes
  | .sendAccepted opcode, .accepted o => o = opcode
  | .sendAccepted opcode, .notAccepted o _ => o = opcode
  | .sendAccepted _, _ => false

/-- Source: `ReceiveFuture::poll`, `SendAcceptedLmpPacketFuture::poll` -/
def Future.poll : Future → List Packet → Option Packet × List Packet
  | .receive opcodes, lmp => pollLmpPacket opcodes lmp
  | .sendAccepted opcode, lmp =>
    let (accepted, lmp) := pollLmpPacket [.accepted] lmp
    match accepted.filter (Future.takes (.sendAccepted opcode)) with
    | some p => (some p, lmp)
    | none =>
      let (notAccepted, lmp) := pollLmpPacket [.notAccepted] lmp
      (notAccepted.filter (Future.takes (.sendAccepted opcode)), lmp)

/-- A wait for a command: the commands that end it, and one that is completed while it lasts. -/
structure Prompt where
  takes : List OpCode
  answers : Option OpCode := none
  deriving DecidableEq, Repr

/-- The wait ends with the command. -/
def Prompt.accepts (g : Prompt) (c : Command) : Bool := c.opCode ∈ g.takes

/-- An `async` function of the source. -/
abbrev Procedure (α : Type) := Proc Future Packet Prompt Command Event α

/-- What the procedures know of their controller. The curve arithmetic is not modelled. -/
structure Context where
  extendedFeatures : UInt8 → UInt64
  /-- The public key of the private key that is generated for the curve. -/
  publicKey : Curve → PublicKey
  /-- The secret that this private key and a public key give.  There is none if the product of the
  two is the point at infinity, or if it cannot be brought into affine coordinates. -/
  sharedSecret : Curve → PublicKey → Option DhKey

/-- A packet is sent. -/
def sendLmpPacket (p : Packet) : Procedure Unit := .send p (.ret ())

/-- An event is sent. -/
def sendHciEvent (e : Event) : Procedure Unit := .emit e (.ret ())

/-- A packet of one of the opcodes is awaited. -/
def receiveLmpPacket (opcodes : List Opcode) : Procedure Packet := .receive (.receive opcodes) .ret

/-- A command of one of the opcodes is awaited. -/
def receiveHciCommand (opCodes : List OpCode) : Procedure Command := .command ⟨opCodes, none⟩ .ret

/-- Send a packet and wait until it is accepted or not. -/
def sendAcceptedLmpPacket (p : Packet) : Procedure (Except UInt8 Unit) :=
  .send p (.receive (.sendAccepted p.opcode) fun
    | .notAccepted _ errorCode => .ret (.error errorCode)
    | _ => .ret (.ok ()))

/-- A packet or a command of another type than the ones waited for. -/
def unreachable {α : Type} : Procedure α := .panic .explicit

/-! ## Features -/

namespace Features

/-- A features page is asked for. -/
def initiate (ctx : Context) (featuresPage : UInt8) : Procedure UInt64 := do
  sendLmpPacket (.featuresReqExt featuresPage 1 (ctx.extendedFeatures featuresPage))
  match ← receiveLmpPacket [.featuresResExt] with
  | .featuresResExt _ _ extendedFeatures => pure extendedFeatures
  | _ => unreachable

/-- The features are answered. -/
def respond (ctx : Context) : Procedure Unit := do
  match ← receiveLmpPacket [.featuresReqExt] with
  | .featuresReqExt featuresPage _ _ =>
    sendLmpPacket (.featuresResExt featuresPage 1 (ctx.extendedFeatures featuresPage))
  | _ => unreachable

/-- The peer is asked only if the feature is supported here. -/
def supportedOnBothPage (ctx : Context) (pageNumber : UInt8) (featureMask : UInt64) :
    Procedure Bool :=
  if ctx.extendedFeatures pageNumber &&& featureMask ≠ 0 then do
    let page ← initiate ctx pageNumber
    pure (page &&& featureMask ≠ 0)
  else
    pure false

/-- Source: `hci_packets.pdl` `LMPFeaturesPage1Bits` -/
def secureSimplePairingHostSupport : UInt64 := 0x01

/-- Source: `hci_packets.pdl` `LMPFeaturesPage1Bits` -/
def secureConnectionsHostSupport : UInt64 := 0x08

/-- Source: `hci_packets.pdl` `LMPFeaturesPage2Bits` -/
def secureConnectionsControllerSupport : UInt64 := 0x0100

/-- Both sides have the feature of page 1. -/
def supportedOnBothPage1 (ctx : Context) (feature : UInt64) : Procedure Bool :=
  supportedOnBothPage ctx 1 feature

/-- Both sides have the feature of page 2. -/
def supportedOnBothPage2 (ctx : Context) (feature : UInt64) : Procedure Bool :=
  supportedOnBothPage ctx 2 feature

end Features

/-! ## Challenges -/

namespace Authentication

/-- A challenge is sent and answered. -/
def sendChallenge : Procedure (Except Unit Unit) := do
  sendLmpPacket .auRand
  match ← receiveLmpPacket [.sres, .notAccepted] with
  | .sres => pure (.ok ())
  | .notAccepted _ _ => pure (.error ())
  | _ => unreachable

/-- A challenge is awaited and answered. -/
def receiveChallenge : Procedure Unit := do
  let _ ← receiveLmpPacket [.auRand]
  sendLmpPacket .sres

end Authentication

/-! ## Legacy pairing -/

namespace LegacyPairing

/-- Ask the host for the PIN code. -/
def pinCodeRequest : Procedure Unit := do
  sendHciEvent .pinCodeRequest
  let _ ← receiveHciCommand [.pinCodeRequestReply]
  sendHciEvent (.commandComplete .pinCodeRequestReply .success)

/-- The pairing with a PIN, by the initiator. -/
def initiate : Procedure (Except Unit Unit) := do
  pinCodeRequest
  let _ ← sendAcceptedLmpPacket .inRand
  sendLmpPacket .combKey
  let _ ← receiveLmpPacket [.combKey]
  let authResult ← Authentication.sendChallenge
  Authentication.receiveChallenge
  match authResult with
  | .error () => pure (.error ())
  | .ok () => do
    sendHciEvent (.linkKeyNotification .combination)
    pure (.ok ())

/-- The pairing with a PIN, by the responder. -/
def respond : Procedure (Except Unit Unit) := do
  pinCodeRequest
  sendLmpPacket (.accepted .inRand)
  let _ ← receiveLmpPacket [.combKey]
  sendLmpPacket .combKey
  Authentication.receiveChallenge
  let authResult ← Authentication.sendChallenge
  match authResult with
  | .error () => pure (.error ())
  | .ok () => do
    sendHciEvent (.linkKeyNotification .combination)
    pure (.ok ())

end LegacyPairing

/-! ## Secure simple pairing: `secure_simple_pairing.rs` -/

namespace SecureSimplePairing

/-- Protection against an attacker is asked for. -/
def hasMitm : AuthenticationRequirements → Bool
  | .noBonding | .dedicatedBonding | .generalBonding => false
  | .noBondingMitmProtection | .dedicatedBondingMitmProtection | .generalBondingMitmProtection =>
    true

/-- How the two sides authenticate. -/
inductive AuthenticationMethod
  | outOfBand
  | numericComparisonJustWork
  | numericComparisonUserConfirm
  | passkeyEntry
  deriving DecidableEq, Repr

/-- The method, from what the two hosts can do. -/
def authenticationMethod (initiator responder : AuthenticationParams) : AuthenticationMethod :=
  if initiator.oobDataPresent ≠ .notPresent ∨ responder.oobDataPresent ≠ .notPresent then
    .outOfBand
  else if !hasMitm initiator.authenticationRequirements &&
      !hasMitm responder.authenticationRequirements then .numericComparisonJustWork
  else if (initiator.ioCapability = .keyboardOnly ∧ responder.ioCapability ≠ .noInputNoOutput) ∨
      (responder.ioCapability = .keyboardOnly ∧ initiator.ioCapability ≠ .noInputNoOutput) then
    .passkeyEntry
  else if initiator.ioCapability = .displayYesNo ∧ responder.ioCapability = .displayYesNo then
    .numericComparisonUserConfirm
  else
    .numericComparisonJustWork

/-- The type of the link key. -/
def linkKeyType : AuthenticationMethod → DhKey → KeyType
  | .numericComparisonJustWork, .p256 => .unauthenticatedP256
  | .numericComparisonJustWork, .p192 => .unauthenticatedP192
  | _, .p256 => .authenticatedP256
  | _, .p192 => .authenticatedP192

/-- The chunks of a key, each after the one before has been answered.  The answers are not looked
at.
Source: `send_public_key` (the loop) -/
def sendChunks : List Chunk → Procedure Unit
  | [] => pure ()
  | chunk :: chunks => do
    let _ ← sendAcceptedLmpPacket (.encapsulatedPayload chunk)
    sendChunks chunks

/-- The key is sent in chunks. -/
def sendPublicKey (publicKey : PublicKey) : Procedure Unit := do
  let _ ← sendAcceptedLmpPacket (.encapsulatedHeader 1 1 (.ofNat publicKey.size))
  sendChunks publicKey.chunks.toList

/-- Source: `receive_public_key` (the loop) -/
def receiveChunks : (n : ℕ) → Procedure (List.Vector Chunk n)
  | 0 => pure .nil
  | n + 1 => do
    match ← receiveLmpPacket [.encapsulatedPayload] with
    | .encapsulatedPayload data => do
      sendLmpPacket (.accepted .encapsulatedPayload)
      let chunks ← receiveChunks n
      pure (.cons data chunks)
    | _ => unreachable

/-- The key is received in chunks. -/
def receivePublicKey : Procedure PublicKey := do
  match ← receiveLmpPacket [.encapsulatedHeader] with
  | .encapsulatedHeader _ _ payloadLength =>
    match PublicKey.new payloadLength.toNat with
    | none => .panic .unwrapNone
    | some key => do
      sendLmpPacket (.accepted .encapsulatedHeader)
      let chunks ← receiveChunks key.curve.chunkCount
      pure ⟨key.curve, chunks⟩
  | _ => unreachable

/-- The commitment, always zero. -/
def buildCommitment : Chunk := .replicate 16 0

/-- Wait for a commitment. -/
def receiveConfirm : Procedure Chunk := do
  match ← receiveLmpPacket [.simplePairingConfirm] with
  | .simplePairingConfirm commitmentValue => pure commitmentValue
  | _ => unreachable

/-- The rest of `receive_commitment`, from the nonce of the initiator on. -/
def receiveNumbers : Procedure Unit := do
  let _ ← receiveLmpPacket [.simplePairingNumber]
  sendLmpPacket (.accepted .simplePairingNumber)
  let _ ← sendAcceptedLmpPacket .simplePairingNumber

/-- Another commitment than the own one is not handled. -/
def receiveCommitment (confirm : Option Chunk) : Procedure Unit :=
  if confirm.any (· ≠ buildCommitment) then
    .panic .explicit
  else do
    sendLmpPacket (.simplePairingConfirm buildCommitment)
    receiveNumbers

/-- The rest of `send_commitment`, from the own nonce on. -/
def sendNumbers : Procedure Unit := do
  let _ ← sendAcceptedLmpPacket .simplePairingNumber
  let _ ← receiveLmpPacket [.simplePairingNumber]
  sendLmpPacket (.accepted .simplePairingNumber)

/-- The commitment is sent. -/
def sendCommitment (confirm : Chunk) : Procedure Unit :=
  if confirm ≠ buildCommitment then .panic .explicit else sendNumbers

/-- Ask the host and complete its answer.  The three requests of the source differ in the event, in
the commands and in the command that may come before the answer. -/
def request (event : Event) (reply negativeReply : OpCode) (answers : Option OpCode) :
    Procedure (Except Unit Unit) := do
  sendHciEvent event
  let command ← .command ⟨[reply, negativeReply], answers⟩ .ret
  if command.opCode = reply then
    sendHciEvent (.commandComplete reply .success)
    pure (.ok ())
  else
    sendHciEvent (.commandComplete negativeReply .success)
    pure (.error ())

/-- The host is asked to confirm. -/
def userConfirmationRequest : Procedure (Except Unit Unit) :=
  request (.userConfirmationRequest 27) .userConfirmationRequestReply
    .userConfirmationRequestNegativeReply none

/-- Key presses are completed while the host is asked. -/
def userPasskeyRequest : Procedure (Except Unit Unit) :=
  request .userPasskeyRequest .userPasskeyRequestReply .userPasskeyRequestNegativeReply
    (some .sendKeypressNotification)

/-- The host is asked for the data of the peer. -/
def remoteOobDataRequest : Procedure (Except Unit Unit) :=
  request .remoteOobDataRequest .remoteOobDataRequestReply .remoteOobDataRequestNegativeReply none

/-- Out-of-band data is asked for where the host has said that it is present. -/
def oobDataRequest (params : AuthenticationParams) : Procedure (Except Unit Unit) :=
  if params.oobDataPresent ≠ .notPresent then remoteOobDataRequest else pure (.ok ())

/-- The rounds of a passkey. -/
def passkeyEntryRepeatNumber : ℕ := 20

/-- Ask the host for its capabilities, the beginning of both procedures. -/
def ioCapabilityRequest : Procedure (Except ErrorCode AuthenticationParams) := do
  sendHciEvent .ioCapabilityRequest
  match ← receiveHciCommand [.ioCapabilityRequestReply, .ioCapabilityRequestNegativeReply] with
  | .ioCapabilityRequestReply params => do
    sendHciEvent (.commandComplete .ioCapabilityRequestReply .success)
    pure (.ok params)
  | .ioCapabilityRequestNegativeReply reason => do
    sendHciEvent (.commandComplete .ioCapabilityRequestNegativeReply .success)
    pure (.error reason)
  | _ => unreachable

/-- The capabilities of the peer, for the host. -/
def ioCapabilityResponse (ioCapabilities oobAuthenticationData authenticationRequirement : UInt8) :
    Procedure AuthenticationParams :=
  match IoCapability.ofUInt8? ioCapabilities, OobDataPresent.ofUInt8? oobAuthenticationData,
    AuthenticationRequirements.ofUInt8? authenticationRequirement with
  | some ioCapability, some oobDataPresent, some authenticationRequirements => do
    let params := ⟨ioCapability, oobDataPresent, authenticationRequirements⟩
    sendHciEvent (.ioCapabilityResponse params)
    pure params
  | _, _, _ => .panic .unwrapErr

/-- Send a commitment, as the initiator of a round does. -/
def sendConfirm : Procedure Unit := sendLmpPacket (.simplePairingConfirm buildCommitment)

/-- Source: `initiate` (the loop of a passkey entry) -/
def sendCommitments : ℕ → Procedure Unit
  | 0 => pure ()
  | n + 1 => do
    sendConfirm
    let confirm ← receiveConfirm
    sendCommitment confirm
    sendCommitments n

/-- Source: `respond` (the loop of a passkey entry) -/
def receiveCommitments : ℕ → Procedure Unit
  | 0 => pure ()
  | n + 1 => do
    let confirm ← receiveConfirm
    receiveCommitment (some confirm)
    receiveCommitments n

/-- The commitments of a passkey entry, from the first one on. -/
def sendPasskeyCommitments (confirm : Chunk) : Procedure (Except Unit Unit) := do
  sendCommitment confirm
  sendCommitments (passkeyEntryRepeatNumber - 1)
  pure (.ok ())

/-- The commitments of a passkey entry, from the first one on. -/
def receivePasskeyCommitments (confirm : Chunk) : Procedure (Except Unit Bool) := do
  receiveCommitment (some confirm)
  receiveCommitments (passkeyEntryRepeatNumber - 1)
  pure (.ok false)

/-- Source: `initiate` (Authentication Stage 1) -/
def initiateStage1 (initiator responder : AuthenticationParams) : Procedure (Except Unit Unit) :=
  match authenticationMethod initiator responder with
  | .numericComparisonJustWork | .numericComparisonUserConfirm => do
    let confirm ← receiveConfirm
    sendCommitment confirm
    match ← userConfirmationRequest with
    | .error () => do
      sendLmpPacket .numericComparisonFailed
      pure (.error ())
    | .ok () => pure (.ok ())
  | .passkeyEntry =>
    if initiator.ioCapability = .keyboardOnly then do
      match ← userPasskeyRequest with
      | .error () => do
        sendLmpPacket .passkeyFailed
        pure (.error ())
      | .ok () => do
        sendConfirm
        let confirm ← receiveConfirm
        sendPasskeyCommitments confirm
    else do
      sendHciEvent (.userPasskeyNotification 0)
      sendConfirm
      match ← receiveLmpPacket [.simplePairingConfirm, .notAccepted] with
      | .simplePairingConfirm confirm => sendPasskeyCommitments confirm
      | .notAccepted _ _ => pure (.error ())
      | _ => unreachable
  | .outOfBand => do
    match ← oobDataRequest initiator with
    | .error () => pure (.error ())
    | .ok () => do
      sendConfirm
      let confirm ← receiveConfirm
      sendCommitment confirm
      pure (.ok ())

/-- Source: `initiate` (from the result of Stage 1 on) -/
def initiateStage2 (keyType : KeyType) : Except Unit Unit → Procedure (Except Unit Unit)
  | .error () => do
    sendHciEvent (.simplePairingComplete .authenticationFailure)
    pure (.error ())
  | .ok () => do
    match ← sendAcceptedLmpPacket .dhkeyCheck with
    | .error _ => do
      sendHciEvent (.simplePairingComplete .authenticationFailure)
      pure (.error ())
    | .ok () => do
      let _ ← receiveLmpPacket [.dhkeyCheck]
      sendLmpPacket (.accepted .dhkeyCheck)
      sendHciEvent (.simplePairingComplete .success)
      let authResult ← Authentication.sendChallenge
      Authentication.receiveChallenge
      match authResult with
      | .error () => pure (.error ())
      | .ok () => do
        sendHciEvent (.linkKeyNotification keyType)
        pure (.ok ())

/-- The secret is unwrapped: a key of the peer with which there is none makes the link manager
panic.
Source: `ec.rs` `PrivateKey::shared_secret` -/
def sharedSecret (ctx : Context) (curve : Curve) (peerPublicKey : PublicKey) : Procedure DhKey :=
  match ctx.sharedSecret curve peerPublicKey with
  | some dhKey => pure dhKey
  | none => .panic .unwrapNone

/-- Source: `initiate` (Public Key Exchange) -/
def initiateKeyExchange (ctx : Context) : Procedure DhKey := do
  let secureConnections ← Features.supportedOnBothPage1 ctx Features.secureConnectionsHostSupport
  let curve := if secureConnections then Curve.p256 else .p192
  sendPublicKey (ctx.publicKey curve)
  let peerPublicKey ← receivePublicKey
  sharedSecret ctx curve peerPublicKey

/-- Secure simple pairing, by the initiator. -/
def initiate (ctx : Context) : Procedure (Except Unit Unit) := do
  match ← ioCapabilityRequest with
  | .error _ => do
    sendHciEvent (.simplePairingComplete .authenticationFailure)
    pure (.error ())
  | .ok initiator => do
    sendLmpPacket (.ioCapabilityReq initiator.ioCapability.toUInt8 initiator.oobDataPresent.toUInt8
      initiator.authenticationRequirements.toUInt8)
    match ← receiveLmpPacket [.ioCapabilityRes] with
    | .ioCapabilityRes ioCapabilities oobAuthenticationData authenticationRequirement => do
      let responder ←
        ioCapabilityResponse ioCapabilities oobAuthenticationData authenticationRequirement
      let dhKey ← initiateKeyExchange ctx
      let result ← initiateStage1 initiator responder
      initiateStage2 (linkKeyType (authenticationMethod initiator responder) dhKey) result
    | _ => unreachable

/-- The result says whether the user has not confirmed the number.
Source: `respond` (Authentication Stage 1) -/
def respondStage1 (initiator responder : AuthenticationParams) : Procedure (Except Unit Bool) :=
  match authenticationMethod initiator responder with
  | .numericComparisonJustWork | .numericComparisonUserConfirm => do
    receiveCommitment none
    match ← userConfirmationRequest with
    | .error () => pure (.ok true)
    | .ok () => pure (.ok false)
  | .passkeyEntry =>
    if responder.ioCapability = .keyboardOnly then do
      let userPasskey ← userPasskeyRequest
      let confirm ← receiveConfirm
      match userPasskey with
      | .error () => do
        sendLmpPacket (.notAccepted .simplePairingConfirm ErrorCode.authenticationFailure.toUInt8)
        pure (.error ())
      | .ok () => receivePasskeyCommitments confirm
    else do
      sendHciEvent (.userPasskeyNotification 0)
      match ← receiveLmpPacket [.simplePairingConfirm, .passkeyFailed] with
      | .simplePairingConfirm confirm => receivePasskeyCommitments confirm
      | .passkeyFailed => pure (.error ())
      | _ => unreachable
  | .outOfBand => do
    -- the answer of the host is not looked at
    let _ ← oobDataRequest responder
    let confirm ← receiveConfirm
    receiveCommitment (some confirm)
    pure (.ok false)

/-- Source: `respond` (from the result of Stage 1 on) -/
def respondStage2 (keyType : KeyType) : Except Unit Bool → Procedure (Except Unit Unit)
  | .error () => do
    sendHciEvent (.simplePairingComplete .authenticationFailure)
    pure (.error ())
  | .ok negativeUserConfirmation => do
    match ← receiveLmpPacket [.numericComparisonFailed, .dhkeyCheck] with
    | .numericComparisonFailed => do
      sendHciEvent (.simplePairingComplete .authenticationFailure)
      pure (.error ())
    | .dhkeyCheck =>
      if negativeUserConfirmation then do
        sendLmpPacket (.notAccepted .dhkeyCheck ErrorCode.authenticationFailure.toUInt8)
        sendHciEvent (.simplePairingComplete .authenticationFailure)
        pure (.error ())
      else do
        sendLmpPacket (.accepted .dhkeyCheck)
        let _ ← sendAcceptedLmpPacket .dhkeyCheck
        sendHciEvent (.simplePairingComplete .success)
        Authentication.receiveChallenge
        let authResult ← Authentication.sendChallenge
        match authResult with
        | .error () => pure (.error ())
        | .ok () => do
          sendHciEvent (.linkKeyNotification keyType)
          pure (.ok ())
    | _ => unreachable

/-- The private key is on the curve of the key of the peer.
Source: `respond` (Public Key Exchange) -/
def respondKeyExchange (ctx : Context) : Procedure DhKey := do
  let peerPublicKey ← receivePublicKey
  sendPublicKey (ctx.publicKey peerPublicKey.curve)
  sharedSecret ctx peerPublicKey.curve peerPublicKey

/-- Secure simple pairing, by the responder. -/
def respond (ctx : Context)
    (ioCapabilities oobAuthenticationData authenticationRequirement : UInt8) :
    Procedure (Except Unit Unit) := do
  let initiator ← ioCapabilityResponse ioCapabilities oobAuthenticationData
      authenticationRequirement
  match ← ioCapabilityRequest with
  | .error reason => do
    sendLmpPacket (.notAcceptedExt .ioCapabilityReq reason.toUInt8)
    sendHciEvent (.simplePairingComplete .authenticationFailure)
    pure (.error ())
  | .ok responder => do
    sendLmpPacket (.ioCapabilityRes responder.ioCapability.toUInt8 responder.oobDataPresent.toUInt8
      responder.authenticationRequirements.toUInt8)
    let dhKey ← respondKeyExchange ctx
    let result ← respondStage1 initiator responder
    respondStage2 (linkKeyType (authenticationMethod initiator responder) dhKey) result

end SecureSimplePairing

/-! ## Authentication -/

namespace Authentication

/-- Ask the host for the link key.  The result says whether it has one. -/
def linkKeyRequest : Procedure Bool := do
  sendHciEvent .linkKeyRequest
  match ← receiveHciCommand [.linkKeyRequestReply, .linkKeyRequestNegativeReply] with
  | .linkKeyRequestReply => do
    sendHciEvent (.commandComplete .linkKeyRequestReply .success)
    pure true
  | .linkKeyRequestNegativeReply => do
    sendHciEvent (.commandComplete .linkKeyRequestNegativeReply .success)
    pure false
  | _ => unreachable

/-- Pair the devices, in the way that both support. -/
def initiatePairing (ctx : Context) : Procedure (Except Unit Unit) := do
  if ← Features.supportedOnBothPage1 ctx Features.secureSimplePairingHostSupport then
    SecureSimplePairing.initiate ctx
  else
    LegacyPairing.initiate

/-- Authentication, by the initiator. -/
def initiate (ctx : Context) : Procedure Unit := do
  let _ ← receiveHciCommand [.authenticationRequested]
  sendHciEvent (.commandStatus .authenticationRequested .success)
  let status ← if ← linkKeyRequest then do
      -- the challenge tells whether the remote device has the link key
      match ← sendChallenge with
      | .error () => pure ErrorCode.pinOrKeyMissing
      | .ok () => pure .success
    else do
      match ← initiatePairing ctx with
      | .error () => pure ErrorCode.authenticationFailure
      | .ok () => pure .success
  sendHciEvent (.authenticationComplete status)

/-- Authentication, by the responder. -/
def respond (ctx : Context) : Procedure Unit := do
  match ← receiveLmpPacket [.auRand, .ioCapabilityReq, .inRand] with
  | .auRand => do
    if ← linkKeyRequest then
      sendLmpPacket .sres
    else
      sendLmpPacket (.notAccepted .auRand ErrorCode.pinOrKeyMissing.toUInt8)
  | .ioCapabilityReq ioCapabilities oobAuthenticationData authenticationRequirement => do
    let _ ← SecureSimplePairing.respond ctx ioCapabilities oobAuthenticationData
        authenticationRequirement
  | .inRand => do
    let _ ← LegacyPairing.respond
  | _ => unreachable

end Authentication

/-! ## Encryption -/

namespace Encryption

/-- Whether the encryption is AES-CCM, and the event that says so: the end of both procedures. -/
def change (ctx : Context) : Procedure Unit := do
  let host ← Features.supportedOnBothPage1 ctx Features.secureConnectionsHostSupport
  let aesCcm ←
    if host then Features.supportedOnBothPage2 ctx Features.secureConnectionsControllerSupport
    else pure false
  sendHciEvent (.encryptionChange .success (if aesCcm then .brEdrAesCcm else .on))

/-- Encryption, by the initiator. -/
def initiate (ctx : Context) : Procedure Unit := do
  let _ ← receiveHciCommand [.setConnectionEncryption]
  sendHciEvent (.commandStatus .setConnectionEncryption .success)
  let _ ← sendAcceptedLmpPacket (.encryptionModeReq 0x1)
  let _ ← sendAcceptedLmpPacket (.encryptionKeySizeReq 16)
  let _ ← sendAcceptedLmpPacket .startEncryptionReq
  change ctx

/-- Encryption, by the responder. -/
def respond (ctx : Context) : Procedure Unit := do
  let _ ← receiveLmpPacket [.encryptionModeReq]
  sendLmpPacket (.accepted .encryptionModeReq)
  let _ ← receiveLmpPacket [.encryptionKeySizeReq]
  sendLmpPacket (.accepted .encryptionKeySizeReq)
  let _ ← receiveLmpPacket [.startEncryptionReq]
  sendLmpPacket (.accepted .startEncryptionReq)
  change ctx

end Encryption

end RootCanal.Lmp
