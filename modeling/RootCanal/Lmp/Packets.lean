import Mathlib.Data.Vector.Defs
import RootCanal.Packets.Hci

/-!
# Packets, commands and events of the link manager

What a link manager exchanges with its peer (`Packet`) and with its host (`Command`, `Event`), as
far as the procedures read or choose it.  Not kept are addresses and connection handles (a procedure
has one link), transaction identifiers, and the nonces, random numbers, responses and link keys,
which are constants that nothing reads.

Source: `lmp_packets.pdl`, `hci_packets.pdl`, `lmp/ec.rs`
-/

namespace RootCanal.Lmp

open RootCanal.Hci (ErrorCode)

/-! ## Authentication parameters -/

/-- What the host can show and read. -/
inductive IoCapability
  | displayOnly
  | displayYesNo
  | keyboardOnly
  | noInputNoOutput
  deriving DecidableEq, Repr

/-- Which data was given out of band. -/
inductive OobDataPresent
  | notPresent
  | p192Present
  | p256Present
  | p192And256Present
  deriving DecidableEq, Repr

/-- What the host asks of the pairing. -/
inductive AuthenticationRequirements
  | noBonding
  | noBondingMitmProtection
  | dedicatedBonding
  | dedicatedBondingMitmProtection
  | generalBonding
  | generalBondingMitmProtection
  deriving DecidableEq, Repr

namespace IoCapability

/-- The value on the air. -/
def toUInt8 : IoCapability → UInt8
  | .displayOnly => 0x00
  | .displayYesNo => 0x01
  | .keyboardOnly => 0x02
  | .noInputNoOutput => 0x03

/-- The capability of a value. -/
def ofUInt8? : UInt8 → Option IoCapability
  | 0x00 => some .displayOnly
  | 0x01 => some .displayYesNo
  | 0x02 => some .keyboardOnly
  | 0x03 => some .noInputNoOutput
  | _ => none

@[simp] theorem ofUInt8?_toUInt8 (c : IoCapability) : ofUInt8? c.toUInt8 = some c := by
  cases c <;> rfl

end IoCapability

namespace OobDataPresent

/-- The value on the air. -/
def toUInt8 : OobDataPresent → UInt8
  | .notPresent => 0x00
  | .p192Present => 0x01
  | .p256Present => 0x02
  | .p192And256Present => 0x03

/-- Which data a value says is present. -/
def ofUInt8? : UInt8 → Option OobDataPresent
  | 0x00 => some .notPresent
  | 0x01 => some .p192Present
  | 0x02 => some .p256Present
  | 0x03 => some .p192And256Present
  | _ => none

@[simp] theorem ofUInt8?_toUInt8 (o : OobDataPresent) : ofUInt8? o.toUInt8 = some o := by
  cases o <;> rfl

end OobDataPresent

namespace AuthenticationRequirements

/-- The value on the air. -/
def toUInt8 : AuthenticationRequirements → UInt8
  | .noBonding => 0x00
  | .noBondingMitmProtection => 0x01
  | .dedicatedBonding => 0x02
  | .dedicatedBondingMitmProtection => 0x03
  | .generalBonding => 0x04
  | .generalBondingMitmProtection => 0x05

/-- The requirements of a value. -/
def ofUInt8? : UInt8 → Option AuthenticationRequirements
  | 0x00 => some .noBonding
  | 0x01 => some .noBondingMitmProtection
  | 0x02 => some .dedicatedBonding
  | 0x03 => some .dedicatedBondingMitmProtection
  | 0x04 => some .generalBonding
  | 0x05 => some .generalBondingMitmProtection
  | _ => none

@[simp] theorem ofUInt8?_toUInt8 (r : AuthenticationRequirements) :
    ofUInt8? r.toUInt8 = some r := by
  cases r <;> rfl

end AuthenticationRequirements

/-- What a host says of itself before a pairing. -/
structure AuthenticationParams where
  ioCapability : IoCapability
  oobDataPresent : OobDataPresent
  authenticationRequirements : AuthenticationRequirements
  deriving DecidableEq, Repr

/-! ## Keys -/

/-- The curve of a key. -/
inductive Curve
  | p192
  | p256
  deriving DecidableEq, Repr

/-- Sixteen octets, what one packet carries of a key. -/
abbrev Chunk := Vector UInt8 16

/-- In how many chunks the public keys of the curve are sent.  They have 48 and 64 octets. -/
def Curve.chunkCount : Curve → ℕ
  | .p192 => 3
  | .p256 => 4

/-- A public key, in the chunks in which it is sent. -/
structure PublicKey where
  curve : Curve
  chunks : List.Vector Chunk curve.chunkCount
  deriving DecidableEq

/-- The octets of a key. -/
def PublicKey.size (key : PublicKey) : ℕ := 16 * key.curve.chunkCount

/-- A key of zeros with the size. -/
def PublicKey.new : ℕ → Option PublicKey
  | 48 => some ⟨.p192, .replicate _ (.replicate 16 0)⟩
  | 64 => some ⟨.p256, .replicate _ (.replicate 16 0)⟩
  | _ => none

/-- The curve of a shared secret. -/
inductive DhKey
  | p192
  | p256
  deriving DecidableEq, Repr

/-- The types of a link key. -/
inductive KeyType
  | combination
  | unauthenticatedP192
  | authenticatedP192
  | unauthenticatedP256
  | authenticatedP256
  deriving DecidableEq, Repr

/-! ## Packets -/

/-- The packets of the procedures.
Source: `lmp_packets.pdl` `Opcode`, `ExtendedOpcode` -/
inductive Opcode
  | accepted
  | notAccepted
  | inRand
  | combKey
  | auRand
  | sres
  | encryptionModeReq
  | encryptionKeySizeReq
  | startEncryptionReq
  | encapsulatedHeader
  | encapsulatedPayload
  | simplePairingConfirm
  | simplePairingNumber
  | dhkeyCheck
  | notAcceptedExt
  | featuresReqExt
  | featuresResExt
  | ioCapabilityReq
  | ioCapabilityRes
  | numericComparisonFailed
  | passkeyFailed
  deriving DecidableEq, Repr

/-- An LMP packet.
Source: `lmp_packets.pdl` `LmpPacket` and its children -/
inductive Packet
  | accepted (acceptedOpcode : Opcode)
  | notAccepted (notAcceptedOpcode : Opcode) (errorCode : UInt8)
  | inRand
  | combKey
  | auRand
  | sres
  | encryptionModeReq (encryptionMode : UInt8)
  | encryptionKeySizeReq (keySize : UInt8)
  | startEncryptionReq
  | encapsulatedHeader (majorType minorType payloadLength : UInt8)
  | encapsulatedPayload (data : Chunk)
  | simplePairingConfirm (commitmentValue : Chunk)
  | simplePairingNumber
  | dhkeyCheck
  | notAcceptedExt (notAcceptedOpcode : Opcode) (errorCode : UInt8)
  | featuresReqExt (featuresPage maxSupportedPage : UInt8) (extendedFeatures : UInt64)
  | featuresResExt (featuresPage maxSupportedPage : UInt8) (extendedFeatures : UInt64)
  | ioCapabilityReq (ioCapabilities oobAuthenticationData authenticationRequirement : UInt8)
  | ioCapabilityRes (ioCapabilities oobAuthenticationData authenticationRequirement : UInt8)
  | numericComparisonFailed
  | passkeyFailed
  deriving DecidableEq, Repr

/-- Which packet it is. -/
def Packet.opcode : Packet → Opcode
  | .accepted _ => .accepted
  | .notAccepted _ _ => .notAccepted
  | .inRand => .inRand
  | .combKey => .combKey
  | .auRand => .auRand
  | .sres => .sres
  | .encryptionModeReq _ => .encryptionModeReq
  | .encryptionKeySizeReq _ => .encryptionKeySizeReq
  | .startEncryptionReq => .startEncryptionReq
  | .encapsulatedHeader _ _ _ => .encapsulatedHeader
  | .encapsulatedPayload _ => .encapsulatedPayload
  | .simplePairingConfirm _ => .simplePairingConfirm
  | .simplePairingNumber => .simplePairingNumber
  | .dhkeyCheck => .dhkeyCheck
  | .notAcceptedExt _ _ => .notAcceptedExt
  | .featuresReqExt _ _ _ => .featuresReqExt
  | .featuresResExt _ _ _ => .featuresResExt
  | .ioCapabilityReq _ _ _ => .ioCapabilityReq
  | .ioCapabilityRes _ _ _ => .ioCapabilityRes
  | .numericComparisonFailed => .numericComparisonFailed
  | .passkeyFailed => .passkeyFailed

/-! ## Commands and events -/

/-- The commands that are forwarded to a link manager.
Source: `hci_command_handlers_` (`ForwardToLm`) -/
inductive OpCode
  | authenticationRequested
  | setConnectionEncryption
  | linkKeyRequestReply
  | linkKeyRequestNegativeReply
  | pinCodeRequestReply
  | pinCodeRequestNegativeReply
  | ioCapabilityRequestReply
  | ioCapabilityRequestNegativeReply
  | userConfirmationRequestReply
  | userConfirmationRequestNegativeReply
  | userPasskeyRequestReply
  | userPasskeyRequestNegativeReply
  | sendKeypressNotification
  | remoteOobDataRequestReply
  | remoteOobDataRequestNegativeReply
  | remoteOobExtendedDataRequestReply
  deriving DecidableEq, Repr

/-- A command of the host. -/
inductive Command
  | authenticationRequested
  | setConnectionEncryption
  | linkKeyRequestReply
  | linkKeyRequestNegativeReply
  | pinCodeRequestReply
  | pinCodeRequestNegativeReply
  | ioCapabilityRequestReply (params : AuthenticationParams)
  | ioCapabilityRequestNegativeReply (reason : ErrorCode)
  | userConfirmationRequestReply
  | userConfirmationRequestNegativeReply
  | userPasskeyRequestReply
  | userPasskeyRequestNegativeReply
  | sendKeypressNotification
  | remoteOobDataRequestReply
  | remoteOobDataRequestNegativeReply
  | remoteOobExtendedDataRequestReply
  deriving DecidableEq, Repr

/-- Which command it is. -/
def Command.opCode : Command → OpCode
  | .authenticationRequested => .authenticationRequested
  | .setConnectionEncryption => .setConnectionEncryption
  | .linkKeyRequestReply => .linkKeyRequestReply
  | .linkKeyRequestNegativeReply => .linkKeyRequestNegativeReply
  | .pinCodeRequestReply => .pinCodeRequestReply
  | .pinCodeRequestNegativeReply => .pinCodeRequestNegativeReply
  | .ioCapabilityRequestReply _ => .ioCapabilityRequestReply
  | .ioCapabilityRequestNegativeReply _ => .ioCapabilityRequestNegativeReply
  | .userConfirmationRequestReply => .userConfirmationRequestReply
  | .userConfirmationRequestNegativeReply => .userConfirmationRequestNegativeReply
  | .userPasskeyRequestReply => .userPasskeyRequestReply
  | .userPasskeyRequestNegativeReply => .userPasskeyRequestNegativeReply
  | .sendKeypressNotification => .sendKeypressNotification
  | .remoteOobDataRequestReply => .remoteOobDataRequestReply
  | .remoteOobDataRequestNegativeReply => .remoteOobDataRequestNegativeReply
  | .remoteOobExtendedDataRequestReply => .remoteOobExtendedDataRequestReply

/-- Whether the link is encrypted. -/
inductive EncryptionEnabled
  | on
  | brEdrAesCcm
  deriving DecidableEq, Repr

/-- An event for the host. The events that complete a command are one constructor. -/
inductive Event
  | commandStatus (opCode : OpCode) (status : ErrorCode)
  | commandComplete (opCode : OpCode) (status : ErrorCode)
  | linkKeyRequest
  | pinCodeRequest
  | ioCapabilityRequest
  | ioCapabilityResponse (params : AuthenticationParams)
  | userConfirmationRequest (numericValue : UInt32)
  | userPasskeyRequest
  | userPasskeyNotification (passkey : UInt32)
  | remoteOobDataRequest
  | simplePairingComplete (status : ErrorCode)
  | linkKeyNotification (keyType : KeyType)
  | authenticationComplete (status : ErrorCode)
  | encryptionChange (status : ErrorCode) (encryptionEnabled : EncryptionEnabled)
  deriving DecidableEq, Repr

end RootCanal.Lmp
