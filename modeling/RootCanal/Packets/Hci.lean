import RootCanal.Lib.Checked

/-!
# HCI packets of the isochronous commands

The commands a host sends to the ISO manager and the events it gets back, field by field as
`packets/hci_packets.pdl` declares them.  A field has the type of its getter in the generated
parser (`UInt8`, `UInt16` or `UInt32`); where the declared width is smaller, the theorems
quantify over more packets than the parser lets through.

An event is encoded when it is sent and the encoder fails when a scalar exceeds its declared
width: `Event.fits` is that check.  Every other field is as wide as its type.
-/

namespace RootCanal.Hci

open Lib

/-! ## Enumerations -/

/-- The error codes of the specification. -/
inductive ErrorCode
  | statusUnknown
  | success
  | unknownHciCommand
  | unknownConnection
  | hardwareFailure
  | pageTimeout
  | authenticationFailure
  | pinOrKeyMissing
  | memoryCapacityExceeded
  | connectionTimeout
  | connectionLimitExceeded
  | synchronousConnectionLimitExceeded
  | connectionAlreadyExists
  | commandDisallowed
  | connectionRejectedLimitedResources
  | connectionRejectedSecurityReasons
  | connectionRejectedUnacceptableBdAddr
  | connectionAcceptTimeout
  | unsupportedFeatureOrParameterValue
  | invalidHciCommandParameters
  | remoteUserTerminatedConnection
  | remoteDeviceTerminatedConnectionLowResources
  | remoteDeviceTerminatedConnectionPowerOff
  | connectionTerminatedByLocalHost
  | repeatedAttempts
  | pairingNotAllowed
  | unknownLmpPdu
  | unsupportedRemoteOrLmpFeature
  | scoOffsetRejected
  | scoIntervalRejected
  | scoAirModeRejected
  | invalidLmpOrLlParameters
  | unspecifiedError
  | unsupportedLmpOrLlParameter
  | roleChangeNotAllowed
  | transactionResponseTimeout
  | linkLayerCollision
  | encryptionModeNotAcceptable
  | insufficientSecurity
  | roleSwitchFailed
  | hostBusy
  | controllerBusy
  | advertisingTimeout
  | connectionFailedEstablishment
  | unknownAdvertisingIdentifier
  | limitReached
  | operationCancelledByHost
  | packetTooLong
  | insufficientChannels
deriving DecidableEq, Repr

/-- The octet an error code is sent as.
Source: `ErrorCode` -/
def ErrorCode.toUInt8 : ErrorCode → UInt8
  | .statusUnknown => 0xff
  | .success => 0x00
  | .unknownHciCommand => 0x01
  | .unknownConnection => 0x02
  | .hardwareFailure => 0x03
  | .pageTimeout => 0x04
  | .authenticationFailure => 0x05
  | .pinOrKeyMissing => 0x06
  | .memoryCapacityExceeded => 0x07
  | .connectionTimeout => 0x08
  | .connectionLimitExceeded => 0x09
  | .synchronousConnectionLimitExceeded => 0x0a
  | .connectionAlreadyExists => 0x0b
  | .commandDisallowed => 0x0c
  | .connectionRejectedLimitedResources => 0x0d
  | .connectionRejectedSecurityReasons => 0x0e
  | .connectionRejectedUnacceptableBdAddr => 0x0f
  | .connectionAcceptTimeout => 0x10
  | .unsupportedFeatureOrParameterValue => 0x11
  | .invalidHciCommandParameters => 0x12
  | .remoteUserTerminatedConnection => 0x13
  | .remoteDeviceTerminatedConnectionLowResources => 0x14
  | .remoteDeviceTerminatedConnectionPowerOff => 0x15
  | .connectionTerminatedByLocalHost => 0x16
  | .repeatedAttempts => 0x17
  | .pairingNotAllowed => 0x18
  | .unknownLmpPdu => 0x19
  | .unsupportedRemoteOrLmpFeature => 0x1a
  | .scoOffsetRejected => 0x1b
  | .scoIntervalRejected => 0x1c
  | .scoAirModeRejected => 0x1d
  | .invalidLmpOrLlParameters => 0x1e
  | .unspecifiedError => 0x1f
  | .unsupportedLmpOrLlParameter => 0x20
  | .roleChangeNotAllowed => 0x21
  | .transactionResponseTimeout => 0x22
  | .linkLayerCollision => 0x23
  | .encryptionModeNotAcceptable => 0x25
  | .insufficientSecurity => 0x2f
  | .roleSwitchFailed => 0x35
  | .hostBusy => 0x38
  | .controllerBusy => 0x3a
  | .advertisingTimeout => 0x3c
  | .connectionFailedEstablishment => 0x3e
  | .unknownAdvertisingIdentifier => 0x42
  | .limitReached => 0x43
  | .operationCancelledByHost => 0x44
  | .packetTooLong => 0x45
  | .insufficientChannels => 0x48

/-- The error code an octet stands for, if any: the enumeration is closed.
Source: `ErrorCode` -/
def ErrorCode.tryFrom : UInt8 → Option ErrorCode
  | 0xff => some .statusUnknown
  | 0x00 => some .success
  | 0x01 => some .unknownHciCommand
  | 0x02 => some .unknownConnection
  | 0x03 => some .hardwareFailure
  | 0x04 => some .pageTimeout
  | 0x05 => some .authenticationFailure
  | 0x06 => some .pinOrKeyMissing
  | 0x07 => some .memoryCapacityExceeded
  | 0x08 => some .connectionTimeout
  | 0x09 => some .connectionLimitExceeded
  | 0x0a => some .synchronousConnectionLimitExceeded
  | 0x0b => some .connectionAlreadyExists
  | 0x0c => some .commandDisallowed
  | 0x0d => some .connectionRejectedLimitedResources
  | 0x0e => some .connectionRejectedSecurityReasons
  | 0x0f => some .connectionRejectedUnacceptableBdAddr
  | 0x10 => some .connectionAcceptTimeout
  | 0x11 => some .unsupportedFeatureOrParameterValue
  | 0x12 => some .invalidHciCommandParameters
  | 0x13 => some .remoteUserTerminatedConnection
  | 0x14 => some .remoteDeviceTerminatedConnectionLowResources
  | 0x15 => some .remoteDeviceTerminatedConnectionPowerOff
  | 0x16 => some .connectionTerminatedByLocalHost
  | 0x17 => some .repeatedAttempts
  | 0x18 => some .pairingNotAllowed
  | 0x19 => some .unknownLmpPdu
  | 0x1a => some .unsupportedRemoteOrLmpFeature
  | 0x1b => some .scoOffsetRejected
  | 0x1c => some .scoIntervalRejected
  | 0x1d => some .scoAirModeRejected
  | 0x1e => some .invalidLmpOrLlParameters
  | 0x1f => some .unspecifiedError
  | 0x20 => some .unsupportedLmpOrLlParameter
  | 0x21 => some .roleChangeNotAllowed
  | 0x22 => some .transactionResponseTimeout
  | 0x23 => some .linkLayerCollision
  | 0x25 => some .encryptionModeNotAcceptable
  | 0x2f => some .insufficientSecurity
  | 0x35 => some .roleSwitchFailed
  | 0x38 => some .hostBusy
  | 0x3a => some .controllerBusy
  | 0x3c => some .advertisingTimeout
  | 0x3e => some .connectionFailedEstablishment
  | 0x42 => some .unknownAdvertisingIdentifier
  | 0x43 => some .limitReached
  | 0x44 => some .operationCancelledByHost
  | 0x45 => some .packetTooLong
  | 0x48 => some .insufficientChannels
  | _ => none

/-- The role of the local controller on a link. -/
inductive Role
  | central
  | peripheral
deriving DecidableEq, Repr

inductive Enable
  | disabled
  | enabled
deriving DecidableEq, Repr

inductive SecondaryPhyType
  | noPackets
  | le1m
  | le2m
  | leCoded
deriving DecidableEq, Repr

/-- The octet a PHY is sent as. -/
def SecondaryPhyType.toUInt8 : SecondaryPhyType → UInt8
  | .noPackets => 0
  | .le1m => 1
  | .le2m => 2
  | .leCoded => 3

/-- The data path direction, seen from the controller's host. -/
inductive DataPathDirection
  | input
  | output
deriving DecidableEq, Repr

inductive Packing
  | sequential
  | interleaved
deriving DecidableEq, Repr

/-- The octet an enable flag is sent as. -/
def Enable.toUInt8 : Enable → UInt8
  | .disabled => 0
  | .enabled => 1

/-- The octet a packing is sent as. -/
def Packing.toUInt8 : Packing → UInt8
  | .sequential => 0
  | .interleaved => 1

/-- Source: `LLFeaturesBits` -/
def LLFeaturesBits.le2mPhy : UInt64 := 0x100

/-- Source: `LLFeaturesBits` -/
def LLFeaturesBits.leCodedPhy : UInt64 := 0x800

/-- Source: `LLFeaturesBits` -/
def LLFeaturesBits.connectedIsochronousStreamHostSupport : UInt64 := 0x100000000

/-! ## Commands -/

/-- One CIS of an LE Set CIG Parameters command. -/
structure CisParametersConfig where
  cisId : UInt8
  maxSduCToP : UInt16
  maxSduPToC : UInt16
  phyCToP : UInt8
  phyPToC : UInt8
deriving DecidableEq, Repr

structure LeSetCigParameters where
  cigId : UInt8
  sduIntervalCToP : UInt32
  sduIntervalPToC : UInt32
  framing : Enable
  maxTransportLatencyCToP : UInt16
  maxTransportLatencyPToC : UInt16
  cisConfig : List CisParametersConfig
deriving DecidableEq, Repr

/-- One CIS of an LE Set CIG Parameters Test command. -/
structure LeCisParametersTestConfig where
  cisId : UInt8
  nse : UInt8
  maxSduCToP : UInt16
  maxSduPToC : UInt16
  maxPduCToP : UInt16
  maxPduPToC : UInt16
  phyCToP : UInt8
  phyPToC : UInt8
  bnCToP : UInt8
  bnPToC : UInt8
deriving DecidableEq, Repr

structure LeSetCigParametersTest where
  cigId : UInt8
  sduIntervalCToP : UInt32
  sduIntervalPToC : UInt32
  ftCToP : UInt8
  ftPToC : UInt8
  isoInterval : UInt16
  framing : Enable
  cisConfig : List LeCisParametersTestConfig
deriving DecidableEq, Repr

structure LeRemoveCig where
  cigId : UInt8
deriving DecidableEq, Repr

/-- One CIS of an LE Create CIS command. -/
structure LeCreateCisConfig where
  cisConnectionHandle : UInt16
  aclConnectionHandle : UInt16
deriving DecidableEq, Repr

structure LeCreateCis where
  cisConfig : List LeCreateCisConfig
deriving DecidableEq, Repr

structure LeAcceptCisRequest where
  connectionHandle : UInt16
deriving DecidableEq, Repr

structure LeRejectCisRequest where
  connectionHandle : UInt16
  reason : ErrorCode
deriving DecidableEq, Repr

structure LeSetupIsoDataPath where
  connectionHandle : UInt16
  dataPathDirection : DataPathDirection
  codecId : UInt64
  codecConfiguration : List UInt8
deriving DecidableEq, Repr

structure LeRemoveIsoDataPath where
  connectionHandle : UInt16
  removeInputDataPath : UInt8
  removeOutputDataPath : UInt8
deriving DecidableEq, Repr

/-- The reason of a Disconnect command is an open enumeration, so every octet is one. -/
structure Disconnect where
  connectionHandle : UInt16
  reason : UInt8
deriving DecidableEq, Repr

structure LeCreateBig where
  bigHandle : UInt8
  advertisingHandle : UInt8
  numBis : UInt8
  sduInterval : UInt32
  maxSdu : UInt16
  maxTransportLatency : UInt16
  rtn : UInt8
  phy : SecondaryPhyType
  packing : Packing
  framing : Enable
  encryption : Enable
  broadcastCode : Vector UInt8 16
deriving DecidableEq

structure LeTerminateBig where
  bigHandle : UInt8
  reason : ErrorCode
deriving DecidableEq, Repr

/-- The commands forwarded to the ISO manager.
Source: `ingest_hci` -/
inductive Command
  | disconnect (packet : Disconnect)
  | leSetCigParameters (packet : LeSetCigParameters)
  | leSetCigParametersTest (packet : LeSetCigParametersTest)
  | leCreateCis (packet : LeCreateCis)
  | leRemoveCig (packet : LeRemoveCig)
  | leAcceptCisRequest (packet : LeAcceptCisRequest)
  | leRejectCisRequest (packet : LeRejectCisRequest)
  | leSetupIsoDataPath (packet : LeSetupIsoDataPath)
  | leRemoveIsoDataPath (packet : LeRemoveIsoDataPath)
  | leCreateBig (packet : LeCreateBig)
  | leTerminateBig (packet : LeTerminateBig)
deriving DecidableEq

/-! ## Events -/

structure LeSetCigParametersComplete where
  status : ErrorCode
  cigId : UInt8
  connectionHandle : List UInt16
  numHciCommandPackets : UInt8
deriving DecidableEq, Repr

structure LeRemoveCigComplete where
  status : ErrorCode
  cigId : UInt8
  numHciCommandPackets : UInt8
deriving DecidableEq, Repr

/-- The Command Status events: all carry a status and the number of allowed commands. -/
structure CommandStatus where
  status : ErrorCode
  numHciCommandPackets : UInt8
deriving DecidableEq, Repr

/-- The Command Complete events that name a connection handle. -/
structure HandleComplete where
  status : ErrorCode
  connectionHandle : UInt16
  numHciCommandPackets : UInt8
deriving DecidableEq, Repr

structure DisconnectionComplete where
  status : ErrorCode
  connectionHandle : UInt16
  reason : ErrorCode
deriving DecidableEq, Repr

structure LeCisEstablishedV1 where
  status : ErrorCode
  connectionHandle : UInt16
  cigSyncDelay : UInt32
  cisSyncDelay : UInt32
  transportLatencyCToP : UInt32
  transportLatencyPToC : UInt32
  phyCToP : SecondaryPhyType
  phyPToC : SecondaryPhyType
  nse : UInt8
  bnCToP : UInt8
  bnPToC : UInt8
  ftCToP : UInt8
  ftPToC : UInt8
  maxPduCToP : UInt8
  maxPduPToC : UInt8
  isoInterval : UInt16
deriving DecidableEq, Repr

structure LeCisRequest where
  aclConnectionHandle : UInt16
  cisConnectionHandle : UInt16
  cigId : UInt8
  cisId : UInt8
deriving DecidableEq, Repr

structure LeCreateBigComplete where
  status : ErrorCode
  bigHandle : UInt8
  bigSyncDelay : UInt32
  transportLatencyBig : UInt32
  phy : SecondaryPhyType
  nse : UInt8
  bn : UInt8
  pto : UInt8
  irc : UInt8
  maxPdu : UInt16
  isoInterval : UInt16
  connectionHandle : List UInt16
deriving DecidableEq, Repr

structure LeTerminateBigComplete where
  bigHandle : UInt8
  reason : ErrorCode
deriving DecidableEq, Repr

/-- The events the ISO manager sends. -/
inductive Event
  | disconnectStatus (event : CommandStatus)
  | leSetCigParametersComplete (event : LeSetCigParametersComplete)
  | leSetCigParametersTestComplete (event : LeSetCigParametersComplete)
  | leRemoveCigComplete (event : LeRemoveCigComplete)
  | leCreateCisStatus (event : CommandStatus)
  | leAcceptCisRequestStatus (event : CommandStatus)
  | leRejectCisRequestComplete (event : HandleComplete)
  | leSetupIsoDataPathComplete (event : HandleComplete)
  | leRemoveIsoDataPathComplete (event : HandleComplete)
  | leCreateBigStatus (event : CommandStatus)
  | leTerminateBigStatus (event : CommandStatus)
  | disconnectionComplete (event : DisconnectionComplete)
  | leCisEstablishedV1 (event : LeCisEstablishedV1)
  | leCisRequest (event : LeCisRequest)
  | leCreateBigComplete (event : LeCreateBigComplete)
  | leTerminateBigComplete (event : LeTerminateBigComplete)
deriving DecidableEq, Repr

/-- The widths of the LE CIS Established fields.
Source: `LeCisEstablishedV1` -/
def LeCisEstablishedV1.fits (e : LeCisEstablishedV1) : Bool :=
  decide (e.connectionHandle.toNat < 2 ^ 12) && decide (e.cigSyncDelay.toNat < 2 ^ 24) &&
    decide (e.cisSyncDelay.toNat < 2 ^ 24) && decide (e.transportLatencyCToP.toNat < 2 ^ 24) &&
    decide (e.transportLatencyPToC.toNat < 2 ^ 24) && decide (e.bnCToP.toNat < 2 ^ 4) &&
    decide (e.bnPToC.toNat < 2 ^ 4)

/-- Every scalar of the event fits its declared width, so that encoding it succeeds.  A
`_count_` or `_size_` octet counts elements or bytes. -/
def Event.fits : Event → Bool
  | .leSetCigParametersComplete e => decide (e.connectionHandle.length < 2 ^ 8)
  | .leSetCigParametersTestComplete e => decide (e.connectionHandle.length < 2 ^ 8)
  | .leRejectCisRequestComplete e => decide (e.connectionHandle.toNat < 2 ^ 12)
  | .leSetupIsoDataPathComplete e => decide (e.connectionHandle.toNat < 2 ^ 12)
  | .leRemoveIsoDataPathComplete e => decide (e.connectionHandle.toNat < 2 ^ 12)
  | .disconnectionComplete e => decide (e.connectionHandle.toNat < 2 ^ 12)
  | .leCisEstablishedV1 e => e.fits
  | .leCisRequest e =>
    decide (e.aclConnectionHandle.toNat < 2 ^ 12) &&
      decide (e.cisConnectionHandle.toNat < 2 ^ 12)
  | .leCreateBigComplete e =>
    decide (e.bigSyncDelay.toNat < 2 ^ 24) && decide (e.transportLatencyBig.toNat < 2 ^ 24) &&
      decide (2 * e.connectionHandle.length < 2 ^ 8)
  | .disconnectStatus _ | .leRemoveCigComplete _ | .leCreateCisStatus _
  | .leAcceptCisRequestStatus _ | .leCreateBigStatus _ | .leTerminateBigStatus _
  | .leTerminateBigComplete _ => true

/-- The status with which an event answers a command, for the events that answer one. -/
def Event.answer? : Event → Option ErrorCode
  | .disconnectStatus e | .leCreateCisStatus e | .leAcceptCisRequestStatus e
  | .leCreateBigStatus e | .leTerminateBigStatus e => some e.status
  | .leSetCigParametersComplete e | .leSetCigParametersTestComplete e => some e.status
  | .leRemoveCigComplete e => some e.status
  | .leRejectCisRequestComplete e | .leSetupIsoDataPathComplete e
  | .leRemoveIsoDataPathComplete e => some e.status
  | .disconnectionComplete _ | .leCisEstablishedV1 _ | .leCisRequest _
  | .leCreateBigComplete _ | .leTerminateBigComplete _ => none

/-- Refuse a command unless a condition holds. -/
def require (b : Bool) (status : ErrorCode) : Except ErrorCode Unit :=
  if b then .ok () else .error status

@[simp] theorem require_eq_ok {b : Bool} {status u} : require b status = .ok u ↔ b = true := by
  cases b <;> simp [require]

end RootCanal.Hci
