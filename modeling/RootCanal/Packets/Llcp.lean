import RootCanal.Lib.Checked

/-!
# LLCP packets of the CIS procedures

The link layer control packets two controllers exchange to create and end a connected
isochronous stream, field by field as `rust/llcp_packets.pdl` declares them.  `fits` is the
encoder's check that every scalar fits its declared width; a packet that fits is decoded by the
peer with the fields it was sent with.
-/

namespace RootCanal.Llcp

/-- The opcode of a request. -/
def Opcode.llCisReq : UInt8 := 0x1f

/-- `LL_CIS_REQ`. -/
structure CisReq where
  cigId : UInt8
  cisId : UInt8
  phyCToP : UInt8
  phyPToC : UInt8
  framed : UInt8
  maxSduCToP : UInt16
  maxSduPToC : UInt16
  sduIntervalCToP : UInt32
  sduIntervalPToC : UInt32
  maxPduCToP : UInt16
  maxPduPToC : UInt16
  nse : UInt8
  subInterval : UInt32
  bnCToP : UInt8
  bnPToC : UInt8
  ftCToP : UInt8
  ftPToC : UInt8
  isoInterval : UInt16
  cisOffsetMin : UInt32
  cisOffsetMax : UInt32
  connEventCount : UInt16
deriving DecidableEq, Repr

/-- `LL_CIS_RSP`. -/
structure CisRsp where
  cisOffsetMin : UInt32
  cisOffsetMax : UInt32
  connEventCount : UInt16
deriving DecidableEq, Repr

/-- `LL_CIS_IND`. -/
structure CisInd where
  aa : UInt32
  cisOffset : UInt32
  cigSyncDelay : UInt32
  cisSyncDelay : UInt32
  connEventCount : UInt16
deriving DecidableEq, Repr

/-- `LL_CIS_TERMINATE_IND`. -/
structure CisTerminateInd where
  cigId : UInt8
  cisId : UInt8
  errorCode : UInt8
deriving DecidableEq, Repr

/-- `LL_REJECT_EXT_IND`. -/
structure RejectExtInd where
  rejectOpcode : UInt8
  errorCode : UInt8
deriving DecidableEq, Repr

/-- The packets the link layer exchanges for CISes.
Source: `ingest_llcp` -/
inductive LlcpPacket
  | rejectExtInd (packet : RejectExtInd)
  | cisReq (packet : CisReq)
  | cisRsp (packet : CisRsp)
  | cisInd (packet : CisInd)
  | cisTerminateInd (packet : CisTerminateInd)
deriving DecidableEq, Repr

/-- Every scalar of the packet fits its declared width. -/
def CisReq.fits (p : CisReq) : Bool :=
  decide (p.framed.toNat < 2 ^ 1) && decide (p.maxSduCToP.toNat < 2 ^ 12) &&
    decide (p.maxSduPToC.toNat < 2 ^ 12) && decide (p.sduIntervalCToP.toNat < 2 ^ 20) &&
    decide (p.sduIntervalPToC.toNat < 2 ^ 20) && decide (p.subInterval.toNat < 2 ^ 24) &&
    decide (p.bnPToC.toNat < 2 ^ 4) && decide (p.bnCToP.toNat < 2 ^ 4) &&
    decide (p.cisOffsetMin.toNat < 2 ^ 24) && decide (p.cisOffsetMax.toNat < 2 ^ 24)

/-- Every scalar of the packet fits its declared width. -/
def CisInd.fits (p : CisInd) : Bool :=
  decide (p.cisOffset.toNat < 2 ^ 24) && decide (p.cigSyncDelay.toNat < 2 ^ 24) &&
    decide (p.cisSyncDelay.toNat < 2 ^ 24)

/-- Every scalar of the packet fits its declared width. -/
def LlcpPacket.fits : LlcpPacket → Bool
  | .cisReq p => p.fits
  | .cisRsp p => decide (p.cisOffsetMin.toNat < 2 ^ 24) && decide (p.cisOffsetMax.toNat < 2 ^ 24)
  | .cisInd p => p.fits
  | .rejectExtInd _ | .cisTerminateInd _ => true

end RootCanal.Llcp
