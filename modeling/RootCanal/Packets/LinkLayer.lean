import RootCanal.Packets.Llcp

/-!
# Link layer packets

What controllers send each other over a phy: a source, a destination and a body.  The bodies are
listed for each kind of controller, those a modelled handler sends or receives.

Source: `packets/link_layer_packets.pdl`
-/

namespace RootCanal

/-- A Bluetooth device address, six octets. -/
abbrev Address := BitVec 48

/-- The empty address. -/
def Address.kEmpty : Address := 0

/-- A packet with its source and destination. -/
structure LinkLayerPacket (body : Type) where
  sourceAddress : Address
  destinationAddress : Address
  body : body
deriving DecidableEq, Repr

/-- The packets of an LE connection that carry its isochronous streams or end it. -/
inductive LeBody
  | disconnect (reason : UInt8)
  | llcp (packet : Llcp.LlcpPacket)
  | leConnectedIsochronousPdu (cigId cisId : UInt8) (sequenceNumber : UInt16) (data : List UInt8)
deriving DecidableEq, Repr

end RootCanal
