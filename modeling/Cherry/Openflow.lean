import Cherry.OF10

/-!
# The factory API of the `openflow` package

**The messages the L2 switching policy (`l2switch`) builds and sends.**

The policy does not write OpenFlow frames itself: it asks an `openflow.Factory` for empty
objects (`NewMatch`, `NewAction`, `NewInstruction`, `NewFlowMod`, `NewPacketOut`), fills
them with setters, and hands the result to `network.Device.SendMessage`.  Neither the
factory nor the objects are in the source, so each object is the record of what its
setters can fill in, and a fresh object is the record with every field unset.  The factory
calls themselves, which may fail, are effects of the controller and live in
`Cherry.Network`.

Two reserved ports are named by setters rather than numbers (`SetController` on an in-port,
`SetFlood` on an out-port), so the port records are sums of a port number and the reserved
port the policy uses.
-/

namespace Cherry.Openflow

open Cherry.OF10 (MAC)

/-- An in-port (`openflow.NewInPort` followed by its one setter): a port number
    (`SetValue`) or the controller (`SetController`). -/
inductive InPort where
  | value (n : UInt32)
  | controller
deriving DecidableEq, Repr

/-- An out-port (`openflow.NewOutPort` followed by its one setter): a port number
    (`SetValue`) or every port but the in-port (`SetFlood`). -/
inductive OutPort where
  | value (n : UInt32)
  | flood
deriving DecidableEq, Repr

/-- A flow match (`openflow.Match`): the fields its setters pin; an unset field is a
    wildcard, so the fresh match of `NewMatch` matches every frame. -/
structure Match where
  inPort : Option InPort := none
  etherType : Option UInt16 := none
  srcMAC : Option MAC := none
  dstMAC : Option MAC := none
deriving DecidableEq, Repr

structure Action where
  outPort : Option OutPort := none
deriving DecidableEq, Repr

structure Instruction where
  action : Option Action := none
deriving DecidableEq, Repr

inductive FlowModCmd where
  | add
  | delete
deriving DecidableEq, Repr

/-- A FLOW_MOD (`openflow.FlowMod`).  A fresh one carries its command, cookie and cookie
    mask `0`, and the all-wildcard match. -/
structure FlowMod where
  command : FlowModCmd
  tableID : UInt8 := 0
  idleTimeout : UInt16 := 0
  priority : UInt16 := 0
  cookie : UInt64 := 0
  cookieMask : UInt64 := 0
  flowMatch : Match := {}
  instruction : Option Instruction := none
deriving DecidableEq, Repr

structure PacketOut where
  inPort : Option InPort := none
  action : Option Action := none
  data : List UInt8 := []
deriving DecidableEq, Repr

/-- A message `network.Device.SendMessage` is given: the policy sends FLOW_MODs and
    PACKET_OUTs only. -/
inductive Outgoing where
  | flowMod (m : FlowMod)
  | packetOut (p : PacketOut)
deriving DecidableEq, Repr

def Outgoing.isPacketOut : Outgoing → Bool
  | .packetOut _ => true
  | .flowMod _ => false

/-- A PORT_STATUS (`openflow.PortStatus`), by what `status.Port()` answers: the port's
    number and whether it reports the port down or the link down. -/
structure PortStatus where
  number : UInt32
  isPortDown : Bool
  isLinkDown : Bool
deriving DecidableEq, Repr

/-! ## The cookie convention

A cookie whose most significant bit is set marks a table-miss rule; the policy's
cleanup DELETEs carry the cookie mask `1 << 63` so that they spare those rules. -/

def msbMask : UInt64 := (0x1 : UInt64) <<< 63

/-- The cookie marks a table-miss rule: its most significant bit is set. -/
def isTableMissCookie (cookie : UInt64) : Bool := cookie &&& msbMask != 0

end Cherry.Openflow
