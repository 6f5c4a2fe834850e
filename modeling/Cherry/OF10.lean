import Mathlib.Data.List.Basic

/-!
# OpenFlow 1.0: wire constants and the records the device package reads

**The OpenFlow 1.0 vocabulary of `cherryd/internal/device/manager.go`.**

The constants of `openflow`'s `ofp_*` blocks are the wire values of OpenFlow 1.0 and are
copied here under their source names.  Only those a modelled function reads are kept:
`OFPPC_NO_STP` (the PORT_MOD burst of `handleFeaturesReplyMessage`), `OFPP_FLOOD` (the
PACKET_OUT of `handlePacketInMessage`; its block is not in the source), the capability bits and
the action types (the decoders `FeaturesReplyMessage.getCapability` and
`FeaturesReplyMessage.getSupportedAction`).  The other blocks (`ofp_type`, the error codes,
the remaining port config bits, the port features) are read by no modelled function.

The records are the parts of the `openflow` package's messages that `manager.go` reads or
stores.  The transceiver that parses them off the wire is not in the source: a message
reaches a handler already decoded, so it is a plain Lean record here, and the transceiver's
`Send*` calls are the constructors of `Outbound`.
-/

namespace Cherry.OF10

abbrev MAC := List UInt8

/-! ## 1. Wire constants -/

def OFPPC_NO_STP : UInt32 := (1 : UInt32) <<< 1

/-- The reserved port FLOOD of OpenFlow 1.0's `ofp_port`, the output of the PACKET_OUT of
    `handlePacketInMessage`.  The `ofp_port` block is not in the source; this is its wire
    value in OpenFlow 1.0. -/
def OFPP_FLOOD : UInt16 := 0xfffb

/-! Capability bits of `ofp_capabilities`. -/

def OFPC_FLOW_STATS : UInt32 := (1 : UInt32) <<< 0
def OFPC_TABLE_STATS : UInt32 := (1 : UInt32) <<< 1
def OFPC_PORT_STATS : UInt32 := (1 : UInt32) <<< 2
def OFPC_STP : UInt32 := (1 : UInt32) <<< 3
def OFPC_RESERVED : UInt32 := (1 : UInt32) <<< 4
def OFPC_IP_REASM : UInt32 := (1 : UInt32) <<< 5
def OFPC_QUEUE_STATS : UInt32 := (1 : UInt32) <<< 6
def OFPC_ARP_MATCH_IP : UInt32 := (1 : UInt32) <<< 7

/-! Action types of `ofp_action_type`, numbered as its `iota` block numbers them. -/

def OFPAT_OUTPUT : UInt32 := 0
def OFPAT_SET_VLAN_VID : UInt32 := 1
def OFPAT_SET_VLAN_PCP : UInt32 := 2
def OFPAT_STRIP_VLAN : UInt32 := 3
def OFPAT_SET_DL_SRC : UInt32 := 4
def OFPAT_SET_DL_DST : UInt32 := 5
def OFPAT_SET_NW_SRC : UInt32 := 6
def OFPAT_SET_NW_DST : UInt32 := 7
def OFPAT_SET_NW_TOS : UInt32 := 8
def OFPAT_SET_TP_SRC : UInt32 := 9
def OFPAT_SET_TP_DST : UInt32 := 10
def OFPAT_ENQUEUE : UInt32 := 11

def hasBit (mask flag : UInt32) : Bool := mask &&& flag != 0

/-! ## 2. Ports and the FEATURES_REPLY -/

/-- The record `openflow.Port` (`ofp_phy_port`), with the fields the device package reads: the port
    number, its MAC, its config bits and its advertised features.  Its name, state and the
    other feature masks are only printed. -/
structure Port where
  number : UInt16
  mac : MAC
  config : UInt32
  advertised : UInt32
deriving DecidableEq, Repr

/-- The record `openflow.Capability`, decoded from the capability mask. -/
structure Capability where
  flowStats : Bool
  tableStats : Bool
  portStats : Bool
  stp : Bool
  reserved : Bool
  ipReasm : Bool
  queueStats : Bool
  arpMatchIP : Bool
deriving DecidableEq, Repr

/-- The record `openflow.Action`: the action types a switch supports, decoded from the action mask,
    where bit `t` stands for action type `t`. -/
structure Action where
  output : Bool
  setVlanVid : Bool
  setVlanPcp : Bool
  stripVlan : Bool
  setDlSrc : Bool
  setDlDst : Bool
  setNwSrc : Bool
  setNwDst : Bool
  setNwTos : Bool
  setTpSrc : Bool
  setTpDst : Bool
  enqueue : Bool
deriving DecidableEq, Repr

structure FeaturesReplyMessage where
  DPID : UInt64
  NumBuffers : UInt32
  NumTables : UInt8
  Capabilities : UInt32
  Actions : UInt32
  Ports : List Port
deriving DecidableEq, Repr

/-- Modelled from the spec: `FeaturesReplyMessage.GetCapability` is not in the source; it
    reads the capability mask with the bit table of `ofp_capabilities`. -/
def FeaturesReplyMessage.getCapability (msg : FeaturesReplyMessage) : Capability where
  flowStats := hasBit msg.Capabilities OFPC_FLOW_STATS
  tableStats := hasBit msg.Capabilities OFPC_TABLE_STATS
  portStats := hasBit msg.Capabilities OFPC_PORT_STATS
  stp := hasBit msg.Capabilities OFPC_STP
  reserved := hasBit msg.Capabilities OFPC_RESERVED
  ipReasm := hasBit msg.Capabilities OFPC_IP_REASM
  queueStats := hasBit msg.Capabilities OFPC_QUEUE_STATS
  arpMatchIP := hasBit msg.Capabilities OFPC_ARP_MATCH_IP

/-- Modelled from the spec: `FeaturesReplyMessage.GetSupportedAction` is not in the source;
    action type `t` is supported when bit `1 << t` of the action mask is set. -/
def FeaturesReplyMessage.getSupportedAction (msg : FeaturesReplyMessage) : Action where
  output := hasBit msg.Actions ((1 : UInt32) <<< OFPAT_OUTPUT)
  setVlanVid := hasBit msg.Actions ((1 : UInt32) <<< OFPAT_SET_VLAN_VID)
  setVlanPcp := hasBit msg.Actions ((1 : UInt32) <<< OFPAT_SET_VLAN_PCP)
  stripVlan := hasBit msg.Actions ((1 : UInt32) <<< OFPAT_STRIP_VLAN)
  setDlSrc := hasBit msg.Actions ((1 : UInt32) <<< OFPAT_SET_DL_SRC)
  setDlDst := hasBit msg.Actions ((1 : UInt32) <<< OFPAT_SET_DL_DST)
  setNwSrc := hasBit msg.Actions ((1 : UInt32) <<< OFPAT_SET_NW_SRC)
  setNwDst := hasBit msg.Actions ((1 : UInt32) <<< OFPAT_SET_NW_DST)
  setNwTos := hasBit msg.Actions ((1 : UInt32) <<< OFPAT_SET_NW_TOS)
  setTpSrc := hasBit msg.Actions ((1 : UInt32) <<< OFPAT_SET_TP_SRC)
  setTpDst := hasBit msg.Actions ((1 : UInt32) <<< OFPAT_SET_TP_DST)
  enqueue := hasBit msg.Actions ((1 : UInt32) <<< OFPAT_ENQUEUE)

/-! ## 3. Flow rules and the messages the transceiver sends

`openflow.FlowMatch` starts as the all-wildcard match (`NewFlowMatch`) and each setter pins
one field; a `none` field is a wildcard.  The only action `manager.go` builds is
`FlowActionOutput`. -/

/-- An `net.IPNet`: an address and its mask, as `net.ParseCIDR` returns them. -/
structure IPNet where
  ip : List UInt8
  mask : List UInt8
deriving DecidableEq, Repr

/-- The match `openflow.FlowMatch`, one optional field per setter. -/
structure FlowMatch where
  inPort : Option UInt16 := none
  etherType : Option UInt16 := none
  protocol : Option UInt8 := none
  srcIP : Option IPNet := none
  dstIP : Option IPNet := none
  srcMAC : Option MAC := none
  dstMAC : Option MAC := none
  srcPort : Option UInt16 := none
  dstPort : Option UInt16 := none
  vlanID : Option UInt16 := none
  vlanPriority : Option UInt8 := none
  tos : Option UInt8 := none
deriving DecidableEq, Repr

def newFlowMatch : FlowMatch := {}

/-- The actions of `openflow.FlowAction`; `FlowActionOutput` is the only one built. -/
inductive FlowAction where
  | output (port : UInt16)
deriving DecidableEq, Repr

/-- The commands of a FLOW_MOD (`ofp_flow_mod_command`) that `manager.go` writes. -/
inductive FlowModCommand where
  | add | delete
deriving DecidableEq, Repr

/-- The flags of a FLOW_MOD (`openflow.FlowModifyFlag`) that `manager.go` sets. -/
structure FlowModifyFlag where
  sendFlowRemoved : Bool := false
  checkOverlap : Bool := false
deriving DecidableEq, Repr

/-- The message `openflow.FlowModifyMessage`, with the fields `manager.go` sets. -/
structure FlowModifyMessage where
  flowMatch : FlowMatch
  command : FlowModCommand
  idleTimeout : UInt16 := 0
  hardTimeout : UInt16 := 0
  flags : FlowModifyFlag := {}
  actions : List FlowAction := []
deriving DecidableEq, Repr

/-- One frame the transceiver writes, one constructor per `Send*` method `manager.go`
    calls. -/
inductive Outbound where
  | portMod (number : UInt16) (mac : MAC) (config advertised : UInt32)
  | barrierRequest
  | flowMod (mod : FlowModifyMessage)
  | flowStatsRequest (flowMatch : FlowMatch)
  | getConfigRequest
  | packetOut (inPort : UInt16) (actions : List FlowAction) (data : List UInt8)
deriving DecidableEq, Repr

def Outbound.isPacketOut : Outbound → Bool
  | .packetOut .. => true
  | _ => false

end Cherry.OF10
