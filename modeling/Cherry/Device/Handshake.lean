import Cherry.Device.Manager

/-!
# The handshake as the handlers run it

**What a session has written, and whether it is registered, after any sequence of inbound
messages.**

The spec orders the handshake totally: FEATURES_REPLY, then the PORT_MOD burst, then the
BARRIER_REPLY, and only then the first forwarding-plane message.  The handlers do not wait
for the barrier.  `handleFeaturesReplyMessage` registers the session in the pool right after
writing the BARRIER_REQUEST and goes on, in its test block, to write a FLOW_MOD; and
`handlePacketInMessage` floods every PACKET_IN it gets, whatever came before.
-/

namespace Cherry.Device

open Cherry.OF10

/-! ## 1. A first session -/

def port1 : Port := { number := 1, mac := [0, 0, 0, 0, 0, 1], config := 0, advertised := 0 }

/-- The FEATURES_REPLY of the spec's handshake scenario: datapath `0x0102030405060708`, 256
    buffers, one table, FLOW_STATS and PORT_STATS, OUTPUT, and port 1. -/
def scenarioFeatures : FeaturesReplyMessage where
  DPID := 0x0102030405060708
  NumBuffers := 256
  NumTables := 1
  Capabilities := 0x05
  Actions := 0x01
  Ports := [port1]

end Cherry.Device
