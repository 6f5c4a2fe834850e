import Cherry.Network

/-!
# The L2 switching policy: packet-in handling

**`L2Switch.ProcessPacket` and the functions it calls, as the source writes them.**

For a PACKET_IN carrying the frame `eth` in on the port `ingress`, the policy floods the
frame when its destination is unknown or broadcast, and otherwise installs forwarding rules
and sends the frame to the destination host: on one switch (`localSwitching`) when the host
is behind the ingress switch, along the path the finder returns (`switching`) otherwise.

Each function on the switching path has one `FailStop` lemma: the messages it sends when no
call fails (`Env.Reliable`), of which a run that meets a failure has sent the first ones.
Callers cite it and never unfold the callee.  The messages are named once:

* `packetOutMsg` is the PACKET_OUT of `flood` and `packetout`, which differ only in the
  device, the in-port and the out-port (`sendPacketOut` is the body they share);
* `installFlowMod` is the FLOW_MOD of `installFlow`, and `setFlowRule` sends it twice;
* `routeParams` lists the `flowParam`s `switching` fills in, hop by hop, threading the
  in-port of each hop from the entry port of the one before.
-/

namespace Cherry.L2Switch

open Cherry.OF10 (MAC)
open Cherry.Openflow Cherry.Network

/-! ## 1. PACKET_OUT: `flood` and `packetout` -/

/-- The PACKET_OUT `flood` and `packetout` fill in. -/
def packetOutMsg (inPort : InPort) (outPort : OutPort) (packet : List UInt8) : PacketOut :=
  { inPort := some inPort, action := some { outPort := some outPort }, data := packet }

/-- The body `flood` and `packetout` share: a fresh action and a fresh PACKET_OUT, filled
    in and sent to `device`. -/
def sendPacketOut (device : Device) (inPort : InPort) (outPort : OutPort)
    (packet : List UInt8) : Ctl Unit := do
  let action ← newAction
  let action := { action with outPort := some outPort }
  let out ← newPacketOut
  let out := { out with inPort := some inPort, action := some action, data := packet }
  device.sendMessage (.packetOut out)

/-- The function `flood`: the frame goes out of every port of the ingress switch but the
    one it came in on. -/
def flood (ingress : Port) (packet : List UInt8) : Ctl Unit :=
  sendPacketOut ingress.device (.value ingress.number) .flood packet

/-- The function `packetout`: the controller sends the frame out of the egress port. -/
def packetout (egress : Port) (packet : List UInt8) : Ctl Unit :=
  sendPacketOut egress.device .controller (.value egress.number) packet

/-- The function `isBroadcast`: the destination is `FF:FF:FF:FF:FF:FF`. -/
def isBroadcast (eth : Ethernet) : Bool :=
  eth.dstMAC == [0xFF, 0xFF, 0xFF, 0xFF, 0xFF, 0xFF]

/-! ## 2. FLOW_MOD: `installFlow` and `setFlowRule` -/

/-- The record `flowParam`: where a forwarding rule goes and what it matches and outputs. -/
structure FlowParam where
  device : Device
  etherType : UInt16
  inPort : UInt32
  outPort : UInt32
  srcMAC : MAC
  dstMAC : MAC
deriving DecidableEq, Repr

/-- The FLOW_MOD `installFlow` fills in: an ADD into the device's flow table, idle timeout
    30, priority 10, matching (in-port, ether type, source and destination MAC), with one
    OUTPUT action. -/
def installFlowMod (p : FlowParam) : FlowMod :=
  { command := .add, tableID := p.device.flowTableID, idleTimeout := 30, priority := 10,
    flowMatch := { inPort := some (.value p.inPort), etherType := some p.etherType,
                   srcMAC := some p.srcMAC, dstMAC := some p.dstMAC },
    instruction := some { action := some { outPort := some (.value p.outPort) } } }

def installFlow (p : FlowParam) : Ctl Unit := do
  let inPort := InPort.value p.inPort
  let m ← newMatch
  let m := { m with inPort := some inPort, etherType := some p.etherType,
                    srcMAC := some p.srcMAC, dstMAC := some p.dstMAC }
  let outPort := OutPort.value p.outPort
  let action ← newAction
  let action := { action with outPort := some outPort }
  let inst ← newInstruction
  let inst := { inst with action := some action }
  let flow ← newFlowMod .add
  let flow := { flow with tableID := p.device.flowTableID, idleTimeout := 30, priority := 10,
                          flowMatch := m, instruction := some inst }
  p.device.sendMessage (.flowMod flow)

/-- The function `setFlowRule`: its "forward" and "backward" calls install the same rule. -/
def setFlowRule (p : FlowParam) : Ctl Unit := do
  installFlow p
  installFlow p

def installFlowSend (p : FlowParam) : Device × Outgoing := (p.device, .flowMod (installFlowMod p))

/-! ## 3. `switching`, `localSwitching` and `ProcessPacket` -/

/-- The record `switchParam` (the factory is the environment's). -/
structure SwitchParam where
  finder : Finder
  ethernet : Ethernet
  ingress : Port
  egress : Port
  rawPacket : List UInt8

/-- The `flowParam` literal `switching` and `localSwitching` fill in for one switch. -/
def SwitchParam.flowParam (p : SwitchParam) (device : Device) (inPort outPort : UInt32) :
    FlowParam :=
  { device, etherType := p.ethernet.type, inPort, outPort,
    srcMAC := p.ethernet.srcMAC, dstMAC := p.ethernet.dstMAC }

/-- The loop of `switching` over the path: for the hop `v`, a rule on `v[0]`'s switch from
    the current in-port out of `v[0]`, then `inPort = v[1].Number()`.  It returns the last
    in-port. -/
def installPath (p : SwitchParam) : UInt32 → List (Port × Port) → Ctl UInt32
  | inPort, [] => pure inPort
  | inPort, v :: path => do
      setFlowRule (p.flowParam v.1.device inPort v.1.number)
      installPath p v.2.number path

/-- The method `L2Switch.switching`.  An empty path is logged and is not an error. -/
def switching (p : SwitchParam) : Ctl Unit :=
  let path := p.finder.path p.ingress.device.id p.egress.device.id
  if path.isEmpty then pure ()
  else do
    let inPort ← installPath p p.ingress.number path
    setFlowRule (p.flowParam p.egress.device inPort p.egress.number)
    packetout p.egress p.rawPacket

def localSwitching (p : SwitchParam) : Ctl Unit := do
  setFlowRule (p.flowParam p.ingress.device p.ingress.number p.egress.number)
  packetout p.egress p.rawPacket

/-- The frame encoder, as Go's `packet, err := eth.MarshalBinary()`. -/
def marshalBinary (eth : Ethernet) : Ctl (Except String (List UInt8)) := fun s =>
  .ok (s.env.marshalBinary eth) s

/-- The method `L2Switch.ProcessPacket`, returning `(drop, err)`. -/
def processPacket (finder : Finder) (eth : Ethernet) (ingress : Port) :
    Ctl (Bool × Option String) := do
  match ← marshalBinary eth with
  | .error err => pure (false, some err)
  | .ok packet =>
    match finder.node eth.dstMAC, isBroadcast eth with
    | some dstNode, false =>
      let param : SwitchParam :=
        { finder, ethernet := eth, ingress, egress := dstNode.port, rawPacket := packet }
      let err ← errorOf <|
        if ingress.device.id = dstNode.port.device.id then localSwitching param
        else switching param
      match err with
      | some e => pure (false, some ("failed to switch a packet: " ++ e))
      | none => pure (true, none)
    | _, _ => do
      let err ← errorOf (flood ingress packet)
      pure (true, err)

/-! ## 4. The switching path stops at its first failure

Every call on the switching path returns the error of its first failed call at once.  So a
run sends the messages of the run in which nothing fails or, when some call fails, the
first of them, in the same order (`FailStop`); under a reliable environment it returns,
having sent them all.  Those messages are named once: -/

/-- The routing `flowParam`s of `switching` for `path` entered at `inPort`: one per hop, on
    the hop's exit switch from the current in-port out of the exit port, the next in-port
    being the hop's entry port; then the final one on the egress switch. -/
def routeParams (p : SwitchParam) : UInt32 → List (Port × Port) → List FlowParam
  | inPort, [] => [p.flowParam p.egress.device inPort p.egress.number]
  | inPort, v :: path => p.flowParam v.1.device inPort v.1.number :: routeParams p v.2.number path

def setFlowRuleSends (q : FlowParam) : List (Device × Outgoing) :=
  [installFlowSend q, installFlowSend q]

theorem sendPacketOut_failStop (device : Device) (inPort : InPort) (outPort : OutPort)
    (packet : List UInt8) :
    FailStop (sendPacketOut device inPort outPort packet) ()
      [(device, .packetOut (packetOutMsg inPort outPort packet))] := by
  unfold sendPacketOut newAction newPacketOut
  exact .congr (.bind (.factoryCall _ _) (.bind (.factoryCall _ _) (.sendMessage _ _))) rfl

theorem installFlow_failStop (p : FlowParam) : FailStop (installFlow p) () [installFlowSend p] := by
  unfold installFlow newMatch newAction newInstruction newFlowMod
  exact .congr (.bind (.factoryCall _ _) (.bind (.factoryCall _ _) (.bind (.factoryCall _ _)
    (.bind (.factoryCall _ _) (.sendMessage _ _))))) rfl

theorem setFlowRule_failStop (p : FlowParam) :
    FailStop (setFlowRule p) () (setFlowRuleSends p) :=
  (FailStop.bind (installFlow_failStop p) (installFlow_failStop p)).congr rfl

/-- The loop of `switching` and the final rule after it, then `rest`: the rules of
    `routeParams`, in route order, each twice. -/
theorem installPath_failStop {α : Type} {a : α} {m : List (Device × Outgoing)}
    (p : SwitchParam) (inPort : UInt32) (path : List (Port × Port)) {rest : Ctl α}
    (hrest : FailStop rest a m) :
    FailStop (do
      let inPort ← installPath p inPort path
      setFlowRule (p.flowParam p.egress.device inPort p.egress.number)
      rest) a ((routeParams p inPort path).flatMap setFlowRuleSends ++ m) := by
  induction path generalizing inPort with
  | nil =>
    refine .congr (.bind (.pure' _) (.bind (setFlowRule_failStop _) hrest)) ?_
    simp [routeParams]
  | cons v path ih =>
    simp only [installPath, bind_assoc]
    exact .congr (.bind (setFlowRule_failStop _) (ih v.2.number)) (by simp [routeParams])

theorem switching_run_of_empty {s : Net} (p : SwitchParam)
    (hp : p.finder.path p.ingress.device.id p.egress.device.id = []) :
    (switching p).run s = .ok () s := by
  simp [switching, hp]

/-- On a non-empty path: the rules of `routeParams`, each twice, then the frame out to the
    egress port. -/
theorem switching_failStop_path (p : SwitchParam)
    (hp : p.finder.path p.ingress.device.id p.egress.device.id ≠ []) :
    FailStop (switching p) ()
      ((routeParams p p.ingress.number (p.finder.path p.ingress.device.id p.egress.device.id)).flatMap
        setFlowRuleSends ++
      [(p.egress.device, .packetOut (packetOutMsg .controller (.value p.egress.number) p.rawPacket))]) := by
  simp only [switching, List.isEmpty_iff, hp, if_false]
  exact installPath_failStop _ _ _ (sendPacketOut_failStop _ _ _ _)

theorem switching_failStop (p : SwitchParam) : ∃ msgs, FailStop (switching p) () msgs := by
  by_cases hp : p.finder.path p.ingress.device.id p.egress.device.id = []
  · exact ⟨[], fun s => .inl ⟨s.calls, by simp [switching_run_of_empty p hp]⟩⟩
  · exact ⟨_, switching_failStop_path p hp⟩

theorem localSwitching_failStop (p : SwitchParam) :
    FailStop (localSwitching p) ()
      (setFlowRuleSends (p.flowParam p.ingress.device p.ingress.number p.egress.number) ++
      [(p.egress.device, .packetOut (packetOutMsg .controller (.value p.egress.number) p.rawPacket))]) :=
  .bind (setFlowRule_failStop _) (sendPacketOut_failStop _ _ _ _)

/-! ## 5. `ProcessPacket`, case by case -/

@[simp] theorem run_marshalBinary (s : Net) (eth : Ethernet) :
    (marshalBinary eth).run s = .ok (s.env.marshalBinary eth) s := rfl

section ProcessPacket

variable {s : Net} {finder : Finder} {eth : Ethernet} {ingress : Port}

/-- A frame that cannot be encoded is not dropped, and nothing is sent. -/
theorem processPacket_run_of_error {e : String} (hm : s.env.marshalBinary eth = .error e) :
    (processPacket finder eth ingress).run s = .ok (false, some e) s := by
  simp [processPacket, hm]

/-- A broadcast or unknown destination: one flood on the ingress switch. -/
theorem processPacket_run_flood {packet : List UInt8} (hr : s.env.Reliable)
    (hm : s.env.marshalBinary eth = .ok packet)
    (hf : finder.node eth.dstMAC = none ∨ isBroadcast eth = true) :
    ∃ c, (processPacket finder eth ingress).run s = .ok (true, none) ⟨s.env, s.sent ++
      [(ingress.device, .packetOut (packetOutMsg (.value ingress.number) .flood packet))], c⟩ := by
  obtain ⟨c, hflood⟩ := (sendPacketOut_failStop ingress.device (.value ingress.number) .flood
    packet).run_of_reliable hr
  refine ⟨c, ?_⟩
  simp only [processPacket, run_bind, run_marshalBinary, hm]
  rcases hf with hf | hf
  · simp [hf, flood, hflood]
  · cases finder.node eth.dstMAC <;> simp [hf, flood, hflood]

variable {n : Node} {packet : List UInt8}

def toHost (finder : Finder) (eth : Ethernet) (ingress : Port) (n : Node)
    (packet : List UInt8) : SwitchParam :=
  { finder, ethernet := eth, ingress, egress := n.port, rawPacket := packet }

/-- A known host behind the ingress switch: its rule twice, then the frame out to it. -/
theorem processPacket_run_local (hr : s.env.Reliable) (hm : s.env.marshalBinary eth = .ok packet)
    (hn : finder.node eth.dstMAC = some n) (hb : isBroadcast eth = false)
    (hl : ingress.device.id = n.port.device.id) :
    ∃ c, (processPacket finder eth ingress).run s = .ok (true, none) ⟨s.env, s.sent ++
      (setFlowRuleSends ((toHost finder eth ingress n packet).flowParam ingress.device
        ingress.number n.port.number) ++
      [(n.port.device, .packetOut (packetOutMsg .controller (.value n.port.number) packet))]), c⟩ := by
  obtain ⟨c, h⟩ := (localSwitching_failStop (toHost finder eth ingress n packet)).run_of_reliable hr
  simp only [toHost] at h ⊢
  exact ⟨c, by simp [processPacket, hm, hn, hb, if_pos hl, h]⟩

/-- `D` behind port 5 of `A` (the spec's local switching scenario): the rule from port 3 to
    port 5 is sent twice before the PACKET_OUT. -/
theorem processPacket_local_sends_rule_twice :
    ∃ c, (processPacket (hostAt ⟨switchA, 5⟩) frameSD ⟨switchA, 3⟩).run ⟨Env.lossless, [], 0⟩ =
      .ok (true, none) ⟨Env.lossless,
        [installFlowSend ⟨switchA, 0x0800, 3, 5, macS, macD⟩,
         installFlowSend ⟨switchA, 0x0800, 3, 5, macS, macD⟩,
         (switchA, .packetOut (packetOutMsg .controller (.value 5) []))], c⟩ :=
  processPacket_run_local (n := ⟨macD, ⟨switchA, 5⟩⟩) Env.lossless_reliable rfl rfl rfl rfl

/-- A known host on another switch that no path reaches: nothing is sent, and the frame is
    still reported dropped. -/
theorem processPacket_run_noPath (hm : s.env.marshalBinary eth = .ok packet)
    (hn : finder.node eth.dstMAC = some n) (hb : isBroadcast eth = false)
    (hl : ingress.device.id ≠ n.port.device.id)
    (hp : finder.path ingress.device.id n.port.device.id = []) :
    (processPacket finder eth ingress).run s = .ok (true, none) s := by
  have h := switching_run_of_empty (s := s) (p := toHost finder eth ingress n packet) hp
  simp only [toHost] at h
  simp [processPacket, hm, hn, hb, if_neg hl, h]

/-- A known host on another switch along a non-empty path: the rules of `routeParams`,
    each twice, then the frame out to the host. -/
theorem processPacket_run_path (hr : s.env.Reliable) (hm : s.env.marshalBinary eth = .ok packet)
    (hn : finder.node eth.dstMAC = some n) (hb : isBroadcast eth = false)
    (hl : ingress.device.id ≠ n.port.device.id)
    (hp : finder.path ingress.device.id n.port.device.id ≠ []) :
    ∃ c, (processPacket finder eth ingress).run s = .ok (true, none) ⟨s.env, s.sent ++
      ((routeParams (toHost finder eth ingress n packet) ingress.number
        (finder.path ingress.device.id n.port.device.id)).flatMap setFlowRuleSends ++
      [(n.port.device, .packetOut (packetOutMsg .controller (.value n.port.number) packet))]), c⟩ := by
  obtain ⟨c, h⟩ := (switching_failStop_path (toHost finder eth ingress n packet) hp).run_of_reliable hr
  simp only [toHost] at h ⊢
  exact ⟨c, by simp [processPacket, hm, hn, hb, if_neg hl, h]⟩

/-- The rules `setFlowRule` sends are no PACKET_OUTs. -/
theorem filter_isPacketOut_setFlowRuleSends (qs : List FlowParam) :
    (qs.flatMap setFlowRuleSends).filter (fun m => m.2.isPacketOut) = [] := by
  simp [List.filter_flatMap, setFlowRuleSends, installFlowSend, Outgoing.isPacketOut]

/-- What `drop` means.  With no failing call, `ProcessPacket` reports `drop = false` only
    for a frame it cannot encode, and has then sent nothing.  Every other frame is reported
    dropped with no error.  The one PACKET_OUT it sends carries the encoded frame: flooded
    on the ingress switch for a broadcast or unknown destination, out of the host's port on
    the host's switch otherwise.  A host on another switch that no path reaches gets
    nothing at all. -/
theorem processPacket_drop (hr : s.env.Reliable) :
    match s.env.marshalBinary eth with
    | .error e => (processPacket finder eth ingress).run s = .ok (false, some e) s
    | .ok packet =>
      match finder.node eth.dstMAC, isBroadcast eth with
      | some n, false =>
        if ingress.device.id ≠ n.port.device.id ∧
            finder.path ingress.device.id n.port.device.id = [] then
          (processPacket finder eth ingress).run s = .ok (true, none) s
        else ∃ msgs c, (processPacket finder eth ingress).run s =
            .ok (true, none) ⟨s.env, s.sent ++ msgs, c⟩ ∧
          msgs.filter (fun m => m.2.isPacketOut) =
            [(n.port.device, .packetOut (packetOutMsg .controller (.value n.port.number) packet))]
      | _, _ => ∃ c, (processPacket finder eth ingress).run s = .ok (true, none) ⟨s.env, s.sent ++
          [(ingress.device, .packetOut (packetOutMsg (.value ingress.number) .flood packet))], c⟩ := by
  rcases hm : s.env.marshalBinary eth with e | packet
  · exact processPacket_run_of_error hm
  rcases hn : finder.node eth.dstMAC with _ | n <;> rcases hb : isBroadcast eth <;> dsimp only
  case none.false => exact processPacket_run_flood hr hm (.inl hn)
  case none.true => exact processPacket_run_flood hr hm (.inl hn)
  case some.true => exact processPacket_run_flood hr hm (.inr hb)
  case some.false =>
    by_cases hl : ingress.device.id = n.port.device.id
    · rw [if_neg (fun h => h.1 hl)]
      obtain ⟨c, h⟩ := processPacket_run_local hr hm hn hb hl
      refine ⟨_, c, h, ?_⟩
      simp [setFlowRuleSends, installFlowSend, Outgoing.isPacketOut]
    by_cases hp : finder.path ingress.device.id n.port.device.id = []
    · rw [if_pos ⟨hl, hp⟩]
      exact processPacket_run_noPath hm hn hb hl hp
    · rw [if_neg (fun h => hp h.2)]
      obtain ⟨c, h⟩ := processPacket_run_path hr hm hn hb hl hp
      refine ⟨_, c, h, ?_⟩
      simp only [List.filter_append, filter_isPacketOut_setFlowRuleSends]
      simp [Outgoing.isPacketOut]

theorem processPacket_drop_local :
    ∃ msgs c, (processPacket (hostAt ⟨switchA, 5⟩) frameSD ⟨switchA, 3⟩).run
        ⟨Env.lossless, [], 0⟩ = .ok (true, none) ⟨Env.lossless, [] ++ msgs, c⟩ ∧
      msgs.filter (fun m => m.2.isPacketOut) =
        [(switchA, .packetOut (packetOutMsg .controller (.value 5) []))] :=
  @processPacket_drop ⟨Env.lossless, [], 0⟩ (hostAt ⟨switchA, 5⟩) frameSD ⟨switchA, 3⟩
    Env.lossless_reliable

/-- `D` behind port 5 of `B`, which no path reaches: `ProcessPacket` sends nothing, yet
    reports the frame dropped. -/
theorem processPacket_unreachable_reports_drop :
    (processPacket (hostAt ⟨switchB, 5⟩) frameSD ⟨switchA, 3⟩).run ⟨Env.lossless, [], 0⟩ =
      .ok (true, none) ⟨Env.lossless, [], 0⟩ :=
  processPacket_run_noPath rfl rfl rfl (by decide) rfl

end ProcessPacket

/-! ## 6. What `ProcessPacket` may send, whatever fails

Whatever the factory, the sends and the encoder answer, `ProcessPacket` sends FLOW_MODs
installing rules for the frame's own ether type and MAC pair, and PACKET_OUTs of the encoded
frame, and nothing else.  Each function has one `SendsOnly` lemma, and the ones of its
callees are composed with `SendsOnly.bind`. -/

/-- A message `ProcessPacket` may send for the frame `eth`, whose encoding is `enc`: a
    FLOW_MOD installing a rule for the frame's own ether type and MAC pair, or a PACKET_OUT
    of the encoded frame. -/
def ForFrame (eth : Ethernet) (enc : Except String (List UInt8)) (x : Device × Outgoing) :
    Prop :=
  (∃ q : FlowParam, q.etherType = eth.type ∧ q.srcMAC = eth.srcMAC ∧ q.dstMAC = eth.dstMAC ∧
    x = installFlowSend q) ∨
  ∃ inPort outPort packet, enc = .ok packet ∧ x.2 = .packetOut (packetOutMsg inPort outPort packet)

theorem sendPacketOut_sendsOnly (device : Device) (inPort : InPort) (outPort : OutPort)
    (packet : List UInt8) :
    SendsOnly (· = (device, .packetOut (packetOutMsg inPort outPort packet)))
      (sendPacketOut device inPort outPort packet) :=
  .factoryCall_bind (.factoryCall_bind (.sendMessage rfl))

theorem installFlow_sendsOnly (p : FlowParam) :
    SendsOnly (· = installFlowSend p) (installFlow p) :=
  .factoryCall_bind (.factoryCall_bind (.factoryCall_bind (.factoryCall_bind (.sendMessage rfl))))

/-- A rule for a switching parameter is for its frame. -/
theorem forFrame_flowParam (p : SwitchParam) (device : Device) (inPort outPort : UInt32) :
    ForFrame p.ethernet (.ok p.rawPacket) (installFlowSend (p.flowParam device inPort outPort)) :=
  .inl ⟨_, rfl, rfl, rfl, rfl⟩

theorem setFlowRule_sendsOnly (p : SwitchParam) (device : Device) (inPort outPort : UInt32) :
    SendsOnly (ForFrame p.ethernet (.ok p.rawPacket))
      (setFlowRule (p.flowParam device inPort outPort)) :=
  have h := (installFlow_sendsOnly (p.flowParam device inPort outPort)).mono
    fun _ hm => hm ▸ forFrame_flowParam p device inPort outPort
  .bind h fun _ => h

/-- A PACKET_OUT of the encoded frame is for the frame. -/
theorem sendPacketOut_forFrame (eth : Ethernet) (device : Device) (inPort : InPort)
    (outPort : OutPort) (packet : List UInt8) :
    SendsOnly (ForFrame eth (.ok packet)) (sendPacketOut device inPort outPort packet) :=
  (sendPacketOut_sendsOnly _ _ _ _).mono fun _ hm => by subst hm; exact .inr ⟨_, _, _, rfl, rfl⟩

theorem installPath_sendsOnly (p : SwitchParam) (inPort : UInt32) (path : List (Port × Port)) :
    SendsOnly (ForFrame p.ethernet (.ok p.rawPacket)) (installPath p inPort path) := by
  induction path generalizing inPort with
  | nil => exact .pure' _
  | cons v path ih => exact .bind (setFlowRule_sendsOnly _ _ _ _) fun _ => ih _

theorem switching_sendsOnly (p : SwitchParam) :
    SendsOnly (ForFrame p.ethernet (.ok p.rawPacket)) (switching p) := by
  dsimp only [switching]
  split
  · exact .pure' _
  · exact .bind (installPath_sendsOnly _ _ _) fun _ =>
      .bind (setFlowRule_sendsOnly _ _ _ _) fun _ => sendPacketOut_forFrame _ _ _ _ _

theorem localSwitching_sendsOnly (p : SwitchParam) :
    SendsOnly (ForFrame p.ethernet (.ok p.rawPacket)) (localSwitching p) :=
  .bind (setFlowRule_sendsOnly _ _ _ _) fun _ => sendPacketOut_forFrame _ _ _ _ _

/-- `ProcessPacket` sends nothing of its own.  Take a property of a message, for the frame's
    encoding, that every message of `localSwitching` and of `switching` to any egress port
    has, and every message of the flood, whatever fails; then every message `ProcessPacket`
    sends has it, whatever fails. -/
theorem processPacket_sendsOnly {finder : Finder} {eth : Ethernet} {ingress : Port}
    {P : Except String (List UInt8) → Device × Outgoing → Prop}
    (hlocal : ∀ packet egress, SendsOnly (P (.ok packet))
      (localSwitching { finder, ethernet := eth, ingress, egress, rawPacket := packet }))
    (hswitch : ∀ packet egress, SendsOnly (P (.ok packet))
      (switching { finder, ethernet := eth, ingress, egress, rawPacket := packet }))
    (hflood : ∀ packet, SendsOnly (P (.ok packet)) (flood ingress packet)) (s : Net) :
    ∃ msgs n, after ((processPacket finder eth ingress).run s) = ⟨s.env, s.sent ++ msgs, n⟩ ∧
      ∀ x ∈ msgs, P (s.env.marshalBinary eth) x := by
  rw [processPacket, run_bind, run_marshalBinary]
  cases s.env.marshalBinary eth with
  | error e => exact ⟨[], s.calls, by simp [after], by simp⟩
  | ok packet =>
    refine (?_ : SendsOnly (P (.ok packet)) _) s
    dsimp only
    split
    · refine .bind (.errorOf ?_) fun err => ?_
      · split
        · exact hlocal packet _
        · exact hswitch packet _
      · split <;> exact .pure' _
    · exact .bind (.errorOf (hflood packet)) fun _ => .pure' _

/-- Whatever the factory, the sends and the encoder answer, and whether it returns or
    fails, `ProcessPacket` sends only FLOW_MODs installing a rule for the frame's own ether
    type and MAC pair, and PACKET_OUTs of the encoded frame: it deletes nothing and installs
    no rule for another flow. -/
theorem processPacket_sends_only_frame (finder : Finder) (eth : Ethernet) (ingress : Port)
    (s : Net) :
    ∃ msgs n, after ((processPacket finder eth ingress).run s) = ⟨s.env, s.sent ++ msgs, n⟩ ∧
      ∀ x ∈ msgs, ForFrame eth (s.env.marshalBinary eth) x :=
  processPacket_sendsOnly (fun _ _ => localSwitching_sendsOnly _)
    (fun _ _ => switching_sendsOnly _) (fun _ => sendPacketOut_forFrame _ _ _ _ _) s

/-! ## 7. `ProcessPacket` stops at its first failure

With every call on its switching path fail-stop, `ProcessPacket` too has sent a prefix of
what it sends when nothing fails: it catches the error and only reports it. -/

/-- `ProcessPacket` stops at its first failure.  Whatever the factory and the sends answer,
    a run has sent the first messages, in order, of the run with the same encoder in which no
    call fails. -/
theorem processPacket_sends_prefix (finder : Finder) (eth : Ethernet) (ingress : Port)
    (s : Net) {env : Env} (hr : env.Reliable)
    (henc : env.marshalBinary eth = s.env.marshalBinary eth) :
    ∃ msgs r n, (processPacket finder eth ingress).run ⟨env, s.sent, s.calls⟩ =
        .ok r ⟨env, s.sent ++ msgs, n⟩ ∧
      ∃ k n', after ((processPacket finder eth ingress).run s) =
        ⟨s.env, s.sent ++ msgs.take k, n'⟩ := by
  simp only [processPacket, run_bind, run_marshalBinary]
  rw [henc]
  cases s.env.marshalBinary eth with
  | error e => exact ⟨[], (false, some e), s.calls, by simp, 0, s.calls, by simp [after]⟩
  | ok packet =>
    dsimp only
    split
    · refine FailStop.caught ?_ (fun o s => by cases o <;> exact ⟨_, rfl⟩) s hr
      split
      · exact ⟨_, localSwitching_failStop _⟩
      · exact switching_failStop _
    · exact FailStop.caught ⟨_, sendPacketOut_failStop _ _ _ _⟩ (fun _ _ => ⟨_, rfl⟩) s hr

/-- The first send fails: `ProcessPacket` has sent the first of the messages it sends when
    nothing fails. -/
theorem processPacket_sends_prefix_first_send_fails :
    ∃ msgs r n, (processPacket (hostBehind ⟨switchA, 7⟩) frameSD ⟨switchA, 3⟩).run
        ⟨Env.lossless, [], 0⟩ = .ok r ⟨Env.lossless, [] ++ msgs, n⟩ ∧
      ∃ k n', after ((processPacket (hostBehind ⟨switchA, 7⟩) frameSD ⟨switchA, 3⟩).run
        ⟨firstSendFails, [], 0⟩) = ⟨firstSendFails, [] ++ msgs.take k, n'⟩ :=
  processPacket_sends_prefix _ _ _ ⟨firstSendFails, [], 0⟩ Env.lossless_reliable rfl

end Cherry.L2Switch
