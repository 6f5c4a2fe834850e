import Cherry.OF10
import Cherry.Effects
import Cherry.Device.Pool
import Mathlib.Logic.Function.Basic

/-!
# The device manager and its message handlers

**`device.Manager`: one session with a switch, and what each inbound message does to it.**

A `Manager` stands for one TCP session.  `Run` hands its handlers to the OpenFlow
transceiver, which decodes inbound messages and calls the handler of each, one at a time.
The transceiver is not in the source: here a handler runs in `Handler`, an `EStateM` over
the `Session`, that is the manager's fields, the device pool, and every frame handed to the
transceiver's `Send*` methods (`Session.out`).  Whether a write fails is the environment's
answer `Session.send`, indexed by the number of frames written before it, so every pattern
of failures is a `Session`.  A failed write keeps the frame in `out`: it was attempted.

Handlers run only inside the transceiver's `Run`, where `r.openflow` is set, so the `nil`
checks of `InstallFlowRule`, `RemoveFlowRule` and `SendPacketOut` cannot fire there and are
left out.  The
logger is left out; a Go `if err != nil { log }` is `logged`, which drops the error.  The
test block of `handleFeaturesReplyMessage` parses constant addresses, so its `panic`
branches cannot be taken and are left out too.
-/

namespace Cherry.Device

open Cherry.OF10

/-! ## 1. The manager and its session -/

/-- The record `device.Manager`, with the fields the handlers set: the datapath id, the
    auxiliary id, the switch's buffers, tables, capabilities and actions, and its ports by
    number. -/
structure Manager where
  DPID : UInt64
  AuxID : UInt8
  NumBuffers : UInt32
  NumTables : UInt8
  Capabilities : Option Capability
  Actions : Option Action
  Ports : UInt16 → Option Port

/-- The constructor `NewManager`: every field zero or `nil`, and no port. -/
def newManager : Manager where
  DPID := 0
  AuxID := 0
  NumBuffers := 0
  NumTables := 0
  Capabilities := none
  Actions := none
  Ports := fun _ => none

/-- What the handlers of one session see: the session's manager as the pool stores it
    (`self`, the pointer `r`), the environment's answer to each write, the manager, the
    pool, and the frames handed to the transceiver so far. -/
structure Session where
  self : Nat
  send : Nat → Option String
  mgr : Manager
  pool : Pool Nat
  out : List Outbound

/-- A handler: it returns `nil` or an error, and keeps what it wrote either way. -/
abbrev Handler := EStateM String Session

/-- A write of the transceiver (its `Send*` methods): the frame is handed over, then the
    write may fail. -/
def send (m : Outbound) : Handler Unit := fun s =>
  let s' := { s with out := s.out ++ [m] }
  match s.send s.out.length with
  | some e => .error e s'
  | none => .ok () s'

/-- Go's `if err := f(); err != nil { log }`: the error is logged and dropped. -/
def logged (x : Handler Unit) : Handler Unit := tryCatch x fun _ => pure ()

/-- Frames written one after another; the first failed write ends the loop with its
    error. -/
def sendEach : List Outbound → Handler Unit
  | [] => pure ()
  | m :: ms => do
    send m
    sendEach ms

/-! ## 2. The handlers -/

structure FlowRule where
  Match : FlowMatch
  Actions : List FlowAction
  IdleTimeout : UInt16
  HardTimeout : UInt16

def flowRuleMod (flow : FlowRule) : FlowModifyMessage where
  flowMatch := flow.Match
  command := .add
  idleTimeout := flow.IdleTimeout
  hardTimeout := flow.HardTimeout
  flags := { sendFlowRemoved := true, checkOverlap := true }
  actions := flow.Actions

def installFlowRule (flow : FlowRule) : Handler Unit :=
  send (.flowMod (flowRuleMod flow))

/-- The method `Manager.RemoveFlowRule`: a DELETE of the rules `flowMatch` selects.  No
    handler calls it; the call in the test block is commented out. -/
def removeFlowRule (flowMatch : FlowMatch) : Handler Unit :=
  send (.flowMod { flowMatch, command := .delete })

def sendPacketOut (inPort : UInt16) (actions : List FlowAction) (packet : List UInt8) :
    Handler Unit :=
  send (.packetOut inPort actions packet)

/-- The rule of the test block of `handleFeaturesReplyMessage`: TCP from
    `223.130.120.0/24` port 80 to `223.130.122.0/24` port 110, in on port 39, out on ports
    40, 41 and 42. -/
def testRule : FlowRule where
  Match :=
    { etherType := some 0x0800, inPort := some 39, protocol := some 0x06,
      srcIP := some ⟨[223, 130, 120, 0], [255, 255, 255, 0]⟩,
      dstIP := some ⟨[223, 130, 122, 0], [255, 255, 255, 0]⟩,
      srcMAC := some [0x00, 0x01, 0x02, 0x03, 0x04, 0x05],
      dstMAC := some [0x05, 0x04, 0x03, 0x02, 0x01, 0x00],
      srcPort := some 80, dstPort := some 110, vlanID := some 1, vlanPriority := some 1,
      tos := some 32 }
  Actions := [.output 40, .output 41, .output 42]
  IdleTimeout := 30
  HardTimeout := 0

/-- The loop `for _, v := range msg.Ports { r.Ports[v.Number] = v }`. -/
def storePorts (ports : UInt16 → Option Port) : List Port → UInt16 → Option Port
  | [] => ports
  | v :: vs => storePorts (Function.update ports v.number (some v)) vs

def hexUpper (n : Nat) : String := String.mk ((Nat.toDigits 16 n).map Char.toUpper)

/-- The method `Manager.handleHelloMessage`: OpenFlow 1.0 and later are accepted. -/
def handleHelloMessage (version : UInt8) : Handler Unit :=
  if version < 0x01 then
    throw ("unsupported OpenFlow protocol version: 0x" ++ hexUpper version.toNat)
  else pure ()

/-- The method `Manager.handleFeaturesReplyMessage`.  It disables STP on every listed port,
    asks for a barrier, stores the features, registers the session in the pool, and then
    runs the source's test block. -/
def handleFeaturesReplyMessage (msg : FeaturesReplyMessage) : Handler Unit := do
  sendEach (msg.Ports.map fun v =>
    .portMod v.number v.mac (v.config ||| OFPPC_NO_STP) v.advertised)
  send .barrierRequest
  modify fun s => { s with mgr := { s.mgr with
    DPID := msg.DPID, NumBuffers := msg.NumBuffers, NumTables := msg.NumTables,
    Capabilities := some msg.getCapability, Actions := some msg.getSupportedAction,
    Ports := storePorts s.mgr.Ports msg.Ports } }
  modify fun s => { s with pool := s.pool.add s.mgr.DPID s.mgr.AuxID s.self }
  logged (installFlowRule testRule)
  logged (send (.flowStatsRequest newFlowMatch))
  logged (send .getConfigRequest)

/-- The method `Manager.handlePortStatusMessage`: the port's entry is replaced. -/
def handlePortStatusMessage (target : Port) : Handler Unit :=
  modify fun s => { s with mgr := { s.mgr with
    Ports := Function.update s.mgr.Ports target.number (some target) } }

/-- The method `Manager.handlePacketInMessage`: the packet is flooded back out of the
    switch. -/
def handlePacketInMessage (inPort : UInt16) (data : List UInt8) : Handler Unit :=
  logged (sendPacketOut inPort [.output OFPP_FLOOD] data)

/-- The method `Manager.handleBarrierReplyMessage`: the reply is only printed. -/
def handleBarrierReplyMessage : Handler Unit := pure ()

/-- An inbound message as the transceiver hands it over, with the fields its handler
    reads. -/
inductive Inbound where
  | hello (version : UInt8)
  | error
  | featuresReply (msg : FeaturesReplyMessage)
  | echoRequest
  | echoReply
  | portStatus (target : Port)
  | packetIn (inPort : UInt16) (data : List UInt8)
  | flowRemoved
  | descStatsReply
  | flowStatsReply
  | getConfigReply
  | barrierReply

/-- The handler table `Run` gives the transceiver.  The handlers of ERROR, the echoes,
    FLOW_REMOVED and the stats and config replies only print the message. -/
def handle : Inbound → Handler Unit
  | .hello version => handleHelloMessage version
  | .featuresReply msg => handleFeaturesReplyMessage msg
  | .portStatus target => handlePortStatusMessage target
  | .packetIn inPort data => handlePacketInMessage inPort data
  | .barrierReply => handleBarrierReplyMessage
  | .error | .echoRequest | .echoReply | .flowRemoved | .descStatsReply | .flowStatsReply
  | .getConfigReply => pure ()

/-- Modelled, not in the source: the transceiver's serial dispatch of inbound messages to
    the handlers `Run` registers.  A handler's error is dropped and the dispatch goes on,
    where spec 7 ends the session on a protocol violation; a transceiver that stops at an
    error dispatches a prefix of the messages, which is a dispatch of its own. -/
def dispatch : List Inbound → Handler Unit
  | [] => pure ()
  | m :: msgs => do
    logged (handle m)
    dispatch msgs

/-! ## 3. Running a handler -/

section Run

variable (s : Session)

@[simp] theorem run_send (m : Outbound) :
    (send m).run s = match s.send s.out.length with
      | some e => .error e { s with out := s.out ++ [m] }
      | none => .ok () { s with out := s.out ++ [m] } := rfl

@[simp] theorem run_modify (f : Session → Session) :
    (modify f : Handler Unit).run s = .ok () (f s) := rfl

/-- A logged call returns, whatever it did. -/
@[simp] theorem run_logged (x : Handler Unit) :
    (logged x).run s = match x.run s with
      | .ok _ s' => .ok () s'
      | .error _ s' => .ok () s' := by
  simp only [logged, run_tryCatch, run_pure]
  cases x.run s <;> rfl

theorem run_logged_send (m : Outbound) :
    (logged (send m)).run s = .ok () { s with out := s.out ++ [m] } := by
  cases h : s.send s.out.length <;> simp [h]

end Run

/-- Frames written one after another: either every write succeeds and all are written, or
    the `k`-th is the first to fail, and the loop returns its error having written the
    frames up to it. -/
theorem sendEach_run (ms : List Outbound) (s : Session) :
    ((∀ j < ms.length, s.send (s.out.length + j) = none) ∧
      (sendEach ms).run s = .ok () { s with out := s.out ++ ms }) ∨
    ∃ k < ms.length, ∃ e, (∀ j < k, s.send (s.out.length + j) = none) ∧
      s.send (s.out.length + k) = some e ∧
      (sendEach ms).run s = .error e { s with out := s.out ++ ms.take (k + 1) } := by
  induction ms generalizing s with
  | nil => simp [sendEach]
  | cons m ms ih =>
    rcases hm : s.send s.out.length with _ | e
    case some => exact .inr ⟨0, by simp, e, by simp, hm, by simp [sendEach, hm]⟩
    have hrest : (sendEach (m :: ms)).run s = (sendEach ms).run { s with out := s.out ++ [m] } := by
      simp [sendEach, hm]
    have hlen : ∀ j, (s.out ++ [m]).length + j = s.out.length + (j + 1) := fun j => by
      simp only [List.length_append, List.length_singleton]; omega
    rcases ih { s with out := s.out ++ [m] } with ⟨hok, hrun⟩ | ⟨k, hk, e, hpre, he, hrun⟩
    · refine .inl ⟨fun j hj => ?_, by simpa [hrest] using hrun⟩
      cases j with
      | zero => exact hm
      | succ j => rw [← hlen]; exact hok j (by simpa using hj)
    · refine .inr ⟨k + 1, by simpa using hk, e, fun j hj => ?_, by rw [← hlen]; exact he,
        by simpa [hrest] using hrun⟩
      cases j with
      | zero => exact hm
      | succ j => rw [← hlen]; exact hpre j (by omega)

/-- A write after a loop of writes is one more turn of the loop. -/
theorem sendEach_append_send {α : Type} (ms : List Outbound) (m : Outbound) (k : Handler α) :
    (do sendEach ms; send m; k) = (do sendEach (ms ++ [m]); k) := by
  induction ms with
  | nil => simp [sendEach]
  | cons m' ms ih => simp [sendEach, ih]

/-- The dispatch hands the session each handler leaves, returned or failed, to the next. -/
theorem run_dispatch_cons (m : Inbound) (msgs : List Inbound) (s : Session) :
    (dispatch (m :: msgs)).run s = (dispatch msgs).run (after ((handle m).run s)) := by
  simp only [dispatch, run_bind, run_logged]
  cases (handle m).run s <;> rfl

/-- After the loop, a listed port number maps to the last listed port with that number, and
    every other number keeps its entry. -/
theorem storePorts_eq (ports : UInt16 → Option Port) (vs : List Port) :
    storePorts ports vs = fun n => (vs.filter (·.number = n)).getLast?.or (ports n) := by
  induction vs generalizing ports with
  | nil => rfl
  | cons v vs ih =>
    funext n
    rw [storePorts, ih]
    dsimp only
    by_cases hv : v.number = n
    · subst hv
      rw [Function.update_same, List.filter_cons_of_pos (by simp), List.getLast?_cons]
      cases (vs.filter (·.number = v.number)).getLast? <;> rfl
    · simp [Function.update_noteq (Ne.symm hv), hv]

/-! ## 4. FEATURES_REPLY -/

/-- FEATURES_REPLY handling is its burst, then the rest: once the PORT_MOD burst and the
    BARRIER_REQUEST are written, the handler stores the features, registers the session,
    writes the test block's three frames and returns `nil`, whatever those writes do; a
    failed burst is returned as it is. -/
theorem handleFeaturesReplyMessage_run (msg : FeaturesReplyMessage) (s : Session) :
    (handleFeaturesReplyMessage msg).run s =
      match (sendEach ((msg.Ports.map fun v =>
          Outbound.portMod v.number v.mac (v.config ||| OFPPC_NO_STP) v.advertised) ++
          [.barrierRequest])).run s with
      | .ok _ s₁ => .ok () { s₁ with
          mgr := { s₁.mgr with
            DPID := msg.DPID, NumBuffers := msg.NumBuffers, NumTables := msg.NumTables,
            Capabilities := some msg.getCapability, Actions := some msg.getSupportedAction,
            Ports := storePorts s₁.mgr.Ports msg.Ports }
          pool := s₁.pool.add msg.DPID s₁.mgr.AuxID s₁.self
          out := s₁.out ++ [.flowMod (flowRuleMod testRule), .flowStatsRequest newFlowMatch,
            .getConfigRequest] }
      | .error e s₁ => .error e s₁ := by
  simp only [handleFeaturesReplyMessage, sendEach_append_send, run_bind]
  cases (sendEach _).run s <;> simp [installFlowRule, run_logged_send, -run_logged]

/-- FEATURES_REPLY handling either completes or leaves the state as it was.  When every
    write of the PORT_MOD burst and of the BARRIER_REQUEST succeeds, the handler returns
    `nil`, having written them in the message's port order and then the test block's three
    frames; it has stored the features, mapped each listed port number to the last listed
    port with that number, and registered the session at `(DPID, AuxID)`.  Otherwise it
    returns the error of the first failed write, having written the burst up to that write,
    with the manager and the pool as they were. -/
theorem handleFeaturesReplyMessage_completes_or_keeps (msg : FeaturesReplyMessage)
    (s : Session) :
    let burst := (msg.Ports.map fun v =>
      Outbound.portMod v.number v.mac (v.config ||| OFPPC_NO_STP) v.advertised) ++
      [.barrierRequest]
    ((∀ j < burst.length, s.send (s.out.length + j) = none) ∧
      (handleFeaturesReplyMessage msg).run s = .ok () { s with
        mgr := { s.mgr with
          DPID := msg.DPID, NumBuffers := msg.NumBuffers, NumTables := msg.NumTables,
          Capabilities := some msg.getCapability, Actions := some msg.getSupportedAction,
          Ports := fun n => (msg.Ports.filter (·.number = n)).getLast?.or (s.mgr.Ports n) }
        pool := s.pool.add msg.DPID s.mgr.AuxID s.self
        out := s.out ++ burst ++ [.flowMod (flowRuleMod testRule),
          .flowStatsRequest newFlowMatch, .getConfigRequest] }) ∨
    ∃ k < burst.length, ∃ e, (∀ j < k, s.send (s.out.length + j) = none) ∧
      s.send (s.out.length + k) = some e ∧
      (handleFeaturesReplyMessage msg).run s =
        .error e { s with out := s.out ++ burst.take (k + 1) } := by
  intro burst
  rw [handleFeaturesReplyMessage_run]
  rcases sendEach_run burst s with ⟨hok, hrun⟩ | ⟨k, hk, e, hpre, he, hrun⟩
  · exact .inl ⟨hok, by simp [hrun, storePorts_eq, burst]⟩
  · exact .inr ⟨k, hk, e, hpre, he, by rw [hrun]⟩

/-! ## 5. HELLO -/

/-- A HELLO leaves the session as it is, whether it is refused or accepted. -/
theorem after_handleHelloMessage (version : UInt8) (s : Session) :
    after ((handleHelloMessage version).run s) = s := by
  unfold handleHelloMessage
  split <;> rfl

/-! ## 6. The port table over a session

`Ports` is written by two handlers: FEATURES_REPLY stores each listed port once its burst is
written, and PORT_STATUS stores its port.  Neither reads anything else of the message, so
a port a PORT_STATUS reports as deleted is stored like any other. -/

/-- The ports a message reports: a FEATURES_REPLY's list and a PORT_STATUS's port. -/
def reportedPorts : Inbound → List Port
  | .featuresReply msg => msg.Ports
  | .portStatus target => [target]
  | _ => []

/-- The port table in which each port number maps to the last report with that number, and
    every number with no report keeps its entry of `ports`. -/
def lastReported (ports : UInt16 → Option Port) (reports : List Port) : UInt16 → Option Port :=
  fun n => (reports.filter (·.number = n)).getLast?.or (ports n)

@[simp] theorem lastReported_nil (ports : UInt16 → Option Port) :
    lastReported ports [] = ports := rfl

theorem lastReported_append (ports : UInt16 → Option Port) (l l' : List Port) :
    lastReported (lastReported ports l) l' = lastReported ports (l ++ l') := by
  funext n
  simp only [lastReported, List.filter_append, List.getLast?_append, Option.or_assoc]

/-- With every write succeeding, one handler leaves the writes' answers as they were and
    stores the ports its message reports. -/
theorem handle_ports (m : Inbound) {s : Session} (hs : ∀ n, s.send n = none) :
    (after ((handle m).run s)).send = s.send ∧
      (after ((handle m).run s)).mgr.Ports = lastReported s.mgr.Ports (reportedPorts m) := by
  generalize hs' : after ((handle m).run s) = s'
  cases m with
  | hello version =>
    obtain rfl := (after_handleHelloMessage version s).symm.trans hs'
    exact ⟨rfl, rfl⟩
  | featuresReply msg =>
    simp only [handle, handleFeaturesReplyMessage_run] at hs'
    rcases sendEach_run _ s with ⟨-, hrun⟩ | ⟨k, -, e, -, he, -⟩
    · rw [hrun] at hs'
      subst hs'
      exact ⟨rfl, storePorts_eq _ _⟩
    · simp [hs] at he
  | portStatus target =>
    subst hs'
    refine ⟨rfl, funext fun n => ?_⟩
    by_cases hn : target.number = n
    · subst hn
      simp [handle, handlePortStatusMessage, after, lastReported, reportedPorts]
    · simp [handle, handlePortStatusMessage, after, lastReported, reportedPorts, hn, Ne.symm hn]
  | packetIn inPort data =>
    simp only [handle, handlePacketInMessage, sendPacketOut, run_logged_send] at hs'
    subst hs'
    exact ⟨rfl, rfl⟩
  | _ => subst hs'; exact ⟨rfl, rfl⟩

/-- With every write succeeding, after any sequence of inbound messages the port table maps
    each port number to the last port with that number that a FEATURES_REPLY or a
    PORT_STATUS reported, in the order the messages came, and every number none of them
    reported keeps its entry. -/
theorem dispatch_ports (msgs : List Inbound) {s : Session} (hs : ∀ n, s.send n = none) :
    ∃ s', (dispatch msgs).run s = .ok () s' ∧
      s'.mgr.Ports = lastReported s.mgr.Ports (msgs.flatMap reportedPorts) := by
  induction msgs generalizing s with
  | nil => exact ⟨s, rfl, rfl⟩
  | cons m msgs ih =>
    obtain ⟨hsend, hports⟩ := handle_ports m hs
    obtain ⟨s', hrun, hs'⟩ := ih (s := after ((handle m).run s)) (hsend ▸ hs)
    refine ⟨s', by rw [run_dispatch_cons, hrun], ?_⟩
    rw [hs', hports, lastReported_append, List.flatMap_cons]

/-- A switch with port 1 sends its FEATURES_REPLY, then a PORT_STATUS for port 1 with
    another configuration, to a session whose writes all succeed. -/
theorem dispatch_ports_port1_changed :
    ∃ s', (dispatch [.featuresReply ⟨1, 256, 1, 0x05, 0x01, [⟨1, [0, 0, 0, 0, 0, 1], 0, 0⟩]⟩,
        .portStatus ⟨1, [0, 0, 0, 0, 0, 1], 1, 0⟩]).run
        ⟨0, fun _ => none, newManager, .empty, []⟩ = .ok () s' ∧
      s'.mgr.Ports = lastReported newManager.Ports
        [⟨1, [0, 0, 0, 0, 0, 1], 0, 0⟩, ⟨1, [0, 0, 0, 0, 0, 1], 1, 0⟩] :=
  dispatch_ports _ fun _ => rfl

end Cherry.Device
