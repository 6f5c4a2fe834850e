import Cherry.Openflow
import Cherry.Effects

/-!
# The network package and the controller's effects

**What the L2 switching policy sees of the network, and what it does to it.**

The `network` package is not in the source; the policy reaches it through
`network.Finder` (`Devices`, `Node`, `Path`, `IsEdge`) and through three methods of its
objects (`Device.Port`, `Port.Nodes`, `Device.SendMessage`).  A `Finder` here is one
snapshot of the topology: the answers of those calls, as functions.  `Path` returns a slice
of `[2]*network.Port` hops; the policy tests `path == nil || len(path) == 0`, so `nil` and
the empty slice are both the empty list.

The policy's Go functions return `error` and keep what they already sent when they fail.
They run in `Ctl`, an `EStateM` over the messages sent so far (`Net.sent`) and the number
of factory calls made (`Net.calls`), so an error keeps the state.  Every call that can fail
consults `Env`, which stands for the code outside the model: the factory
(`openflow.Factory`), `Device.SendMessage`, and the frame encoder
`protocol.Ethernet.MarshalBinary`.  The `n`-th factory call of a run and the `n`-th send
each get their own answer, so every pattern of failures along a run is an `Env`.
-/

namespace Cherry.Network

open Cherry.OF10 (MAC)
open Cherry.Openflow

/-! ## 1. Devices, ports, nodes and the finder -/

/-- A switch (`network.Device`): its datapath id (`ID`) and the table its forwarding rules
    go to (`FlowTableID`). -/
structure Device where
  id : UInt64
  flowTableID : UInt8
deriving DecidableEq, Repr

/-- A switch port (`network.Port`): its device (`Device`) and its number (`Number`). -/
structure Port where
  device : Device
  number : UInt32
deriving DecidableEq, Repr

/-- A learned host (`network.Node`): its MAC and the port it was last seen behind. -/
structure Node where
  mac : MAC
  port : Port
deriving DecidableEq, Repr

/-- A snapshot of the topology, as `network.Finder` and the objects' methods answer. -/
structure Finder where
  /-- `Finder.Devices`: the registered switches. -/
  devices : List Device
  /-- `Finder.Node`: where a MAC was last seen, `nil` if unknown. -/
  node : MAC → Option Node
  /-- `Finder.Path`: the hops `(exit port, entry port)` between two switches. -/
  path : UInt64 → UInt64 → List (Port × Port)
  /-- `Finder.IsEdge`: the port terminates an inter-switch link. -/
  isEdge : Port → Bool
  /-- `Port.Nodes`: the hosts learned behind a port. -/
  nodes : Port → List Node
  /-- `Device.Port`: a switch's port by number, `nil` if unknown. -/
  port : Device → UInt32 → Option Port

structure Ethernet where
  srcMAC : MAC
  dstMAC : MAC
  type : UInt16
  payload : List UInt8
deriving DecidableEq, Repr

/-! ## 2. The environment and the effect monad -/

inductive FactoryCall where
  | newMatch
  | newAction
  | newInstruction
  | newFlowMod (cmd : FlowModCmd)
  | newPacketOut
deriving DecidableEq, Repr

/-- The code outside the model: what the factory, a send, and the frame encoder answer.
    `factory c n` is the error of the factory call made after `n` others, and `send n` that
    of the send made after `n` messages were sent; `none` when the call succeeds. -/
structure Env where
  factory : FactoryCall → Nat → Option String
  send : Nat → Option String
  marshalBinary : Ethernet → Except String (List UInt8)

structure Env.Reliable (env : Env) : Prop where
  factory : ∀ c n, env.factory c n = none
  send : ∀ n, env.send n = none

/-- An environment in which every call succeeds and the encoder writes out the payload. -/
def Env.lossless : Env where
  factory := fun _ _ => none
  send := fun _ => none
  marshalBinary := fun eth => .ok eth.payload

theorem Env.lossless_reliable : Env.lossless.Reliable := ⟨fun _ _ => rfl, fun _ => rfl⟩

/-- The controller's state: its environment, every message handed to `Device.SendMessage`
    so far with the device it went to, whether or not it failed, and the number of factory
    calls made. -/
structure Net where
  env : Env
  sent : List (Device × Outgoing)
  calls : Nat

/-- A Go function of the policy: it returns a value or an error, and keeps its sends. -/
abbrev Ctl := EStateM String Net

/-- A factory call: the fresh object `x`, or the error the factory answers. -/
def factoryCall {α : Type} (c : FactoryCall) (x : α) : Ctl α := fun s =>
  let s' := { s with calls := s.calls + 1 }
  match s.env.factory c s.calls with
  | some e => .error e s'
  | none => .ok x s'

/-- The factory's `NewMatch`: the all-wildcard match. -/
def newMatch : Ctl Match := factoryCall .newMatch {}

def newAction : Ctl Action := factoryCall .newAction {}
def newInstruction : Ctl Instruction := factoryCall .newInstruction {}

/-- The factory's `NewFlowMod`: cookie and cookie mask `0`. -/
def newFlowMod (cmd : FlowModCmd) : Ctl FlowMod := factoryCall (.newFlowMod cmd) { command := cmd }

def newPacketOut : Ctl PacketOut := factoryCall .newPacketOut {}

/-- The method `Device.SendMessage`: the message is handed over, then the send may fail. -/
def Device.sendMessage (d : Device) (m : Outgoing) : Ctl Unit := fun s =>
  let s' := { s with sent := s.sent ++ [(d, m)] }
  match s.env.send s.sent.length with
  | some e => .error e s'
  | none => .ok () s'

/-- The error a call returns, `nil` as `none` (Go's `err := f()`). -/
def errorOf (x : Ctl Unit) : Ctl (Option String) :=
  tryCatch (do x; pure none) fun e => pure (some e)

/-! ## 3. Running `Ctl` -/

section RunCtl

variable {α : Type} (s : Net)

@[simp] theorem run_factoryCall (c : FactoryCall) (x : α) :
    (factoryCall c x).run s = match s.env.factory c s.calls with
      | some e => .error e ⟨s.env, s.sent, s.calls + 1⟩
      | none => .ok x ⟨s.env, s.sent, s.calls + 1⟩ := rfl

@[simp] theorem run_sendMessage (d : Device) (m : Outgoing) :
    (d.sendMessage m).run s = match s.env.send s.sent.length with
      | some e => .error e ⟨s.env, s.sent ++ [(d, m)], s.calls⟩
      | none => .ok () ⟨s.env, s.sent ++ [(d, m)], s.calls⟩ := rfl

@[simp] theorem run_errorOf (x : Ctl Unit) :
    (errorOf x).run s = match x.run s with
      | .ok _ s' => .ok none s'
      | .error e s' => .ok (some e) s' := by
  simp only [errorOf, run_tryCatch, run_bind, run_pure]
  cases x.run s <;> rfl

end RunCtl

/-! ## 4. What a call may send, whatever happens

`SendsOnly P x`: whatever the environment, a run of `x`, whether it returns or fails, keeps
its environment and sends only messages satisfying `P`.  It says what the code never sends,
over every run; how many factory calls a run makes is left free. -/

/-- Every run of `x` keeps the environment and sends only messages satisfying `P`. -/
def SendsOnly {α : Type} (P : Device × Outgoing → Prop) (x : Ctl α) : Prop :=
  ∀ s, ∃ msgs n, after (x.run s) = ⟨s.env, s.sent ++ msgs, n⟩ ∧ ∀ m ∈ msgs, P m

namespace SendsOnly

variable {α β : Type} {P : Device × Outgoing → Prop}

theorem pure' (a : α) : SendsOnly P (pure a) := fun s => ⟨[], s.calls, by simp [after], by simp⟩

theorem bind {x : Ctl α} {f : α → Ctl β} (hx : SendsOnly P x) (hf : ∀ a, SendsOnly P (f a)) :
    SendsOnly P (x >>= f) := by
  intro s
  obtain ⟨m₁, n₁, h₁, hP₁⟩ := hx s
  rw [run_bind]
  cases hxs : x.run s with
  | ok a s₁ =>
    obtain rfl : s₁ = _ := by simpa [hxs, after] using h₁
    obtain ⟨m₂, n₂, h₂, hP₂⟩ := hf a ⟨s.env, s.sent ++ m₁, n₁⟩
    exact ⟨m₁ ++ m₂, n₂, by simpa using h₂, List.forall_mem_append.2 ⟨hP₁, hP₂⟩⟩
  | error e s₁ => exact ⟨m₁, n₁, by simpa [hxs, after] using h₁, hP₁⟩

/-- A factory call either fails, sending nothing, or hands its fresh object on. -/
theorem factoryCall_bind {c : FactoryCall} {x : α} {f : α → Ctl β} (hf : SendsOnly P (f x)) :
    SendsOnly P (factoryCall c x >>= f) := by
  intro s
  rw [run_bind, run_factoryCall]
  cases s.env.factory c s.calls with
  | some e => exact ⟨[], s.calls + 1, by simp [after], by simp⟩
  | none => exact hf _

theorem sendMessage {d : Device} {m : Outgoing} (h : P (d, m)) :
    SendsOnly P (d.sendMessage m) := by
  intro s
  refine ⟨[(d, m)], s.calls, ?_, by simpa using h⟩
  rw [run_sendMessage]
  split <;> rfl

/-- Go's `if err := x(); err != nil { h(err) }`: what `x` sent, then what the handler sent. -/
theorem tryCatch {x : Ctl α} {h : String → Ctl α} (hx : SendsOnly P x)
    (hh : ∀ e, SendsOnly P (h e)) : SendsOnly P (tryCatch x h) := by
  intro s
  obtain ⟨m₁, n₁, h₁, hP₁⟩ := hx s
  rw [run_tryCatch]
  cases hxs : x.run s with
  | ok a s₁ => exact ⟨m₁, n₁, by simpa [hxs, after] using h₁, hP₁⟩
  | error e s₁ =>
    obtain rfl : s₁ = _ := by simpa [hxs, after] using h₁
    obtain ⟨m₂, n₂, h₂, hP₂⟩ := hh e ⟨s.env, s.sent ++ m₁, n₁⟩
    exact ⟨m₁ ++ m₂, n₂, by simpa using h₂, List.forall_mem_append.2 ⟨hP₁, hP₂⟩⟩

theorem errorOf {x : Ctl Unit} (hx : SendsOnly P x) : SendsOnly P (errorOf x) :=
  .tryCatch (.bind hx fun _ => .pure' _) fun _ => .pure' _

theorem mono {Q : Device × Outgoing → Prop} {x : Ctl α} (hx : SendsOnly P x)
    (h : ∀ m, P m → Q m) : SendsOnly Q x := fun s =>
  (hx s).imp fun _ ⟨n, hs, hP⟩ => ⟨n, hs, fun m hm => h m (hP m hm)⟩

end SendsOnly

/-! ## 5. Calls that stop at their first failure

`FailStop x a msgs`: a run of `x` returns `a` having sent all of `msgs`, or, and then some
call of the environment has failed, returns an error having sent the first `k` of them.  So
under a reliable environment it returns, under any other it has sent a prefix of what it
sends then, and whenever it returns it has sent all of `msgs`. -/

/-- `x` returns `a` having sent `msgs`, or fails, in an unreliable environment, having sent a
    prefix of `msgs`. -/
def FailStop {α : Type} (x : Ctl α) (a : α) (msgs : List (Device × Outgoing)) : Prop :=
  ∀ s, (∃ n, x.run s = .ok a ⟨s.env, s.sent ++ msgs, n⟩) ∨
    ¬ s.env.Reliable ∧ ∃ e, ∃ k ≤ msgs.length, ∃ n,
      x.run s = .error e ⟨s.env, s.sent ++ msgs.take k, n⟩

namespace FailStop

variable {α β : Type}

theorem pure' (a : α) : FailStop (pure a) a [] := fun s => .inl ⟨s.calls, by simp⟩

theorem bind {x : Ctl α} {f : α → Ctl β} {a : α} {b : β} {m₁ m₂ : List (Device × Outgoing)}
    (hx : FailStop x a m₁) (hf : FailStop (f a) b m₂) : FailStop (x >>= f) b (m₁ ++ m₂) := by
  intro s
  rw [run_bind]
  rcases hx s with ⟨n₁, hx⟩ | ⟨hnr, e, k, hk, n₁, hx⟩ <;> rw [hx]
  · rcases hf ⟨s.env, s.sent ++ m₁, n₁⟩ with ⟨n₂, hf⟩ | ⟨hnr, e, k, hk, n₂, hf⟩
    · exact .inl ⟨n₂, by simpa using hf⟩
    · refine .inr ⟨hnr, e, m₁.length + k, by simp; omega, n₂, ?_⟩
      simpa [List.take_append] using hf
  · exact .inr ⟨hnr, e, k, by simp; omega, n₁, by simp [List.take_append_of_le_length hk]⟩

theorem factoryCall (c : FactoryCall) (x : α) : FailStop (factoryCall c x) x [] := by
  intro s
  rw [run_factoryCall]
  cases h : s.env.factory c s.calls with
  | none => exact .inl ⟨s.calls + 1, by simp⟩
  | some e => exact .inr ⟨fun hr => by simp [hr.factory] at h, e, 0, le_rfl, s.calls + 1, by simp⟩

theorem sendMessage (d : Device) (m : Outgoing) : FailStop (d.sendMessage m) () [(d, m)] := by
  intro s
  rw [run_sendMessage]
  cases h : s.env.send s.sent.length with
  | none => exact .inl ⟨_, rfl⟩
  | some e => exact .inr ⟨fun hr => by simp [hr.send] at h, e, 1, le_rfl, _, rfl⟩

theorem congr {x : Ctl α} {a : α} {m m' : List (Device × Outgoing)} (h : FailStop x a m)
    (hm : m = m') : FailStop x a m' :=
  hm ▸ h

/-- In a reliable environment a fail-stop call returns, having sent everything. -/
theorem run_of_reliable {x : Ctl α} {a : α} {msgs : List (Device × Outgoing)}
    (h : FailStop x a msgs) {s : Net} (hr : s.env.Reliable) :
    ∃ n, x.run s = .ok a ⟨s.env, s.sent ++ msgs, n⟩ :=
  (h s).resolve_right fun h => h.1 hr

/-- Whatever the environment, a fail-stop call that returns has returned `a`, having sent
    everything. -/
theorem eq_of_ok {x : Ctl α} {a b : α} {msgs : List (Device × Outgoing)} (h : FailStop x a msgs)
    {s s' : Net} (hok : x.run s = .ok b s') : b = a ∧ ∃ n, s' = ⟨s.env, s.sent ++ msgs, n⟩ := by
  rcases h s with ⟨n, h⟩ | ⟨-, e, k, -, n, h⟩ <;> rw [h] at hok <;> cases hok
  exact ⟨rfl, n, rfl⟩

/-- Whatever the environment, a run has sent a prefix of the messages. -/
theorem after_take {x : Ctl α} {a : α} {msgs : List (Device × Outgoing)} (h : FailStop x a msgs)
    (s : Net) : ∃ k n, after (x.run s) = ⟨s.env, s.sent ++ msgs.take k, n⟩ := by
  rcases h s with ⟨n, h⟩ | ⟨-, e, k, -, n, h⟩ <;> rw [h]
  · exact ⟨msgs.length, n, by simp [after]⟩
  · exact ⟨k, n, rfl⟩

/-- A fail-stop call whose error is caught, followed by a result that calls nothing.  With
    a reliable environment the call returns, having sent all its messages; with any other
    it has sent a prefix of them. -/
theorem caught {x : Ctl Unit} (hx : ∃ msgs, FailStop x () msgs)
    {f : Option String → Ctl β} (hf : ∀ o s, ∃ b, (f o).run s = .ok b s) (s : Net) {env : Env}
    (hr : env.Reliable) :
    ∃ msgs b n, (errorOf x >>= f).run ⟨env, s.sent, s.calls⟩ = .ok b ⟨env, s.sent ++ msgs, n⟩ ∧
      ∃ k n', after ((errorOf x >>= f).run s) = ⟨s.env, s.sent ++ msgs.take k, n'⟩ := by
  obtain ⟨msgs, hx⟩ := hx
  obtain ⟨n, hn⟩ := hx.run_of_reliable (s := ⟨env, s.sent, s.calls⟩) hr
  obtain ⟨b, hb⟩ := hf none ⟨env, s.sent ++ msgs, n⟩
  refine ⟨msgs, b, n, by simp [hn, hb], ?_⟩
  simp only [run_bind, run_errorOf]
  rcases hx s with ⟨n, hx⟩ | ⟨-, e, k, -, n, hx⟩ <;> rw [hx] <;> dsimp only
  · obtain ⟨b', hb'⟩ := hf none ⟨s.env, s.sent ++ msgs, n⟩
    exact ⟨msgs.length, n, by simp [hb', after]⟩
  · obtain ⟨b', hb'⟩ := hf (some e) ⟨s.env, s.sent ++ msgs.take k, n⟩
    exact ⟨k, n, by simp [hb', after]⟩

end FailStop

/-! ## 6. A small network

Switches `A` and `B` (datapaths 1 and 2, forwarding in table 0); host `D` is learned behind
a port given as a parameter, and the finder knows no path at all.  A frame from `S` to `D`
enters `A` on port 3.  For the cleanup, `D`'s port is a known port, and it goes down. -/

def switchA : Device := ⟨1, 0⟩
def switchB : Device := ⟨2, 0⟩
def macS : MAC := [0, 0, 0, 0, 0, 1]
def macD : MAC := [0, 0, 0, 0, 0, 2]
def frameSD : Ethernet := { srcMAC := macS, dstMAC := macD, type := 0x0800, payload := [] }

/-- The topology with `D` learned behind `port` and no path between switches. -/
def hostAt (port : Port) : Finder where
  devices := [switchA, switchB]
  node := fun mac => if mac = macD then some ⟨macD, port⟩ else none
  path := fun _ _ => []
  isEdge := fun _ => false
  nodes := fun _ => []
  port := fun _ _ => none

/-- The topology with `D` learned behind `port`, a known port that is not an edge. -/
def hostBehind (port : Port) : Finder :=
  { hostAt port with
    nodes := fun p => if p = port then [⟨macD, port⟩] else []
    port := fun d n => if d = port.device ∧ n = port.number then some port else none }

def edgeAt (port : Port) : Finder := { hostBehind port with isEdge := fun _ => true }

def portDown : PortStatus := ⟨7, true, false⟩
def firstSendFails : Env :=
  { Env.lossless with send := fun n => if n = 0 then some "EOF" else none }

end Cherry.Network
