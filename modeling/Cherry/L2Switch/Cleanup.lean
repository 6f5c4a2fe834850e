import Cherry.L2Switch.Route

/-!
# The L2 switching policy: cleanup on port and link down

**`L2Switch.ProcessEvent` and the DELETEs it sends.**

On a PORT_STATUS reporting a port or its link down, the policy removes forwarding rules:
every rule on every switch when the port is an inter-switch edge (`removeAllFlows`), and
otherwise every rule whose source or destination MAC is a host learned behind the port
(`removeFlowRules`, once per host).  Each DELETE (`removeFlow`) goes to all tables and
carries the cookie mask `1 << 63`, so that the table-miss rules, whose cookie has the most
significant bit set, survive.

The loops of the source are structural recursions here, one per loop: `removeAllFlows` and
`cleanup` log a failure and go on, `removeFlowRules` returns the first failure.  Each has a
run lemma under a reliable environment; `removeAllFlows` has one for every pattern of send
failures as well.

The switches are not part of the controller; they read a non-strict DELETE as OpenFlow
does (`FlowMod.deletes`).  It removes the rules of the named table (`0xFF` is every table)
whose match pins at least the fields the DELETE's match pins, to the same values, and whose
cookie agrees with the DELETE's cookie on the cookie mask.  `afterDeletes` applies the
DELETEs a switch was sent to its rules.
-/

namespace Cherry.L2Switch

open Cherry.OF10 (MAC)
open Cherry.Openflow Cherry.Network

/-! ## 1. The source -/

/-- The DELETE `removeFlow` fills in: every table, sparing table-miss rules. -/
def removeFlowMod (m : Match) : FlowMod :=
  { command := .delete, cookieMask := (0x1 : UInt64) <<< 63, tableID := 0xFF, flowMatch := m }

def removeFlow (d : Device) (m : Match) : Ctl Unit := do
  let flowmod ← newFlowMod .delete
  let flowmod := { flowmod with cookieMask := (0x1 : UInt64) <<< 63, tableID := 0xFF,
                                flowMatch := m }
  d.sendMessage (.flowMod flowmod)

/-- The loop of `removeAllFlows` over the devices: a failure is logged and the loop goes
    on. -/
def removeAllFlowsOn (m : Match) : List Device → Ctl Unit
  | [] => pure ()
  | d :: devices => do
      try removeFlow d m catch _ => pure ()
      removeAllFlowsOn m devices

/-- The method `L2Switch.removeAllFlows`: one wildcard DELETE per device. -/
def removeAllFlows (finder : Finder) : Ctl Unit := do
  let m ← newMatch
  removeAllFlowsOn m finder.devices

/-- The loop of `removeFlowRules` over the devices: on each, the DELETE of the rules from
    `mac`, then the DELETE of the rules to `mac`; the first failure is returned. -/
def removeFlowRulesOn (mac : MAC) : List Device → Ctl Unit
  | [] => pure ()
  | d :: devices => do
      let m ← newMatch
      let m := { m with srcMAC := some mac }
      removeFlow d m
      let m ← newMatch
      let m := { m with dstMAC := some mac }
      removeFlow d m
      removeFlowRulesOn mac devices

def removeFlowRules (finder : Finder) (mac : MAC) : Ctl Unit :=
  removeFlowRulesOn mac finder.devices

/-- The loop of `cleanup` over the nodes behind the port: a failure is logged and the loop
    goes on. -/
def cleanupNodes (finder : Finder) : List Node → Ctl Unit
  | [] => pure ()
  | n :: nodes => do
      try removeFlowRules finder n.mac catch _ => pure ()
      cleanupNodes finder nodes

def cleanup (finder : Finder) (port : Port) : Ctl Unit :=
  if finder.isEdge port then removeAllFlows finder
  else cleanupNodes finder (finder.nodes port)

def processEvent (finder : Finder) (device : Device) (status : PortStatus) : Ctl Unit :=
  if status.isPortDown || status.isLinkDown then
    match finder.port device status.number with
    | none => throw ("failed to find a port " ++ toString status.number ++ " on " ++
        toString device.id)
    | some port => cleanup finder port
  else pure ()

/-! ## 2. The DELETEs the cleanup sends -/

/-- The two DELETEs `removeFlowRules` sends to one device for `mac`: the rules from `mac`,
    then the rules to `mac`. -/
def removeFlowRulesSends (mac : MAC) (d : Device) : List (Device × Outgoing) :=
  [(d, .flowMod (removeFlowMod { srcMAC := some mac })),
   (d, .flowMod (removeFlowMod { dstMAC := some mac }))]

/-- Every DELETE the cleanup for `port` is meant to send: one wildcard DELETE per device when
    the port is an edge, and otherwise the two DELETEs of each node behind it on each
    device. -/
def cleanupDeletes (finder : Finder) (port : Port) : List (Device × Outgoing) :=
  if finder.isEdge port then finder.devices.map fun d => (d, .flowMod (removeFlowMod {}))
  else (finder.nodes port).flatMap fun n => finder.devices.flatMap (removeFlowRulesSends n.mac)

section Run

variable {s : Net}

/-- With a factory that never fails, `removeFlow` is the send of its DELETE. -/
theorem removeFlow_run (hf : ∀ c n, s.env.factory c n = none) (d : Device) (m : Match) :
    (removeFlow d m).run s =
      (d.sendMessage (.flowMod (removeFlowMod m))).run ⟨s.env, s.sent, s.calls + 1⟩ := by
  simp [removeFlow, newFlowMod, hf, removeFlowMod]

/-- The loop of `removeAllFlows` sends one DELETE per device and returns, whichever sends
    fail. -/
theorem removeAllFlowsOn_run (hf : ∀ c n, s.env.factory c n = none) (m : Match)
    (devices : List Device) : ∃ n, (removeAllFlowsOn m devices).run s =
      .ok () ⟨s.env, s.sent ++ devices.map fun d => (d, .flowMod (removeFlowMod m)), n⟩ := by
  induction devices generalizing s with
  | nil => exact ⟨s.calls, by simp [removeAllFlowsOn]⟩
  | cons d devices ih =>
    obtain ⟨n, rest⟩ :=
      ih (s := ⟨s.env, s.sent ++ [(d, .flowMod (removeFlowMod m))], s.calls + 1⟩) hf
    refine ⟨n, ?_⟩
    simp only [removeAllFlowsOn, run_bind, run_tryCatch, removeFlow_run hf, run_sendMessage]
    cases s.env.send s.sent.length <;> simpa using rest

theorem removeAllFlows_run (hf : ∀ c n, s.env.factory c n = none) (finder : Finder) :
    ∃ n, (removeAllFlows finder).run s =
      .ok () ⟨s.env, s.sent ++ finder.devices.map fun d => (d, .flowMod (removeFlowMod {})), n⟩ := by
  obtain ⟨n, h⟩ := removeAllFlowsOn_run (s := ⟨s.env, s.sent, s.calls + 1⟩) hf {} finder.devices
  exact ⟨n, by simpa [removeAllFlows, newMatch, hf] using h⟩

theorem removeFlowRulesOn_run (hr : s.env.Reliable) (mac : MAC) (devices : List Device) :
    ∃ n, (removeFlowRulesOn mac devices).run s =
      .ok () ⟨s.env, s.sent ++ devices.flatMap (removeFlowRulesSends mac), n⟩ := by
  induction devices generalizing s with
  | nil => exact ⟨s.calls, by simp [removeFlowRulesOn]⟩
  | cons d devices ih =>
    obtain ⟨n, rest⟩ :=
      ih (s := ⟨s.env, s.sent ++ removeFlowRulesSends mac d, s.calls + 1 + 1 + 1 + 1⟩) hr
    refine ⟨n, ?_⟩
    simp only [removeFlowRulesOn, newMatch, run_bind, run_factoryCall, hr.factory, removeFlow_run,
      run_sendMessage, hr.send, implies_true]
    simpa [removeFlowRulesSends] using rest

theorem cleanupNodes_run (hr : s.env.Reliable) (finder : Finder) (nodes : List Node) :
    ∃ n, (cleanupNodes finder nodes).run s = .ok () ⟨s.env, s.sent ++
      nodes.flatMap (fun n => finder.devices.flatMap (removeFlowRulesSends n.mac)), n⟩ := by
  induction nodes generalizing s with
  | nil => exact ⟨s.calls, by simp [cleanupNodes]⟩
  | cons n nodes ih =>
    obtain ⟨k, hk⟩ := removeFlowRulesOn_run hr n.mac finder.devices
    obtain ⟨k', rest⟩ :=
      ih (s := ⟨s.env, s.sent ++ finder.devices.flatMap (removeFlowRulesSends n.mac), k⟩) hr
    refine ⟨k', ?_⟩
    simp only [cleanupNodes, removeFlowRules, run_bind, run_tryCatch, hk]
    simpa using rest

theorem cleanup_run (hr : s.env.Reliable) (finder : Finder) (port : Port) :
    ∃ n, (cleanup finder port).run s = .ok () ⟨s.env, s.sent ++ cleanupDeletes finder port, n⟩ := by
  unfold cleanup cleanupDeletes
  split
  · exact removeAllFlows_run hr.factory finder
  · exact cleanupNodes_run hr finder _

/-- A port or link down on a known port is the cleanup of that port. -/
theorem processEvent_eq_cleanup {finder : Finder} {device : Device} {status : PortStatus}
    {port : Port} (hdown : status.isPortDown = true ∨ status.isLinkDown = true)
    (hport : finder.port device status.number = some port) :
    processEvent finder device status = cleanup finder port := by
  have hcond : (status.isPortDown || status.isLinkDown) = true := by simpa using hdown
  simp only [processEvent, hcond, hport, if_true]

/-- With no failing call, a port or link down on a known port sends every DELETE of the
    cleanup and returns. -/
theorem processEvent_run (hr : s.env.Reliable) {finder : Finder} {device : Device}
    {status : PortStatus} {port : Port}
    (hdown : status.isPortDown = true ∨ status.isLinkDown = true)
    (hport : finder.port device status.number = some port) :
    ∃ n, (processEvent finder device status).run s =
      .ok () ⟨s.env, s.sent ++ cleanupDeletes finder port, n⟩ := by
  rw [processEvent_eq_cleanup hdown hport]
  exact cleanup_run hr finder port

end Run

end Cherry.L2Switch

/-! ## 3. How switches apply a DELETE -/

namespace Cherry.Openflow

/-- A match covers a rule's match when the rule's match pins every field it pins, to the
    same value: the rule is at least as specific. -/
def Match.covers (m r : Match) : Bool :=
  m.inPort.all (r.inPort == some ·) && m.etherType.all (r.etherType == some ·) &&
    m.srcMAC.all (r.srcMAC == some ·) && m.dstMAC.all (r.dstMAC == some ·)

/-- A non-strict DELETE removes a rule of its table (`0xFF` is every table) that its match
    covers and whose cookie agrees with its own on the cookie mask. -/
def FlowMod.deletes (del r : FlowMod) : Bool :=
  (del.tableID == 0xFF || del.tableID == r.tableID) && del.flowMatch.covers r.flowMatch &&
    (r.cookie &&& del.cookieMask == del.cookie &&& del.cookieMask)

end Cherry.Openflow

namespace Cherry.L2Switch

open Cherry.OF10 (MAC)
open Cherry.Openflow Cherry.Network

/-- Device `d`'s rules after the DELETEs among `msgs` that went to it; the other messages
    leave them as they are. -/
def afterDeletes (d : Device) : List (Device × Outgoing) → List FlowMod → List FlowMod
  | [], rules => rules
  | (d', .flowMod m) :: msgs, rules =>
    afterDeletes d msgs
      (if d' = d ∧ m.command = .delete then rules.filter (!m.deletes ·) else rules)
  | (_, .packetOut _) :: msgs, rules => afterDeletes d msgs rules

/-- A rule survives the messages when it was there and no DELETE to its device removes it. -/
theorem mem_afterDeletes {d : Device} {r : FlowMod} (msgs : List (Device × Outgoing))
    (rules : List FlowMod) :
    r ∈ afterDeletes d msgs rules ↔
      r ∈ rules ∧ ∀ m, (d, .flowMod m) ∈ msgs → m.command = .delete → m.deletes r = false := by
  induction msgs generalizing rules with
  | nil => simp [afterDeletes]
  | cons x msgs ih =>
    obtain ⟨d', m | p⟩ := x
    · by_cases h : d' = d ∧ m.command = .delete
      · obtain ⟨rfl, hdel⟩ := h
        simp [afterDeletes, ih, hdel, and_assoc]
      · simp only [afterDeletes, ih, h, if_false, List.mem_cons]
        refine and_congr_right fun _ => forall_congr' fun m' => ⟨?_, fun hm hin => hm (.inr hin)⟩
        rintro hm (heq | hin) hc
        · simp only [Prod.mk.injEq, Outgoing.flowMod.injEq] at heq
          obtain ⟨rfl, rfl⟩ := heq
          exact absurd ⟨rfl, hc⟩ h
        · exact hm hin hc
    · simp [afterDeletes, ih]

/-! ## 4. The cleanup removes exactly the affected rules -/

/-- The cleanup's DELETE removes the rules its match covers, except the table-miss rules. -/
@[simp] theorem removeFlowMod_deletes (m : Match) (r : FlowMod) :
    (removeFlowMod m).deletes r = (m.covers r.flowMatch && !isTableMissCookie r.cookie) := by
  have hzero : (0 : UInt64) &&& (0x1 : UInt64) <<< 63 = 0 := by decide
  simp [FlowMod.deletes, removeFlowMod, isTableMissCookie, msbMask, hzero, bne]

@[simp] theorem removeFlowMod_command (m : Match) : (removeFlowMod m).command = .delete := rfl

theorem covers_wildcard (r : Match) : Match.covers {} r = true := rfl

theorem covers_srcMAC (mac : MAC) (r : Match) :
    Match.covers { srcMAC := some mac } r = true ↔ r.srcMAC = some mac := by
  simp [Match.covers]

theorem covers_dstMAC (mac : MAC) (r : Match) :
    Match.covers { dstMAC := some mac } r = true ↔ r.dstMAC = some mac := by
  simp [Match.covers]

/-- Every message of the cleanup is one of its DELETEs. -/
theorem mem_cleanupDeletes {finder : Finder} {port : Port} {x : Device × Outgoing}
    (hx : x ∈ cleanupDeletes finder port) : ∃ m, x.2 = .flowMod (removeFlowMod m) := by
  unfold cleanupDeletes at hx
  split at hx
  · obtain ⟨d, -, rfl⟩ := List.mem_map.mp hx
    exact ⟨_, rfl⟩
  · simp only [List.mem_flatMap, removeFlowRulesSends, List.mem_cons, List.mem_singleton,
      List.not_mem_nil, or_false] at hx
    obtain ⟨n, -, d, -, rfl | rfl⟩ := hx <;> exact ⟨_, rfl⟩

/-- A DELETE of the cleanup for `port` removes rule `r` of a device of the finder exactly
    when `r` is not a table-miss rule and the port is an edge or `r` is from or to a host
    behind it. -/
theorem deletes_of_cleanupDeletes {finder : Finder} {port : Port} {d : Device} {r : FlowMod}
    (hd : d ∈ finder.devices) :
    (∃ m, (d, .flowMod m) ∈ cleanupDeletes finder port ∧ m.command = .delete ∧
      m.deletes r = true) ↔
      isTableMissCookie r.cookie = false ∧ (finder.isEdge port = true ∨
        ∃ n ∈ finder.nodes port, r.flowMatch.srcMAC = some n.mac ∨
          r.flowMatch.dstMAC = some n.mac) := by
  unfold cleanupDeletes
  split
  case isTrue hedge =>
    simp only [List.mem_map, Prod.mk.injEq, Outgoing.flowMod.injEq, hedge, true_or, and_true]
    constructor
    · rintro ⟨_, ⟨_, -, -, rfl⟩, -, hdel⟩
      simpa [covers_wildcard] using hdel
    · exact fun hc => ⟨_, ⟨d, hd, rfl, rfl⟩, rfl, by simp [covers_wildcard, hc]⟩
  case isFalse hedge =>
    simp only [List.mem_flatMap, removeFlowRulesSends, List.mem_cons, List.mem_singleton,
      List.not_mem_nil, or_false, Prod.mk.injEq, Outgoing.flowMod.injEq,
      eq_false_of_ne_true hedge, Bool.false_eq_true, false_or]
    constructor
    · rintro ⟨_, ⟨n, hn, _, -, ⟨rfl, rfl⟩ | ⟨rfl, rfl⟩⟩, -, hdel⟩
      · simp only [removeFlowMod_deletes, Bool.and_eq_true, covers_srcMAC] at hdel
        exact ⟨by simpa using hdel.2, n, hn, .inl hdel.1⟩
      · simp only [removeFlowMod_deletes, Bool.and_eq_true, covers_dstMAC] at hdel
        exact ⟨by simpa using hdel.2, n, hn, .inr hdel.1⟩
    · rintro ⟨hc, n, hn, hsrc | hdst⟩
      · exact ⟨_, ⟨n, hn, d, hd, .inl ⟨rfl, rfl⟩⟩, rfl, by simp [covers_srcMAC, hsrc, hc]⟩
      · exact ⟨_, ⟨n, hn, d, hd, .inr ⟨rfl, rfl⟩⟩, rfl, by simp [covers_dstMAC, hdst, hc]⟩

/-- A rule of a device of the finder is removed by the cleanup exactly when it is not a
    table-miss rule and the port is an edge or the rule is from or to a host behind it. -/
theorem not_mem_afterDeletes_cleanupDeletes {finder : Finder} {port : Port} {d : Device}
    {r : FlowMod} {rules : List FlowMod} (hd : d ∈ finder.devices) (hr : r ∈ rules) :
    r ∉ afterDeletes d (cleanupDeletes finder port) rules ↔
      isTableMissCookie r.cookie = false ∧ (finder.isEdge port = true ∨
        ∃ n ∈ finder.nodes port, r.flowMatch.srcMAC = some n.mac ∨
          r.flowMatch.dstMAC = some n.mac) := by
  rw [mem_afterDeletes, ← deletes_of_cleanupDeletes hd]
  simp [hr]

/-- Cleanup removes exactly the affected forwarding rules and never a table-miss rule.  With
    no failing call, a port or link down on a known port sends only DELETEs of every table
    with the cookie mask `1 << 63`.  Applied to any rule tables of the finder's devices, they
    remove a rule `installFlow` installed exactly when the port is an edge or the rule is
    from or to a host behind the port, and they remove no table-miss rule. -/
theorem processEvent_removes_affected_rules {s : Net} (hr : s.env.Reliable) {finder : Finder}
    {device : Device} {status : PortStatus} {port : Port}
    (hdown : status.isPortDown = true ∨ status.isLinkDown = true)
    (hport : finder.port device status.number = some port) (tables : Device → List FlowMod) :
    ∃ msgs n, (processEvent finder device status).run s = .ok () ⟨s.env, s.sent ++ msgs, n⟩ ∧
      (∀ x ∈ msgs, ∃ m, x.2 = .flowMod m ∧ m.command = .delete ∧ m.tableID = 0xFF ∧
        m.cookieMask = msbMask) ∧
      ∀ d ∈ finder.devices,
        (∀ q : FlowParam, installFlowMod q ∈ tables d →
          (installFlowMod q ∉ afterDeletes d msgs (tables d) ↔ finder.isEdge port = true ∨
            ∃ n ∈ finder.nodes port, q.srcMAC = n.mac ∨ q.dstMAC = n.mac)) ∧
        ∀ r ∈ tables d, isTableMissCookie r.cookie = true → r ∈ afterDeletes d msgs (tables d) := by
  obtain ⟨n, hrun⟩ := processEvent_run hr hdown hport
  refine ⟨_, n, hrun, fun x hx => ?_, fun d hd => ⟨fun q hq => ?_, fun r hr hmiss => ?_⟩⟩
  · obtain ⟨m, hm⟩ := mem_cleanupDeletes hx
    exact ⟨_, hm, rfl, rfl, rfl⟩
  · have hzero : isTableMissCookie 0 = false := by decide
    rw [not_mem_afterDeletes_cleanupDeletes hd hq]
    simp [installFlowMod, hzero]
  · by_contra hgone
    have := ((not_mem_afterDeletes_cleanupDeletes hd hr).mp hgone).1
    simp [hmiss] at this

theorem processEvent_removes_rules_of_D :
    ∃ msgs n, (processEvent (hostBehind ⟨switchA, 7⟩) switchA portDown).run
        ⟨Env.lossless, [], 0⟩ = .ok () ⟨Env.lossless, [] ++ msgs, n⟩ ∧
      (∀ x ∈ msgs, ∃ m, x.2 = .flowMod m ∧ m.command = .delete ∧ m.tableID = 0xFF ∧
        m.cookieMask = msbMask) ∧
      ∀ d ∈ (hostBehind ⟨switchA, 7⟩).devices,
        (∀ q : FlowParam, installFlowMod q ∈ [installFlowMod ⟨d, 0x0800, 3, 5, macS, macD⟩] →
          (installFlowMod q ∉ afterDeletes d msgs [installFlowMod ⟨d, 0x0800, 3, 5, macS, macD⟩] ↔
            (hostBehind ⟨switchA, 7⟩).isEdge ⟨switchA, 7⟩ = true ∨
            ∃ n ∈ (hostBehind ⟨switchA, 7⟩).nodes ⟨switchA, 7⟩, q.srcMAC = n.mac ∨
              q.dstMAC = n.mac)) ∧
        ∀ r ∈ [installFlowMod ⟨d, 0x0800, 3, 5, macS, macD⟩], isTableMissCookie r.cookie = true →
          r ∈ afterDeletes d msgs [installFlowMod ⟨d, 0x0800, 3, 5, macS, macD⟩] :=
  @processEvent_removes_affected_rules ⟨Env.lossless, [], 0⟩ Env.lossless_reliable
    (hostBehind ⟨switchA, 7⟩) switchA portDown ⟨switchA, 7⟩ (.inl rfl) rfl
    fun d => [installFlowMod ⟨d, 0x0800, 3, 5, macS, macD⟩]

/-! ## 5. Sends that fail -/

/-- Port 7 of `A`, with `D` behind it, goes down, and the first send fails.  Of the four
    DELETEs the cleanup is meant to send, only the first is attempted: `removeFlowRules`
    returns its error, and the DELETE of the rules to `D` and both DELETEs on `B` are never
    sent. -/
theorem processEvent_stops_at_failed_delete :
    (cleanupDeletes (hostBehind ⟨switchA, 7⟩) ⟨switchA, 7⟩).length = 4 ∧
    (processEvent (hostBehind ⟨switchA, 7⟩) switchA portDown).run ⟨firstSendFails, [], 0⟩ =
      .ok () ⟨firstSendFails, [(switchA, .flowMod (removeFlowMod { srcMAC := some macD }))], 2⟩ :=
  ⟨rfl, rfl⟩

/-- On an edge port the cleanup is best effort: with a factory that never fails, a port or
    link down on a known edge port attempts one wildcard DELETE per device and returns
    `nil`, whichever sends fail. -/
theorem processEvent_edge_attempts_every_delete {s : Net}
    (hf : ∀ c n, s.env.factory c n = none) {finder : Finder} {device : Device}
    {status : PortStatus} {port : Port}
    (hdown : status.isPortDown = true ∨ status.isLinkDown = true)
    (hport : finder.port device status.number = some port) (hedge : finder.isEdge port = true) :
    ∃ n, (processEvent finder device status).run s =
      .ok () ⟨s.env, s.sent ++ finder.devices.map fun d => (d, .flowMod (removeFlowMod {})), n⟩ := by
  rw [processEvent_eq_cleanup hdown hport, cleanup, if_pos hedge]
  exact removeAllFlows_run hf finder

theorem processEvent_edge_despite_failed_send :
    ∃ n, (processEvent (edgeAt ⟨switchA, 7⟩) switchA portDown).run ⟨firstSendFails, [], 0⟩ =
      .ok () ⟨firstSendFails, [] ++ (edgeAt ⟨switchA, 7⟩).devices.map fun d =>
        (d, .flowMod (removeFlowMod {})), n⟩ :=
  @processEvent_edge_attempts_every_delete ⟨firstSendFails, [], 0⟩ (fun _ _ => rfl)
    (edgeAt ⟨switchA, 7⟩) switchA portDown ⟨switchA, 7⟩ (.inl rfl) rfl rfl

/-! Whatever fails, every message the cleanup sends is one of the DELETEs it is meant to
send, so a failure can only leave rules in place. -/

theorem removeFlow_sendsOnly (d : Device) (m : Match) :
    SendsOnly (· = (d, .flowMod (removeFlowMod m))) (removeFlow d m) :=
  .factoryCall_bind (.sendMessage rfl)

theorem removeAllFlowsOn_sendsOnly (m : Match) (devices : List Device) :
    SendsOnly (· ∈ devices.map fun d => (d, .flowMod (removeFlowMod m)))
      (removeAllFlowsOn m devices) := by
  induction devices with
  | nil => exact .pure' _
  | cons d devices ih =>
    refine .bind (.tryCatch ((removeFlow_sendsOnly d m).mono ?_) fun _ => .pure' _) fun _ =>
      ih.mono ?_ <;> intro x hx <;> simp [hx]

theorem removeFlowRulesOn_sendsOnly (mac : MAC) (devices : List Device) :
    SendsOnly (· ∈ devices.flatMap (removeFlowRulesSends mac)) (removeFlowRulesOn mac devices) := by
  induction devices with
  | nil => exact .pure' _
  | cons d devices ih =>
    refine .factoryCall_bind (.bind ((removeFlow_sendsOnly _ _).mono ?_) fun _ =>
      .factoryCall_bind (.bind ((removeFlow_sendsOnly _ _).mono ?_) fun _ => ih.mono ?_)) <;>
    intro x hx <;> simp [List.flatMap_cons, removeFlowRulesSends, hx]

theorem cleanupNodes_sendsOnly (finder : Finder) (nodes : List Node) :
    SendsOnly (· ∈ nodes.flatMap fun n => finder.devices.flatMap (removeFlowRulesSends n.mac))
      (cleanupNodes finder nodes) := by
  induction nodes with
  | nil => exact .pure' _
  | cons n nodes ih =>
    refine .bind (.tryCatch ((removeFlowRulesOn_sendsOnly _ _).mono ?_) fun _ => .pure' _)
      fun _ => ih.mono ?_ <;> intro x hx <;> simp [List.flatMap_cons, hx]

theorem processEvent_sendsOnly {finder : Finder} {device : Device} {status : PortStatus}
    {port : Port} (hport : finder.port device status.number = some port) :
    SendsOnly (· ∈ cleanupDeletes finder port) (processEvent finder device status) := by
  simp only [processEvent, hport]
  split
  · unfold cleanup cleanupDeletes
    split
    · exact .factoryCall_bind (removeAllFlowsOn_sendsOnly _ _)
    · exact cleanupNodes_sendsOnly _ _
  · exact .pure' _

/-- Whatever the factory and the sends answer, a PORT_STATUS for a known port sends only
    DELETEs the cleanup of that port is meant to send, so on every switch of the finder it
    removes only rules that are not table-miss rules and that are affected by the port:
    the port is an edge, or the rule is from or to a host behind it. -/
theorem processEvent_removes_only_affected {finder : Finder} {device : Device}
    {status : PortStatus} {port : Port} (hport : finder.port device status.number = some port)
    (s : Net) :
    ∃ msgs n, after ((processEvent finder device status).run s) = ⟨s.env, s.sent ++ msgs, n⟩ ∧
      (∀ x ∈ msgs, x ∈ cleanupDeletes finder port) ∧
      ∀ d ∈ finder.devices, ∀ rules, ∀ r ∈ rules, r ∉ afterDeletes d msgs rules →
        isTableMissCookie r.cookie = false ∧ (finder.isEdge port = true ∨
          ∃ n ∈ finder.nodes port, r.flowMatch.srcMAC = some n.mac ∨
            r.flowMatch.dstMAC = some n.mac) := by
  obtain ⟨msgs, n, hrun, hsub⟩ := processEvent_sendsOnly hport s
  refine ⟨msgs, n, hrun, hsub, fun d hd rules r hr hgone => ?_⟩
  rw [mem_afterDeletes] at hgone
  push_neg at hgone
  obtain ⟨m, hm, hcmd, hdel⟩ := hgone hr
  exact (deletes_of_cleanupDeletes hd).mp ⟨m, hsub _ hm, hcmd, by simpa using hdel⟩

theorem processEvent_removes_only_affected_first_send_fails :
    ∃ msgs n, after ((processEvent (hostBehind ⟨switchA, 7⟩) switchA portDown).run
        ⟨firstSendFails, [], 0⟩) = ⟨firstSendFails, [] ++ msgs, n⟩ ∧
      (∀ x ∈ msgs, x ∈ cleanupDeletes (hostBehind ⟨switchA, 7⟩) ⟨switchA, 7⟩) ∧
      ∀ d ∈ (hostBehind ⟨switchA, 7⟩).devices, ∀ rules, ∀ r ∈ rules,
        r ∉ afterDeletes d msgs rules →
        isTableMissCookie r.cookie = false ∧ ((hostBehind ⟨switchA, 7⟩).isEdge ⟨switchA, 7⟩ = true ∨
          ∃ n ∈ (hostBehind ⟨switchA, 7⟩).nodes ⟨switchA, 7⟩, r.flowMatch.srcMAC = some n.mac ∨
            r.flowMatch.dstMAC = some n.mac) :=
  @processEvent_removes_only_affected (hostBehind ⟨switchA, 7⟩) switchA portDown ⟨switchA, 7⟩ rfl
    ⟨firstSendFails, [], 0⟩

/-! ## 6. The cleanup removes what `ProcessPacket` installed

Every rule `ProcessPacket` installs matches the frame's own source and destination MAC.  So
when the port behind which one of the two hosts was learned goes down, or an edge goes
down, the cleanup's DELETEs remove every such rule from every switch of the finder, however
`ProcessPacket`'s own calls fared. -/

/-- The rules `ProcessPacket` installs, whatever its calls answered, are removed by a later
    cleanup that runs with no failing call, from every switch of the finder the cleanup
    reads, when the port that went down is an edge or has either of the frame's hosts
    behind it. -/
theorem processEvent_clears_frame_rules {s : Net} {finder : Finder} {eth : Ethernet}
    {ingress : Port} {env : Env} (hr : env.Reliable) {finder' : Finder} {device : Device}
    {status : PortStatus} {port : Port}
    (hdown : status.isPortDown = true ∨ status.isLinkDown = true)
    (hport : finder'.port device status.number = some port)
    (hhost : finder'.isEdge port = true ∨
      ∃ n ∈ finder'.nodes port, n.mac = eth.srcMAC ∨ n.mac = eth.dstMAC) :
    ∃ msgs n dels, after ((processPacket finder eth ingress).run s) = ⟨s.env, s.sent ++ msgs, n⟩ ∧
      (∃ n', (processEvent finder' device status).run ⟨env, s.sent ++ msgs, n⟩ =
        .ok () ⟨env, s.sent ++ msgs ++ dels, n'⟩) ∧
      ∀ d r, (d, r) ∈ rulesOf msgs → d ∈ finder'.devices → ∀ rules, r ∉ afterDeletes d dels rules := by
  obtain ⟨msgs, n, hpp, hfor⟩ := processPacket_sendsOnly (P := ForFrame eth)
    (fun _ _ => localSwitching_sendsOnly _) (fun _ _ => switching_sendsOnly _)
    (fun _ => sendPacketOut_forFrame _ _ _ _ _) s
  refine ⟨msgs, n, _, hpp, processEvent_run (s := ⟨env, _, n⟩) hr hdown hport,
    fun d r hdr hd rules hmem => ?_⟩
  obtain ⟨x, hx, rfl, hadd⟩ := mem_rulesOf.mp hdr
  obtain ⟨q, -, hsrc, hdst, rfl⟩ | ⟨_, _, _, -, hpo⟩ := hfor x hx
  · obtain rfl : installFlowMod q = r := by simpa [installFlowSend, addedRule, installFlowMod] using hadd
    have hzero : isTableMissCookie 0 = false := by decide
    refine (not_mem_afterDeletes_cleanupDeletes hd ((mem_afterDeletes _ _).mp hmem).1).mpr
      ⟨hzero, hhost.imp id fun ⟨n, hn, hmac⟩ => ⟨n, hn, ?_⟩⟩ hmem
    simp only [installFlowMod, hsrc, hdst]
    rcases hmac with h | h <;> simp [h]
  · simp [hpo, addedRule] at hadd

/-- `D` is behind port 7 of `A`.  A frame from `S` to `D` comes in on port 3 of `A`, and the
    first send fails, so `ProcessPacket` stops after its first FLOW_MOD.  Port 7 then goes
    down, and the cleanup removes that rule from `A` and `B`. -/
theorem processEvent_clears_rule_of_failed_switching :
    ∃ msgs n dels, after ((processPacket (hostBehind ⟨switchA, 7⟩) frameSD ⟨switchA, 3⟩).run
        ⟨firstSendFails, [], 0⟩) = ⟨firstSendFails, [] ++ msgs, n⟩ ∧
      (∃ n', (processEvent (hostBehind ⟨switchA, 7⟩) switchA portDown).run
        ⟨Env.lossless, [] ++ msgs, n⟩ = .ok () ⟨Env.lossless, [] ++ msgs ++ dels, n'⟩) ∧
      ∀ d r, (d, r) ∈ rulesOf msgs → d ∈ (hostBehind ⟨switchA, 7⟩).devices →
        ∀ rules, r ∉ afterDeletes d dels rules :=
  @processEvent_clears_frame_rules ⟨firstSendFails, [], 0⟩ (hostBehind ⟨switchA, 7⟩) frameSD
    ⟨switchA, 3⟩ Env.lossless Env.lossless_reliable (hostBehind ⟨switchA, 7⟩) switchA portDown
    ⟨switchA, 7⟩ (.inl rfl) rfl (.inr ⟨⟨macD, ⟨switchA, 7⟩⟩, by decide, .inr rfl⟩)

end Cherry.L2Switch
