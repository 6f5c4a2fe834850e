import Cherry.L2Switch.Switching
import Mathlib.Data.List.Nodup

/-!
# End-to-end forwarding along a path

**The rules `L2Switch.switching` installs carry the frame from the ingress port to the
destination host, over every path of every length.**

The switches are not part of the controller, so this module gives them the OpenFlow
reading the policy relies on.  A rule is a FLOW_MOD(ADD) a switch was sent (`rulesOf`).  A
frame that enters switch `d` on port `i` is handled by the first rule of `d` whose match
admits it (`hop`), and goes out of the port the rule's OUTPUT names; if that port is linked
to another switch's port (`link`), the frame enters there.  `trail` follows the frame for a
given number of rule applications and lists the ports it goes out of.

The reading departs from OpenFlow 1.0 in one case: a rule whose OUTPUT port is the port the
frame came in on.  A switch drops that frame, since sending it back needs `OFPP_IN_PORT`,
while `hop` sends it back out of that port.  The theorems below are about `hop` as it
reads; on a path that leaves a switch by the port it entered, a real switch stops the frame
there.

The path `[(a₁, b₁), …, (aₙ, bₙ)]` the finder returns is well formed (`Route`) when `a₁` is
on the ingress switch, `bᵢ` and `aᵢ₊₁` are on one switch, `bₙ` is on the egress switch and
each `aᵢ` is linked to `bᵢ`; the `n + 1` switches it visits are pairwise distinct.

The argument is an induction over the path (`trail_routeParams`): the rules of
`routeParams` are one per visited switch, so the rule that handles the frame on a switch is
that switch's own, and its in-port is the entry port the loop of `switching` threaded into
it.
-/

namespace Cherry.L2Switch

open Cherry.OF10 (MAC)
open Cherry.Openflow Cherry.Network

/-! ## 1. How switches apply rules -/

def addedRule : Outgoing → Option FlowMod
  | .flowMod m => if m.command = .add then some m else none
  | .packetOut _ => none

/-- The rules among sent messages, with the switch each went to. -/
def rulesOf (msgs : List (Device × Outgoing)) : List (Device × FlowMod) :=
  msgs.filterMap fun m => (addedRule m.2).map (m.1, ·)

end Cherry.L2Switch

namespace Cherry.Openflow

open Cherry.Network

/-- A match admits a frame that came in on port `inPort`: every pinned field agrees. -/
def Match.admits (m : Match) (inPort : UInt32) (eth : Ethernet) : Bool :=
  m.inPort.all (· == .value inPort) && m.etherType.all (· == eth.type) &&
    m.srcMAC.all (· == eth.srcMAC) && m.dstMAC.all (· == eth.dstMAC)

/-- The port a rule outputs to, when its instruction is one OUTPUT to a port number. -/
def FlowMod.output (m : FlowMod) : Option UInt32 :=
  match m.instruction with
  | some { action := some { outPort := some (.value n) } } => some n
  | _ => none

end Cherry.Openflow

namespace Cherry.L2Switch

open Cherry.OF10 (MAC)
open Cherry.Openflow Cherry.Network

/-- The port a frame that entered at `p` goes out of: the first rule of `p`'s switch that
    admits it names the port, `p` itself included (see the module note). -/
def hop (rules : List (Device × FlowMod)) (eth : Ethernet) (p : Port) : Option Port :=
  (rules.find? fun r => r.1 == p.device && r.2.flowMatch.admits p.number eth).bind
    fun r => r.2.output.map (⟨p.device, ·⟩)

/-- The ports a frame that entered at `p` goes out of, over at most `k` rule applications,
    crossing the link out of each exit port. -/
def trail (rules : List (Device × FlowMod)) (link : Port → Option Port) (eth : Ethernet) :
    Nat → Port → List Port
  | 0, _ => []
  | k + 1, p =>
    match hop rules eth p with
    | none => []
    | some out => out :: ((link out).map (trail rules link eth k)).getD []

/-- The path leaves switch `d` and reaches switch `e`: each hop leaves from the switch the
    previous one entered, and its exit port is linked to its entry port. -/
def Route (link : Port → Option Port) : Device → List (Port × Port) → Device → Prop
  | d, [], e => d = e
  | d, (a, b) :: path, e => a.device = d ∧ link a = some b ∧ Route link b.device path e

/-! ## 2. The rules of `switching` -/

section Rules

variable (p : SwitchParam)

@[simp] theorem rulesOf_nil : rulesOf [] = [] := rfl

@[simp] theorem rulesOf_append (a b : List (Device × Outgoing)) :
    rulesOf (a ++ b) = rulesOf a ++ rulesOf b :=
  List.filterMap_append _ _ _

/-- A rule among the messages is the rule of an ADD among them. -/
theorem mem_rulesOf {msgs : List (Device × Outgoing)} {d : Device} {r : FlowMod} :
    (d, r) ∈ rulesOf msgs ↔ ∃ x ∈ msgs, x.1 = d ∧ addedRule x.2 = some r := by
  simp only [rulesOf, List.mem_filterMap, Option.map_eq_some', Prod.mk.injEq]
  exact exists_congr fun x => and_congr_right fun _ =>
    ⟨fun ⟨r', hr', hd, hr⟩ => ⟨hd, hr ▸ hr'⟩, fun ⟨hd, hr⟩ => ⟨r, hr, hd, rfl⟩⟩

/-- The rules `setFlowRule` installs for the `flowParam`s `qs`: each one's own, twice. -/
theorem rulesOf_flatMap (qs : List FlowParam) :
    rulesOf (qs.flatMap setFlowRuleSends) =
      qs.flatMap fun q => [(q.device, installFlowMod q), (q.device, installFlowMod q)] := by
  induction qs with
  | nil => rfl
  | cons q qs ih => simp only [List.flatMap_cons, rulesOf_append, ih]; rfl

theorem mem_rulesOf_flatMap {qs : List FlowParam} {m : List (Device × Outgoing)}
    (hm : rulesOf m = []) {r : Device × FlowMod} :
    r ∈ rulesOf (qs.flatMap setFlowRuleSends ++ m) ↔
      ∃ q ∈ qs, r = (q.device, installFlowMod q) := by
  simp [hm, rulesOf_flatMap, eq_comm]

/-- The switches `routeParams` puts rules on are the switches the path visits. -/
theorem routeParams_devices {link : Port → Option Port} {inPort : UInt32} {d : Device}
    {path : List (Port × Port)} (h : Route link d path p.egress.device) :
    (routeParams p inPort path).map (·.device) = d :: path.map (·.2.device) := by
  induction path generalizing inPort d with
  | nil => simp [routeParams, show d = p.egress.device from h, SwitchParam.flowParam]
  | cons v path ih =>
    obtain ⟨hd, -, hrest⟩ := h
    simp [routeParams, ih hrest, SwitchParam.flowParam, hd]

/-- A frame of `p.ethernet` that enters the switch of a rule of `qs` on that rule's in-port
    goes out of its out-port, when no other rule of `qs` is on that switch. -/
theorem hop_flatMap {qs : List FlowParam} {m : List (Device × Outgoing)} (hm : rulesOf m = [])
    {q : FlowParam} (hq : q ∈ qs) (heth : q.etherType = p.ethernet.type ∧
      q.srcMAC = p.ethernet.srcMAC ∧ q.dstMAC = p.ethernet.dstMAC)
    (huniq : ∀ q' ∈ qs, q'.device = q.device → q' = q) :
    hop (rulesOf (qs.flatMap setFlowRuleSends ++ m)) p.ethernet ⟨q.device, q.inPort⟩ =
      some ⟨q.device, q.outPort⟩ := by
  simp only [hop]
  cases hf : List.find? _ (rulesOf (qs.flatMap setFlowRuleSends ++ m)) with
  | none =>
    rw [List.find?_eq_none] at hf
    refine absurd ?_ (hf _ ((mem_rulesOf_flatMap hm).2 ⟨q, hq, rfl⟩))
    simp [Match.admits, installFlowMod, heth]
  | some r =>
    obtain ⟨q', hq', rfl⟩ := (mem_rulesOf_flatMap hm).1 (List.mem_of_find?_eq_some hf)
    have hdev : q'.device = q.device := (by simpa using List.find?_some hf : _ ∧ _).1
    obtain rfl := huniq q' hq' hdev
    simp [FlowMod.output, installFlowMod]

/-- Every rule of `routeParams` matches the frame's ether type and MACs. -/
theorem routeParams_frame {inPort : UInt32} {path : List (Port × Port)} {q : FlowParam}
    (hq : q ∈ routeParams p inPort path) : q.etherType = p.ethernet.type ∧
      q.srcMAC = p.ethernet.srcMAC ∧ q.dstMAC = p.ethernet.dstMAC := by
  induction path generalizing inPort with
  | nil =>
    obtain rfl := List.mem_singleton.1 hq
    exact ⟨rfl, rfl, rfl⟩
  | cons v path ih =>
    rcases List.mem_cons.1 hq with rfl | hq
    · exact ⟨rfl, rfl, rfl⟩
    · exact ih hq

/-- Following the rules of `qs` from the entry of a suffix of the route: one rule per
    switch takes the frame out of each exit port and, last, out of the egress port. -/
theorem trail_routeParams {link : Port → Option Port} {qs : List FlowParam}
    {m : List (Device × Outgoing)} (hm : rulesOf m = [])
    (huniq : ∀ q ∈ qs, ∀ q' ∈ qs, q.device = q'.device → q = q') {inPort : UInt32} {d : Device}
    {path : List (Port × Port)} (hsub : ∀ q ∈ routeParams p inPort path, q ∈ qs)
    (h : Route link d path p.egress.device) :
    trail (rulesOf (qs.flatMap setFlowRuleSends ++ m)) link p.ethernet (path.length + 1)
      ⟨d, inPort⟩ = path.map Prod.fst ++ [p.egress] := by
  induction path generalizing inPort d with
  | nil =>
    obtain rfl : d = p.egress.device := h
    have hq := hsub _ (List.mem_singleton_self _)
    have hhop := hop_flatMap p hm hq
      (@routeParams_frame p inPort [] _ (List.mem_singleton_self _))
      fun q' hq' hd => huniq q' hq' _ hq hd
    simp only [trail, SwitchParam.flowParam] at hhop ⊢
    rw [hhop]
    dsimp only
    cases link ⟨p.egress.device, p.egress.number⟩ <;> rfl
  | cons v path ih =>
    obtain ⟨a, b⟩ := v
    obtain ⟨rfl, hlink, hrest⟩ := h
    have hmem : p.flowParam a.device inPort a.number ∈ routeParams p inPort ((a, b) :: path) :=
      List.mem_cons_self _ _
    have hq := hsub _ hmem
    have hhop := hop_flatMap p hm hq (routeParams_frame p hmem)
      fun q' hq' hd => huniq q' hq' _ hq hd
    have ha : (⟨a.device, a.number⟩ : Port) = a := rfl
    simp only [SwitchParam.flowParam, ha] at hhop
    rw [List.length_cons, trail, hhop]
    dsimp only
    rw [hlink]
    exact congrArg (a :: ·) (ih (fun q hq => hsub q (List.mem_cons_of_mem _ hq)) hrest)

end Rules

/-! ## 3. The end-to-end theorem -/

/-- Path installation forwards the frame end to end.  Whatever the failures, when
    `switching` returns on a non-empty, well-formed path that visits pairwise distinct
    switches, the rules it installed each match (in-port, ether type, source MAC,
    destination MAC) with one OUTPUT; no switch and in-port get two outputs; following them
    from the ingress port across the path's links takes the frame out of each exit port
    and, after exactly `n + 1` rules, out of the egress port; and its last message is the
    PACKET_OUT of the frame out of the egress port. -/
theorem switching_forwards_end_to_end {s s' : Net} (p : SwitchParam)
    (link : Port → Option Port) {path : List (Port × Port)}
    (hpath : p.finder.path p.ingress.device.id p.egress.device.id = path) (hne : path ≠ [])
    (hroute : Route link p.ingress.device path p.egress.device)
    (hdist : (p.ingress.device :: path.map (·.2.device)).Nodup)
    (hok : (switching p).run s = .ok () s') :
    ∃ msgs n, s' = ⟨s.env, s.sent ++ msgs, n⟩ ∧
      (∀ r ∈ rulesOf msgs, ∃ i o, r.2.flowMatch =
          { inPort := some (.value i), etherType := some p.ethernet.type,
            srcMAC := some p.ethernet.srcMAC, dstMAC := some p.ethernet.dstMAC } ∧
        r.2.instruction = some { action := some { outPort := some (.value o) } }) ∧
      (∀ r ∈ rulesOf msgs, ∀ r' ∈ rulesOf msgs, r.1 = r'.1 →
        r.2.flowMatch.inPort = r'.2.flowMatch.inPort → r.2.output = r'.2.output) ∧
      trail (rulesOf msgs) link p.ethernet (path.length + 1) p.ingress =
        path.map Prod.fst ++ [p.egress] ∧
      msgs.getLast? = some (p.egress.device,
        .packetOut (packetOutMsg .controller (.value p.egress.number) p.rawPacket)) := by
  subst hpath
  obtain ⟨-, n, rfl⟩ := (switching_failStop_path p hne).eq_of_ok hok
  have hm : rulesOf [(p.egress.device,
      .packetOut (packetOutMsg .controller (.value p.egress.number) p.rawPacket))] = [] := rfl
  have huniq := List.inj_on_of_nodup_map
    ((@routeParams_devices p link p.ingress.number _ _ hroute).symm ▸ hdist)
  refine ⟨_, n, rfl, fun r hr => ?_, fun r hr r' hr' hd _ => ?_, ?_, List.getLast?_concat _⟩
  · obtain ⟨q, hq, rfl⟩ := (mem_rulesOf_flatMap hm).1 hr
    obtain ⟨he, hs, hd⟩ := routeParams_frame p hq
    exact ⟨q.inPort, q.outPort, by simp [installFlowMod, he, hs, hd], rfl⟩
  · obtain ⟨q, hq, rfl⟩ := (mem_rulesOf_flatMap hm).1 hr
    obtain ⟨q', hq', rfl⟩ := (mem_rulesOf_flatMap hm).1 hr'
    rw [huniq hq hq' hd]
  · exact trail_routeParams p hm huniq (fun _ => id) hroute

/-- The spec's inter-switch scenario: `A.p9` and `B.p9` are linked, `D` is behind `B.p5`,
    and the finder's path from `A` to `B` is that link. -/
def linkAB (x : Port) : Option Port :=
  if x = ⟨switchA, 9⟩ then some ⟨switchB, 9⟩
  else if x = ⟨switchB, 9⟩ then some ⟨switchA, 9⟩ else none

def paramAB : SwitchParam where
  finder := { hostAt ⟨switchB, 5⟩ with
    path := fun a b => if a = 1 ∧ b = 2 then [(⟨switchA, 9⟩, ⟨switchB, 9⟩)] else [] }
  ethernet := frameSD
  ingress := ⟨switchA, 3⟩
  egress := ⟨switchB, 5⟩
  rawPacket := []

theorem switching_forwards_A_to_B :
    ∃ msgs n, (switching paramAB).run ⟨Env.lossless, [], 0⟩ = .ok () ⟨Env.lossless, msgs, n⟩ ∧
      trail (rulesOf msgs) linkAB frameSD 2 ⟨switchA, 3⟩ = [⟨switchA, 9⟩, ⟨switchB, 5⟩] := by
  obtain ⟨_, hok⟩ := (switching_failStop_path paramAB (by decide)).run_of_reliable
    (s := ⟨Env.lossless, [], 0⟩) Env.lossless_reliable
  obtain ⟨msgs, n, hs, -, -, htrail, -⟩ := @switching_forwards_end_to_end _ _ paramAB linkAB
    [(⟨switchA, 9⟩, ⟨switchB, 9⟩)] rfl (by decide) ⟨rfl, rfl, rfl⟩ (by decide) hok
  exact ⟨msgs, n, hs ▸ hok, htrail⟩

/-! ## 4. A failed installation never misroutes

`switching` stops at its first failed call (`switching_failStop_path`), so the rules it has
installed are those of the first hops of the route.  The frame follows them from the ingress
port and, at the first switch without its rule, goes to the controller: it never leaves the
route.  The induction (`trail_take`) is the one of `trail_routeParams`, over a prefix of the
route's rules. -/

section Prefix

variable (p : SwitchParam)

/-- A frame that enters the switch of `q` on `q`'s in-port goes out of `q`'s out-port, when
    `q`'s rule is installed and every rule on that switch is `q`'s. -/
theorem hop_of_only {rules : List (Device × FlowMod)} {eth : Ethernet} {q : FlowParam}
    (hq : (q.device, installFlowMod q) ∈ rules)
    (heth : q.etherType = eth.type ∧ q.srcMAC = eth.srcMAC ∧ q.dstMAC = eth.dstMAC)
    (honly : ∀ r ∈ rules, r.1 = q.device → r.2 = installFlowMod q) :
    hop rules eth ⟨q.device, q.inPort⟩ = some ⟨q.device, q.outPort⟩ := by
  simp only [hop]
  cases hf : rules.find? _ with
  | none =>
    refine absurd (List.find?_eq_none.1 hf _ hq) ?_
    simp [Match.admits, installFlowMod, heth]
  | some r =>
    have hdev : r.1 = q.device := (by simpa using List.find?_some hf : _ ∧ _).1
    rw [Option.some_bind, honly r (List.mem_of_find?_eq_some hf) hdev]
    rfl

/-- A frame that enters the switch of `q` goes to the controller, when `q`'s rule is not
    installed and every rule on that switch is `q`'s. -/
theorem hop_eq_none {rules : List (Device × FlowMod)} {eth : Ethernet} {q : FlowParam}
    (hq : (q.device, installFlowMod q) ∉ rules)
    (honly : ∀ r ∈ rules, r.1 = q.device → r.2 = installFlowMod q) (n : UInt32) :
    hop rules eth ⟨q.device, n⟩ = none := by
  simp only [hop]
  rw [List.find?_eq_none.2]
  · rfl
  · rintro ⟨d, f⟩ hr hs
    obtain rfl : d = q.device := (by simpa using hs : _ ∧ _).1
    exact hq (honly _ hr rfl ▸ hr)

theorem rulesOf_installFlowSend_cons (q : FlowParam) (l : List (Device × Outgoing)) :
    rulesOf (installFlowSend q :: l) = (q.device, installFlowMod q) :: rulesOf l :=
  rfl

/-- The rules among the first `k` messages of `switching`'s installation: those of the first
    `(k + 1) / 2` `flowParam`s, since each rule is sent twice. -/
theorem mem_rulesOf_take {m : List (Device × Outgoing)} (hm : rulesOf m = [])
    {r : Device × FlowMod} : ∀ (qs : List FlowParam) (k : Nat),
    r ∈ rulesOf ((qs.flatMap setFlowRuleSends ++ m).take k) ↔
      ∃ q ∈ qs.take ((k + 1) / 2), r = (q.device, installFlowMod q)
  | [], k => by
    have h : rulesOf (m.take k) ++ rulesOf (m.drop k) = [] := by
      rw [← rulesOf_append, List.take_append_drop, hm]
    simp [(List.append_eq_nil.1 h).1]
  | _ :: _, 0 => by simp
  | q :: qs, 1 => by simp [setFlowRuleSends, rulesOf_installFlowSend_cons]
  | q :: qs, k + 2 => by
    rw [show (k + 2 + 1) / 2 = (k + 1) / 2 + 1 by omega, List.take_succ_cons]
    simp [setFlowRuleSends, rulesOf_installFlowSend_cons, mem_rulesOf_take hm qs k]

/-- A frame entering the route goes to the controller at once when none of the route's rules
    is installed and every rule on the route's switches is that switch's own. -/
theorem trail_eq_nil {link : Port → Option Port} {rules : List (Device × FlowMod)}
    {inPort : UInt32} {d : Device} {path : List (Port × Port)}
    (h : Route link d path p.egress.device)
    (honly : ∀ q ∈ routeParams p inPort path, ∀ r ∈ rules, r.1 = q.device → r.2 = installFlowMod q)
    (hnone : ∀ q ∈ routeParams p inPort path, (q.device, installFlowMod q) ∉ rules) (k : Nat) :
    trail rules link p.ethernet (k + 1) ⟨d, inPort⟩ = [] := by
  have hd : d ∈ (routeParams p inPort path).map (·.device) := by
    rw [routeParams_devices p h]
    exact List.mem_cons_self _ _
  obtain ⟨q, hq, rfl⟩ := List.mem_map.1 hd
  rw [trail, hop_eq_none (hnone q hq) (honly q hq)]

/-- Following the rules installed for the first `j` hops of a suffix of the route, from its
    entry: the frame goes out of the first `j` ports of the route and nowhere else, when
    every rule on the route's switches is that switch's own. -/
theorem trail_take {link : Port → Option Port} {rules : List (Device × FlowMod)}
    {inPort : UInt32} {d : Device} {path : List (Port × Port)}
    (h : Route link d path p.egress.device) (hdist : (d :: path.map (·.2.device)).Nodup)
    (honly : ∀ q ∈ routeParams p inPort path, ∀ r ∈ rules, r.1 = q.device → r.2 = installFlowMod q)
    (j : Nat) (hmem : ∀ q ∈ routeParams p inPort path,
      (q.device, installFlowMod q) ∈ rules ↔ q ∈ (routeParams p inPort path).take j) :
    trail rules link p.ethernet (path.length + 1) ⟨d, inPort⟩ =
      (path.map Prod.fst ++ [p.egress]).take j := by
  induction path generalizing inPort d j with
  | nil =>
    cases j with
    | zero => exact trail_eq_nil p h honly (fun q hq => mt (hmem q hq).1 (by simp)) _
    | succ j =>
      obtain rfl : d = p.egress.device := h
      have hq : p.flowParam p.egress.device inPort p.egress.number ∈ routeParams p inPort [] :=
        List.mem_singleton_self _
      have hhop := hop_of_only ((hmem _ hq).2 (by simp [routeParams])) (routeParams_frame p hq)
        (honly _ hq)
      simp only [trail, SwitchParam.flowParam] at hhop ⊢
      rw [hhop]
      simp only [List.map_nil, List.nil_append, List.take_succ_cons, List.take_nil]
      cases link ⟨p.egress.device, p.egress.number⟩ <;> rfl
  | cons v path ih =>
    cases j with
    | zero => exact trail_eq_nil p h honly (fun q hq => mt (hmem q hq).1 (by simp)) _
    | succ j =>
      obtain ⟨a, b⟩ := v
      obtain ⟨rfl, hlink, hrest⟩ := h
      have hq : p.flowParam a.device inPort a.number ∈ routeParams p inPort ((a, b) :: path) :=
        List.mem_cons_self _ _
      have hhop := hop_of_only ((hmem _ hq).2 (by simp [routeParams])) (routeParams_frame p hq)
        (honly _ hq)
      have ha : (⟨a.device, a.number⟩ : Port) = a := rfl
      simp only [SwitchParam.flowParam, ha] at hhop
      rw [List.length_cons, trail, hhop]
      dsimp only
      rw [hlink]
      refine congrArg (a :: ·) (ih hrest (List.nodup_cons.1 hdist).2
        (fun q hq' => honly q (.tail _ hq')) j fun q hq' => ?_)
      have hne : q ≠ p.flowParam a.device inPort a.number := by
        rintro rfl
        have hdev := List.mem_map_of_mem (·.device) hq'
        rw [routeParams_devices p hrest] at hdev
        exact (List.nodup_cons.1 hdist).1 hdev
      rw [hmem q (.tail _ hq')]
      simp [routeParams, hne]

end Prefix

/-- A failed installation never misroutes the flow.  Whatever the factory and the sends
    answer, on a non-empty, well-formed path that visits pairwise distinct switches, the
    rules `switching` has installed take the frame from the ingress port out of the first
    ports of the route, in order, and out of no other port: where the loop stopped, the
    frame meets a switch with no rule for it. -/
theorem switching_never_misroutes (s : Net) (p : SwitchParam) (link : Port → Option Port)
    {path : List (Port × Port)}
    (hpath : p.finder.path p.ingress.device.id p.egress.device.id = path) (hne : path ≠ [])
    (hroute : Route link p.ingress.device path p.egress.device)
    (hdist : (p.ingress.device :: path.map (·.2.device)).Nodup) :
    ∃ msgs n j, after ((switching p).run s) = ⟨s.env, s.sent ++ msgs, n⟩ ∧
      trail (rulesOf msgs) link p.ethernet (path.length + 1) p.ingress =
        (path.map Prod.fst ++ [p.egress]).take j := by
  subst hpath
  have hm : rulesOf [(p.egress.device,
      .packetOut (packetOutMsg .controller (.value p.egress.number) p.rawPacket))] = [] := rfl
  have huniq := List.inj_on_of_nodup_map
    ((@routeParams_devices p link p.ingress.number _ _ hroute).symm ▸ hdist)
  obtain ⟨k, n, hk⟩ := (switching_failStop_path p hne).after_take s
  refine ⟨_, n, (k + 1) / 2, hk, trail_take p hroute hdist (fun q hq r hr hd => ?_) _ fun q hq => ?_⟩
  · obtain ⟨q', hq', rfl⟩ := (mem_rulesOf_take hm _ k).1 hr
    rw [huniq (List.mem_of_mem_take hq') hq hd]
  · rw [mem_rulesOf_take hm]
    refine ⟨fun ⟨q', hq', he⟩ => ?_, fun h => ⟨q, h, rfl⟩⟩
    rwa [huniq hq (List.mem_of_mem_take hq') (congrArg Prod.fst he)]

/-- The first send fails: the frame from `S` to `D` is not sent anywhere off its route. -/
theorem switching_never_misroutes_first_send_fails :
    ∃ msgs n j, after ((switching paramAB).run ⟨firstSendFails, [], 0⟩) =
        ⟨firstSendFails, [] ++ msgs, n⟩ ∧
      trail (rulesOf msgs) linkAB frameSD 2 ⟨switchA, 3⟩ =
        ([⟨switchA, 9⟩, ⟨switchB, 5⟩] : List Port).take j :=
  @switching_never_misroutes ⟨firstSendFails, [], 0⟩ paramAB linkAB [(⟨switchA, 9⟩, ⟨switchB, 9⟩)]
    rfl (by decide) ⟨rfl, rfl, rfl⟩ (by decide)

end Cherry.L2Switch
