import Cherry.Device.Handshake
import Cherry.Device.Registry

/-!
# The controller: every session at once

**Every connection's manager, the pool they share, and any interleaving of their handlers
and exits.  Each step of the controller is a step of the registry, so the registry's
invariants hold of the code.**

`cherryd` runs one `Manager.Run` per TCP connection, each on its own task, and the managers
share only `device.Pool`.  A `Controller` holds every connection's manager, the frames it
has written and where it is in `Run`, and the one pool.  One of its steps is one of these,
by any connection:

* `accept`: a connection is accepted, and `NewManager` and `Run` start on it;
* `deliver`: its transceiver hands an inbound message to the handler `Run` registered for
  it (`handle`); an error the handler returns goes back to the transceiver;
* `disconnect`: its transceiver returns, and `Run` calls `Pool.remove(r.DPID, r.AuxID)`;
* `finish`: `Run`'s last statement, `cancelManagers(r.DPID)` for a main connection.

A handler reads and writes its own manager and calls the pool at most once
(`handleFeaturesReplyMessage`'s `Pool.add`), so running a whole handler as one step loses no
order of the pool's calls.

The registry keeps of each session only what the pool's calls read.  `Abstracts` relates
the two levels, `Controller.step_refines` shows that a step of the controller is at most
one step of the registry, and by induction so is every run (`controller_refines_registry`).
The registry's invariants then hold of every controller state that can be reached
(`reachable_pool_entry`).
-/

namespace Cherry.Device

open Cherry.OF10

/-! ## 1. The controller and its steps -/

/-- One connection: the environment's answer to each of its writes, its manager, the frames
    written, where it is in `Run`, and whether `Cancel` has been called on it. -/
structure Conn where
  send : Nat → Option String
  mgr : Manager
  out : List Outbound
  phase : Phase
  cancelled : Bool

/-- Every connection accepted so far, by the order it was accepted in, and the pool. -/
structure Controller where
  conns : Nat → Option Conn
  next : Nat
  pool : Pool Nat

inductive Action where
  | accept (send : Nat → Option String)
  | deliver (i : Nat) (m : Inbound)
  | disconnect (i : Nat)
  | finish (i : Nat)

def Controller.init : Controller := ⟨fun _ => none, 0, .empty⟩

def Controller.session (ctl : Controller) (i : Nat) (c : Conn) : Session :=
  ⟨i, c.send, c.mgr, ctl.pool, c.out⟩

/-- The method `Manager.Cancel`, on each of the connections `ids`. -/
def cancelConns (ids : List Nat) (conns : Nat → Option Conn) : Nat → Option Conn :=
  fun j => if j ∈ ids then (conns j).map ({ · with cancelled := true }) else conns j

/-- One step, `none` when the connection is not where the step needs it. -/
def Controller.step (ctl : Controller) : Action → Option Controller
  | .accept send =>
    some { ctl with
      conns := Function.update ctl.conns ctl.next (some ⟨send, newManager, [], .running, false⟩)
      next := ctl.next + 1 }
  | .deliver i m =>
    match ctl.conns i with
    | some c =>
      if c.phase = .running then
        let s := after ((handle m).run (ctl.session i c))
        some { ctl with
          conns := Function.update ctl.conns i (some { c with mgr := s.mgr, out := s.out })
          pool := s.pool }
      else none
    | none => none
  | .disconnect i =>
    match ctl.conns i with
    | some c =>
      if c.phase = .running then
        some { ctl with
          conns := Function.update ctl.conns i (some { c with phase := .leaving })
          pool := ctl.pool.remove c.mgr.DPID c.mgr.AuxID }
      else none
    | none => none
  | .finish i =>
    match ctl.conns i with
    | some c =>
      if c.phase = .leaving then
        some { ctl with
          conns := cancelConns (if c.mgr.AuxID = 0 then ctl.pool.search c.mgr.DPID else [])
            (Function.update ctl.conns i (some { c with phase := .exited })) }
      else none
    | none => none

def Controller.run (ctl : Controller) : List Action → Option Controller
  | [] => some ctl
  | a :: as => (ctl.step a).bind (·.run as)

/-! What each step of a connection can do, as an equivalence: the guard it needs and the
controller it leaves. -/

theorem Controller.step_deliver {ctl ctl' : Controller} {i : Nat} {m : Inbound} :
    ctl.step (.deliver i m) = some ctl' ↔ ∃ c, ctl.conns i = some c ∧ c.phase = .running ∧
      ctl' = { ctl with
        conns := Function.update ctl.conns i (some { c with
          mgr := (after ((handle m).run (ctl.session i c))).mgr
          out := (after ((handle m).run (ctl.session i c))).out })
        pool := (after ((handle m).run (ctl.session i c))).pool } := by
  cases hc : ctl.conns i with
  | none => simp [Controller.step, hc]
  | some c => by_cases hp : c.phase = .running <;> simp [Controller.step, hc, hp, @eq_comm _ ctl']

theorem Controller.step_disconnect {ctl ctl' : Controller} {i : Nat} :
    ctl.step (.disconnect i) = some ctl' ↔ ∃ c, ctl.conns i = some c ∧ c.phase = .running ∧
      ctl' = { ctl with
        conns := Function.update ctl.conns i (some { c with phase := .leaving })
        pool := ctl.pool.remove c.mgr.DPID c.mgr.AuxID } := by
  cases hc : ctl.conns i with
  | none => simp [Controller.step, hc]
  | some c => by_cases hp : c.phase = .running <;> simp [Controller.step, hc, hp, @eq_comm _ ctl']

theorem Controller.step_finish {ctl ctl' : Controller} {i : Nat} :
    ctl.step (.finish i) = some ctl' ↔ ∃ c, ctl.conns i = some c ∧ c.phase = .leaving ∧
      ctl' = { ctl with
        conns := cancelConns (if c.mgr.AuxID = 0 then ctl.pool.search c.mgr.DPID else [])
          (Function.update ctl.conns i (some { c with phase := .exited })) } := by
  cases hc : ctl.conns i with
  | none => simp [Controller.step, hc]
  | some c => by_cases hp : c.phase = .leaving <;> simp [Controller.step, hc, hp, @eq_comm _ ctl']

/-! ## 2. What a handler does to the pool -/

/-- What one handler does to what the pool's calls read.  It keeps the auxiliary id and only
    appends frames; and either it keeps the datapath id and the pool, or the message is a
    FEATURES_REPLY whose burst was written, and the handler has taken its DPID, written a
    BARRIER_REQUEST and registered the session there. -/
theorem handle_registers (m : Inbound) (s : Session) :
    let s' := after ((handle m).run s)
    s'.mgr.AuxID = s.mgr.AuxID ∧ s.out <+: s'.out ∧
      ((s'.mgr.DPID = s.mgr.DPID ∧ s'.pool = s.pool) ∨
        ∃ msg, m = .featuresReply msg ∧ s'.mgr.DPID = msg.DPID ∧
          s'.pool = s.pool.add msg.DPID s.mgr.AuxID s.self ∧ .barrierRequest ∈ s'.out) := by
  dsimp only
  generalize hs' : after ((handle m).run s) = s'
  cases m with
  | hello version =>
    obtain rfl := (after_handleHelloMessage version s).symm.trans hs'
    exact ⟨rfl, List.prefix_refl _, .inl ⟨rfl, rfl⟩⟩
  | featuresReply msg =>
    simp only [handle, handleFeaturesReplyMessage_run] at hs'
    rcases sendEach_run _ s with ⟨-, hrun⟩ | ⟨k, -, e, -, -, hrun⟩ <;> rw [hrun] at hs' <;>
      subst hs'
    · exact ⟨rfl, by simp [after], .inr ⟨msg, rfl, rfl, rfl, by simp [after]⟩⟩
    · exact ⟨rfl, List.prefix_append _ _, .inl ⟨rfl, rfl⟩⟩
  | packetIn inPort data =>
    simp only [handle, handlePacketInMessage, sendPacketOut, run_logged_send, after] at hs'
    subst hs'
    exact ⟨rfl, List.prefix_append _ _, .inl ⟨rfl, rfl⟩⟩
  | _ => subst hs'; exact ⟨rfl, List.prefix_refl _, .inl ⟨rfl, rfl⟩⟩

/-! ## 3. The registry abstracts the controller -/

/-- What the registry keeps of a connection: its manager's ids, where it is in `Run`,
    whether it has been cancelled, and, once registered, that it has written its
    BARRIER_REQUEST. -/
structure Tracks (m : Member) (c : Conn) : Prop where
  DPID : m.DPID = c.mgr.DPID
  AuxID : m.AuxID = c.mgr.AuxID
  phase : m.phase = c.phase
  cancelled : m.cancelled = c.cancelled
  registered : m.registered = true → Outbound.barrierRequest ∈ c.out

/-- The registry `g` abstracts the controller `ctl`: the same sessions at the same numbers,
    each tracking its connection, and the same pool. -/
structure Abstracts (g : Registry) (ctl : Controller) : Prop where
  next : g.next = ctl.next
  pool : g.pool = ctl.pool
  sessions : ∀ i, Option.Rel Tracks (g.sessions i) (ctl.conns i)

theorem abstracts_init : Abstracts .init .init := ⟨rfl, rfl, fun _ => .none⟩

/-- A session tracking its connection, with both changed at one number and the pools
    changed alike, abstracts the changed controller. -/
theorem Abstracts.update {g : Registry} {ctl : Controller} (h : Abstracts g ctl) (i : Nat)
    {m : Member} {c : Conn} (ht : Tracks m c) {pg pc : Pool Nat} (hpool : pg = pc) :
    Abstracts { g with sessions := Function.update g.sessions i (some m), pool := pg }
      { ctl with conns := Function.update ctl.conns i (some c), pool := pc } := by
  refine ⟨h.next, hpool, fun j => ?_⟩
  by_cases hji : j = i
  · subst hji
    simpa using Option.Rel.some ht
  · simpa [Function.update_noteq hji] using h.sessions j

/-- The connection at a session's number, and what the session tracks of it. -/
theorem Abstracts.conn {g : Registry} {ctl : Controller} (h : Abstracts g ctl) {i : Nat}
    {c : Conn} (hc : ctl.conns i = some c) : ∃ m, g.sessions i = some m ∧ Tracks m c := by
  have hi := h.sessions i
  rw [hc] at hi
  generalize g.sessions i = o at hi ⊢
  cases hi with
  | some ht => exact ⟨_, rfl, ht⟩

/-- The connection a session tracks. -/
theorem Abstracts.member {g : Registry} {ctl : Controller} (h : Abstracts g ctl) {i : Nat}
    {m : Member} (hm : g.sessions i = some m) : ∃ c, ctl.conns i = some c ∧ Tracks m c := by
  have hi := h.sessions i
  rw [hm] at hi
  generalize ctl.conns i = o at hi ⊢
  cases hi with
  | some ht => exact ⟨_, rfl, ht⟩

/-- Cancelling the same sessions on both levels keeps the tracking. -/
theorem cancelConns_rel {f : Nat → Option Member} {f' : Nat → Option Conn}
    (h : ∀ j, Option.Rel Tracks (f j) (f' j)) (ids : List Nat) (j : Nat) :
    Option.Rel Tracks (cancelAll ids f j) (cancelConns ids f' j) := by
  unfold cancelAll cancelConns
  split
  · match f j, f' j, h j with
    | _, _, .some ht => exact .some ⟨ht.DPID, ht.AuxID, ht.phase, rfl, ht.registered⟩
    | _, _, .none => exact .none
  · exact h j

/-- One step of the controller is at most one step of the registry, after which the
    registry still abstracts the controller. -/
theorem step_refines {g : Registry} {ctl ctl' : Controller} {a : Action}
    (h : Abstracts g ctl) (hs : ctl.step a = some ctl') :
    ∃ es g', es.length ≤ 1 ∧ run g es = some g' ∧ Abstracts g' ctl' := by
  cases a with
  | accept send =>
    cases hs
    refine ⟨[.start 0], _, le_rfl, rfl, ⟨by simp [h.next], h.pool, fun j => ?_⟩⟩
    rw [h.next]
    by_cases hj : j = ctl.next
    · subst hj
      simpa using Option.Rel.some (⟨rfl, rfl, rfl, rfl, nofun⟩ :
        Tracks ⟨0, 0, .running, false, false⟩ ⟨send, newManager, [], .running, false⟩)
    · simpa [Function.update_noteq hj] using h.sessions j
  | deliver i msg =>
    obtain ⟨c, hc, hrun, rfl⟩ := Controller.step_deliver.mp hs
    obtain ⟨m, hm, ht⟩ := h.conn hc
    have hreg := handle_registers msg (ctl.session i c)
    generalize after ((handle msg).run (ctl.session i c)) = s' at hreg ⊢
    dsimp only [Controller.session] at hreg
    obtain ⟨haux, hout, hkeep | ⟨fr, rfl, hdpid, hpool, hbar⟩⟩ := hreg
    · refine ⟨[], g, by simp, rfl, ?_⟩
      have h' := h.update i (m := m) (c := { c with mgr := s'.mgr, out := s'.out })
        ⟨ht.DPID.trans hkeep.1.symm, ht.AuxID.trans haux.symm, ht.phase, ht.cancelled,
          fun hr => hout.subset (ht.registered hr)⟩ (h.pool.trans hkeep.2.symm)
      rwa [← hm, Function.update_eq_self] at h'
    · refine ⟨[.featuresReply i fr.DPID], _, le_rfl,
        by simpa [run] using step_featuresReply.mpr ⟨m, hm, ht.phase.trans hrun, rfl⟩, ?_⟩
      exact h.update i (m := { m with DPID := fr.DPID, registered := true })
        (c := { c with mgr := s'.mgr, out := s'.out })
        ⟨hdpid.symm, ht.AuxID.trans haux.symm, ht.phase, ht.cancelled, fun _ => hbar⟩
        (by rw [hpool, h.pool, ht.AuxID])
  | disconnect i =>
    obtain ⟨c, hc, hrun, rfl⟩ := Controller.step_disconnect.mp hs
    obtain ⟨m, hm, ht⟩ := h.conn hc
    refine ⟨[.remove i], _, le_rfl,
      by simpa [run] using step_remove.mpr ⟨m, hm, ht.phase.trans hrun, rfl⟩, ?_⟩
    exact h.update i (m := { m with phase := .leaving }) (c := { c with phase := .leaving })
      ⟨ht.DPID, ht.AuxID, rfl, ht.cancelled, ht.registered⟩ (by rw [h.pool, ht.DPID, ht.AuxID])
  | finish i =>
    obtain ⟨c, hc, hleft, rfl⟩ := Controller.step_finish.mp hs
    obtain ⟨m, hm, ht⟩ := h.conn hc
    refine ⟨[.cancelManagers i], _, le_rfl,
      by simpa [run] using step_cancelManagers.mpr ⟨m, hm, ht.phase.trans hleft, rfl⟩, ?_⟩
    have h' := h.update i (m := { m with phase := .exited }) (c := { c with phase := .exited })
      ⟨ht.DPID, ht.AuxID, rfl, ht.cancelled, ht.registered⟩ h.pool
    refine ⟨h.next, h.pool, fun j => ?_⟩
    simpa only [ht.AuxID, ht.DPID, h.pool] using
      cancelConns_rel h'.sessions (if m.AuxID = 0 then g.pool.search m.DPID else []) j

/-- Every run of the controller is a run of the registry of no more steps. -/
theorem run_refines {g : Registry} {ctl ctl' : Controller} {as : List Action}
    (h : Abstracts g ctl) (hr : ctl.run as = some ctl') :
    ∃ es g', es.length ≤ as.length ∧ run g es = some g' ∧ Abstracts g' ctl' := by
  induction as generalizing g ctl with
  | nil => cases hr; exact ⟨[], g, le_rfl, rfl, h⟩
  | cons a as ih =>
    obtain ⟨ctl₁, hs, hr⟩ := Option.bind_eq_some.mp hr
    obtain ⟨es₁, g₁, hlen₁, hrun₁, h₁⟩ := step_refines h hs
    obtain ⟨es₂, g₂, hlen₂, hrun₂, h₂⟩ := ih h₁ hr
    refine ⟨es₁ ++ es₂, g₂, ?_, by rw [run_append, hrun₁]; exact hrun₂, h₂⟩
    simp only [List.length_append, List.length_cons]
    omega

/-! ## 4. What every reachable controller keeps -/

/-- Every run of the controller from no connection, over any interleaving of accepted
    connections, delivered messages, disconnections and exits and any pattern of failed
    writes, is a run of the registry from the empty registry, of no more steps, that ends
    tracking every connection and holding the same pool. -/
theorem controller_refines_registry {as : List Action} {ctl : Controller}
    (hr : Controller.init.run as = some ctl) :
    ∃ es g, es.length ≤ as.length ∧ run .init es = some g ∧ Abstracts g ctl :=
  run_refines abstracts_init hr

def switchUp : List Action := [.accept fun _ => none, .deliver 0 (.featuresReply scenarioFeatures)]

theorem controller_refines_registry_switchUp :
    ∃ es g, es.length ≤ switchUp.length ∧ run .init es = some g ∧
      Abstracts g ((Controller.init.run switchUp).getD .init) :=
  controller_refines_registry rfl

/-- In every state the controller reaches, each pool entry `(dpid, auxID) ↦ i` names a
    connection `i` whose manager has that auxiliary id and which has written a
    BARRIER_REQUEST; and if that connection's transceiver has returned, its manager's
    datapath id is not `dpid`.  `Run`'s `Pool.remove` erased the entry at the manager's last
    DPID, so an entry left behind was made by a FEATURES_REPLY with another DPID. -/
theorem reachable_pool_entry {as : List Action} {ctl : Controller}
    (hr : Controller.init.run as = some ctl) {dpid : UInt64} {auxID : UInt8} {i : Nat}
    (hi : ctl.pool.find? dpid auxID = some i) :
    ∃ c, ctl.conns i = some c ∧ c.mgr.AuxID = auxID ∧ .barrierRequest ∈ c.out ∧
      (c.phase ≠ .running → c.mgr.DPID ≠ dpid) := by
  obtain ⟨es, g, -, hg, habs⟩ := run_refines abstracts_init hr
  rw [← habs.pool] at hi
  obtain ⟨m, hm, hreg, haux⟩ := (run_sound sound_init hg).pool_registered dpid auxID i hi
  obtain ⟨c, hc, ht⟩ := habs.member hm
  refine ⟨c, hc, ht.AuxID ▸ haux, ht.registered hreg, fun hleft hd => ?_⟩
  have hout := run_leftOut leftOut_init hg i m hm (ht.phase ▸ hleft)
  rw [ht.DPID, hd, haux] at hout
  exact hout hi

/-- The switch of `switchUp` sends a second FEATURES_REPLY with another datapath id, and
    its connection then drops. -/
def dpidChangedThenDropped : List Action :=
  switchUp ++ [.deliver 0 (.featuresReply { scenarioFeatures with DPID := 0x0A }), .disconnect 0]

theorem reachable_pool_entry_left_behind :
    ∃ c, ((Controller.init.run dpidChangedThenDropped).getD .init).conns 0 = some c ∧
      c.mgr.AuxID = 0 ∧ .barrierRequest ∈ c.out ∧
      (c.phase ≠ .running → c.mgr.DPID ≠ 0x0102030405060708) :=
  @reachable_pool_entry dpidChangedThenDropped _ rfl _ _ _ rfl

/-! ## 5. Every connection is a main connection

`NewManager` leaves `AuxID` at `0` and no handler sets it, so in this program every session
is a main connection.  The pool holds at most one session per datapath, and every `Run`
ends with `cancelManagers`. -/

def Controller.AuxZero (ctl : Controller) : Prop :=
  ∀ i c, ctl.conns i = some c → c.mgr.AuxID = 0

theorem cancelConns_eq_some {ids : List Nat} {f : Nat → Option Conn} {j : Nat} {c' : Conn}
    (h : cancelConns ids f j = some c') : ∃ c, f j = some c ∧ c'.mgr = c.mgr := by
  unfold cancelConns at h
  split at h
  · obtain ⟨c, hc, rfl⟩ := Option.map_eq_some'.mp h
    exact ⟨c, hc, rfl⟩
  · exact ⟨c', h, rfl⟩

/-- One step keeps every auxiliary id at `0`: a new manager starts there, a handler keeps
    it, and the exit steps do not touch the manager. -/
theorem Controller.step_auxZero {ctl ctl' : Controller} {a : Action} (h : ctl.AuxZero)
    (hs : ctl.step a = some ctl') : ctl'.AuxZero := by
  intro j c' hj
  cases a with
  | accept send =>
    cases hs
    rcases update_eq_some hj with ⟨-, rfl⟩ | ⟨-, hj⟩
    · rfl
    · exact h j c' hj
  | deliver i msg =>
    obtain ⟨c, hc, -, rfl⟩ := Controller.step_deliver.mp hs
    rcases update_eq_some hj with ⟨rfl, rfl⟩ | ⟨-, hj⟩
    · exact (handle_registers msg _).1.trans (h _ c hc)
    · exact h j c' hj
  | disconnect i =>
    obtain ⟨c, hc, -, rfl⟩ := Controller.step_disconnect.mp hs
    rcases update_eq_some hj with ⟨rfl, rfl⟩ | ⟨-, hj⟩
    · exact h _ c hc
    · exact h j c' hj
  | finish i =>
    obtain ⟨c, hc, -, rfl⟩ := Controller.step_finish.mp hs
    obtain ⟨c₀, hc₀, hmgr⟩ := cancelConns_eq_some hj
    rw [hmgr]
    rcases update_eq_some hc₀ with ⟨rfl, rfl⟩ | ⟨-, hc₀⟩
    · exact h _ c hc
    · exact h j c₀ hc₀

theorem Controller.run_auxZero {ctl ctl' : Controller} {as : List Action} (h : ctl.AuxZero)
    (hr : ctl.run as = some ctl') : ctl'.AuxZero := by
  induction as generalizing ctl with
  | nil => cases hr; exact h
  | cons a as ih =>
    obtain ⟨ctl₁, hs, hr⟩ := Option.bind_eq_some.mp hr
    exact ih (Controller.step_auxZero h hs) hr

/-- In every state the controller reaches, every connection's manager has auxiliary id `0`,
    so every pool entry is at auxiliary id `0`: the pool holds at most one session per
    datapath id, and the `AuxID == 0` test of `Run` never fails. -/
theorem reachable_auxID_zero {as : List Action} {ctl : Controller}
    (hr : Controller.init.run as = some ctl) :
    (∀ i c, ctl.conns i = some c → c.mgr.AuxID = 0) ∧
      ∀ dpid auxID i, ctl.pool.find? dpid auxID = some i → auxID = 0 := by
  have hzero := Controller.run_auxZero (fun _ _ h => by simp [Controller.init] at h) hr
  refine ⟨hzero, fun dpid auxID i hi => ?_⟩
  obtain ⟨es, g, -, hg, habs⟩ := run_refines abstracts_init hr
  rw [← habs.pool] at hi
  obtain ⟨m, hm, -, haux⟩ := (run_sound sound_init hg).pool_registered dpid auxID i hi
  obtain ⟨c, hc, ht⟩ := habs.member hm
  rw [← haux, ht.AuxID, hzero i c hc]

theorem reachable_auxID_zero_left_behind :
    (∀ i c, ((Controller.init.run dpidChangedThenDropped).getD .init).conns i = some c →
        c.mgr.AuxID = 0) ∧
      ∀ dpid auxID i, ((Controller.init.run dpidChangedThenDropped).getD .init).pool.find?
        dpid auxID = some i → auxID = 0 :=
  @reachable_auxID_zero dpidChangedThenDropped _ rfl

/-! ## 6. A switch that reconnects

Every session has `AuxID = 0`, so a switch that reconnects before its old session has timed
out has two sessions at one key of the pool. -/

def dpidD : UInt64 := 0x0102030405060708

/-- The switch `D` connects as session `0`, which handles the spec's FEATURES_REPLY; it
    reconnects as session `1`, which handles it too; then session `0`'s transceiver returns
    and its `Run` ends. -/
def reconnectD : List Action :=
  [.accept fun _ => none, .deliver 0 (.featuresReply scenarioFeatures), .accept fun _ => none,
    .deliver 1 (.featuresReply scenarioFeatures), .disconnect 0, .finish 0]

/-- Session `0` connects the switch and registers; the switch reconnects as session `1`,
    which registers too; then session `0` times out and exits.  Session `1` has registered,
    is running and was never cancelled, yet the pool has no session at its key: the exit of
    session `0` erased session `1`'s entry.  So it goes in the registry, and so it goes in
    the controller, where the handlers run: session `1` has written its BARRIER_REQUEST and
    holds the pool's entry, until session `0`'s `Pool.remove` erases it. -/
theorem reconnect_loses_live_session :
    (∃ g₁ g, run .init [.start 0, .featuresReply 0 dpidD, .start 0, .featuresReply 1 dpidD] =
        some g₁ ∧ g₁.pool.find? dpidD 0 = some 1 ∧
      step g₁ (.remove 0) >>= (step · (.cancelManagers 0)) = some g ∧
      g.sessions 1 = some ⟨dpidD, 0, .running, true, false⟩ ∧ g.pool.find? dpidD 0 = none) ∧
    ∃ ctl₁ ctl c, Controller.init.run (reconnectD.take 4) = some ctl₁ ∧
      ctl₁.pool.find? dpidD 0 = some 1 ∧ ctl₁.run (reconnectD.drop 4) = some ctl ∧
      ctl.conns 1 = some c ∧ c.phase = .running ∧ c.cancelled = false ∧ c.mgr.DPID = dpidD ∧
      Outbound.barrierRequest ∈ c.out ∧ ctl.pool.find? dpidD 0 = none :=
  ⟨⟨_, _, rfl, rfl, rfl, rfl, rfl⟩, _, _, _, rfl, rfl, rfl, rfl, rfl, rfl, rfl, by decide, rfl⟩

end Cherry.Device
