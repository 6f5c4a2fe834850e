import Cherry.Device.Pool
import Mathlib.Logic.Function.Basic

/-!
# Sessions and the device pool, over every interleaving

**What `Manager.Run`, `handleFeaturesReplyMessage` and `cancelManagers` do to the pool when
any number of sessions start, register and exit in any order.**

Each TCP connection runs one `Manager` on its own task; the pool is the only state they
share.  Of a session, the registry path reads its `DPID`, its `AuxID`, where it is in `Run`,
whether it has registered and whether it has been cancelled.  One step of the system is one
of these, by any session:

* `start`: `NewManager` and `Run`.  The source never sets `AuxID`, so every session of the
  source starts with `0`; the model takes any.
* `featuresReply`: the session completes `handleFeaturesReplyMessage`, which sets `DPID`
  and calls `Pool.add(DPID, AuxID, r)`.
* `remove`: the transceiver's `Run` returns, and `Run` calls `Pool.remove(r.DPID, r.AuxID)`.
* `cancelManagers`: `Run`'s last statement; for the main connection (`AuxID = 0`) every
  session `Pool.Search(DPID)` lists is cancelled.  A cancelled session keeps running until
  its own transceiver returns.

`Pool.remove` erases the entry at the key whichever session it holds.  When a switch
reconnects before its old session has timed out, both sessions have the switch's DPID and
`AuxID = 0`: the new one registers in the old one's place, and the old one's exit then
erases the new one's entry, leaving a live session out of the pool (`Controller` runs that
reconnect).
-/

namespace Cherry.Device

/-! ## 1. The registry and its steps -/

/-- Where a session is in `Manager.Run`. -/
inductive Phase where
  /-- The transceiver is running. -/
  | running
  /-- The transceiver has returned and `Pool.remove` has been called. -/
  | leaving
  /-- `Run` has returned. -/
  | exited
deriving DecidableEq, Repr

/-- What the registry path reads of one session. -/
structure Member where
  DPID : UInt64
  AuxID : UInt8
  phase : Phase
  registered : Bool
  cancelled : Bool
deriving DecidableEq, Repr

/-- Every session started so far, by the order it started in, and the pool. -/
structure Registry where
  sessions : Nat → Option Member
  next : Nat
  pool : Pool Nat

def Registry.init : Registry := ⟨fun _ => none, 0, .empty⟩

inductive Event where
  | start (auxID : UInt8)
  | featuresReply (i : Nat) (dpid : UInt64)
  | remove (i : Nat)
  | cancelManagers (i : Nat)
deriving DecidableEq, Repr

/-- The method `Manager.Cancel`, on each of the sessions `ids`. -/
def cancelAll (ids : List Nat) (sessions : Nat → Option Member) : Nat → Option Member :=
  fun j => if j ∈ ids then (sessions j).map ({ · with cancelled := true }) else sessions j

/-- One step, `none` when the session is not where the step needs it. -/
def step (g : Registry) : Event → Option Registry
  | .start auxID =>
    some { g with
      sessions := Function.update g.sessions g.next (some ⟨0, auxID, .running, false, false⟩)
      next := g.next + 1 }
  | .featuresReply i dpid =>
    match g.sessions i with
    | some m =>
      if m.phase = .running then
        some { g with
          sessions := Function.update g.sessions i (some { m with DPID := dpid, registered := true })
          pool := g.pool.add dpid m.AuxID i }
      else none
    | none => none
  | .remove i =>
    match g.sessions i with
    | some m =>
      if m.phase = .running then
        some { g with
          sessions := Function.update g.sessions i (some { m with phase := .leaving })
          pool := g.pool.remove m.DPID m.AuxID }
      else none
    | none => none
  | .cancelManagers i =>
    match g.sessions i with
    | some m =>
      if m.phase = .leaving then
        some { g with
          sessions := cancelAll (if m.AuxID = 0 then g.pool.search m.DPID else [])
            (Function.update g.sessions i (some { m with phase := .exited })) }
      else none
    | none => none

def run (g : Registry) : List Event → Option Registry
  | [] => some g
  | e :: es => (step g e).bind (run · es)

theorem run_append (g : Registry) (es es' : List Event) :
    run g (es ++ es') = (run g es).bind (run · es') := by
  induction es generalizing g with
  | nil => rfl
  | cons e es ih =>
    rw [List.cons_append]
    simp only [run, ih, Option.bind_assoc]

/-! What each step can do, as an equivalence: the guard it needs and the registry it
leaves. -/

theorem step_featuresReply {g g' : Registry} {i : Nat} {dpid : UInt64} :
    step g (.featuresReply i dpid) = some g' ↔ ∃ m, g.sessions i = some m ∧
      m.phase = .running ∧ g' = { g with
        sessions := Function.update g.sessions i (some { m with DPID := dpid, registered := true })
        pool := g.pool.add dpid m.AuxID i } := by
  cases hm : g.sessions i with
  | none => simp [step, hm]
  | some m => by_cases hp : m.phase = .running <;> simp [step, hm, hp, @eq_comm _ g']

theorem step_remove {g g' : Registry} {i : Nat} :
    step g (.remove i) = some g' ↔ ∃ m, g.sessions i = some m ∧ m.phase = .running ∧
      g' = { g with
        sessions := Function.update g.sessions i (some { m with phase := .leaving })
        pool := g.pool.remove m.DPID m.AuxID } := by
  cases hm : g.sessions i with
  | none => simp [step, hm]
  | some m => by_cases hp : m.phase = .running <;> simp [step, hm, hp, @eq_comm _ g']

theorem step_cancelManagers {g g' : Registry} {i : Nat} :
    step g (.cancelManagers i) = some g' ↔ ∃ m, g.sessions i = some m ∧ m.phase = .leaving ∧
      g' = { g with
        sessions := cancelAll (if m.AuxID = 0 then g.pool.search m.DPID else [])
          (Function.update g.sessions i (some { m with phase := .exited })) } := by
  cases hm : g.sessions i with
  | none => simp [step, hm]
  | some m => by_cases hp : m.phase = .leaving <;> simp [step, hm, hp, @eq_comm _ g']

/-! ## 2. What every interleaving keeps

Whatever the order of the steps, the pool holds only sessions that have registered, each
under its own auxiliary id, and a session's exit touches the pool only at its own key. -/

/-- The registry's invariant: sessions are numbered below `next`, and every pool entry is a
    session that has registered, under the key's auxiliary id. -/
structure Sound (g : Registry) : Prop where
  fresh : ∀ j, g.next ≤ j → g.sessions j = none
  pool_registered : ∀ dpid auxID i, g.pool.find? dpid auxID = some i →
    ∃ m, g.sessions i = some m ∧ m.registered = true ∧ m.AuxID = auxID

theorem sound_init : Sound .init := ⟨fun _ _ => rfl, fun _ _ _ h => by simp [Registry.init] at h⟩

/-- Changing one session without unregistering it or changing its auxiliary id, with a pool
    whose entries are old ones or that session's own, keeps the invariant. -/
theorem Sound.update {g : Registry} (h : Sound g) {i : Nat} {m : Member} (m' : Member)
    (hm : g.sessions i = some m) (hreg : m.registered = true → m'.registered = true)
    (haux : m'.AuxID = m.AuxID) {pool : Pool Nat}
    (hpool : ∀ d a k, pool.find? d a = some k →
      g.pool.find? d a = some k ∨ (k = i ∧ m'.registered = true ∧ a = m.AuxID)) :
    Sound { g with sessions := Function.update g.sessions i (some m'), pool := pool } := by
  have hi : i < g.next := Nat.lt_of_not_le fun hle => by simp [h.fresh i hle] at hm
  refine ⟨fun j (hj : g.next ≤ j) => ?_, fun d a k hk => ?_⟩
  · simp [Function.update_noteq (show j ≠ i by omega), h.fresh j hj]
  rcases hpool d a k hk with hk | ⟨rfl, hreg', rfl⟩
  · obtain ⟨n, hn, hnreg, hnaux⟩ := h.pool_registered d a k hk
    by_cases hki : k = i
    · subst hki
      obtain rfl := Option.some.inj (hn.symm.trans hm)
      exact ⟨m', by simp, hreg hnreg, haux.trans hnaux⟩
    · exact ⟨n, by simp [Function.update_noteq hki, hn], hnreg, hnaux⟩
  · exact ⟨m', by simp, hreg', haux⟩

/-- Cancelling sessions keeps the invariant. -/
theorem Sound.cancel {g : Registry} (h : Sound g) (ids : List Nat) :
    Sound { g with sessions := cancelAll ids g.sessions } := by
  refine ⟨fun j (hj : g.next ≤ j) => by simp [cancelAll, h.fresh j hj], fun d a k hk => ?_⟩
  obtain ⟨n, hn, hreg, haux⟩ := h.pool_registered d a k hk
  by_cases hk : k ∈ ids
  · exact ⟨{ n with cancelled := true }, by simp [cancelAll, hk, hn], hreg, haux⟩
  · exact ⟨n, by simp [cancelAll, hk, hn], hreg, haux⟩

/-- One step keeps the invariant. -/
theorem step_sound {g g' : Registry} {e : Event} (h : Sound g) (hs : step g e = some g') :
    Sound g' := by
  cases e with
  | start auxID =>
    cases hs
    refine ⟨fun j (hj : g.next + 1 ≤ j) => ?_, fun d a i hi => ?_⟩
    · simp [Function.update_noteq (show j ≠ g.next by omega), h.fresh j (by omega)]
    · obtain ⟨m, hm, hreg, haux⟩ := h.pool_registered d a i hi
      have hi : i ≠ g.next := fun hi => by simp [hi, h.fresh g.next le_rfl] at hm
      exact ⟨m, by simp [Function.update_noteq hi, hm], hreg, haux⟩
  | featuresReply i dpid =>
    simp only [step] at hs
    split at hs <;> [split at hs; cases hs] <;> cases hs
    rename_i m hm _
    refine h.update { m with DPID := dpid, registered := true } hm (fun _ => rfl) rfl
      fun d a k hk => ?_
    simp only [Pool.find?_add] at hk
    split at hk
    · simp_all
    · exact .inl hk
  | remove i =>
    simp only [step] at hs
    split at hs <;> [split at hs; cases hs] <;> cases hs
    rename_i m hm _
    refine h.update { m with phase := .leaving } hm id rfl fun d a k hk => ?_
    simp only [Pool.find?_remove] at hk
    split at hk
    · cases hk
    · exact .inl hk
  | cancelManagers i =>
    simp only [step] at hs
    split at hs <;> [split at hs; cases hs] <;> cases hs
    rename_i m hm _
    exact (h.update { m with phase := .exited } hm id rfl fun _ _ _ hk => .inl hk).cancel _

/-- Every run from any sound registry keeps the invariant. -/
theorem run_sound {g g' : Registry} {es : List Event} (h : Sound g) (hr : run g es = some g') :
    Sound g' := by
  induction es generalizing g with
  | nil => cases hr; exact h
  | cons e es ih =>
    simp only [run, Option.bind_eq_some] at hr
    obtain ⟨g₁, hs, hr⟩ := hr
    exact ih (step_sound h hs) hr

/-- Over every interleaving of sessions from the empty registry, the pool holds at each key
    `(DPID, AuxID)` only a session that has registered and whose `AuxID` is the key's. -/
theorem reachable_pool_registered {es : List Event} {g : Registry}
    (hr : run .init es = some g) (dpid : UInt64) (auxID : UInt8) (i : Nat)
    (hi : g.pool.find? dpid auxID = some i) :
    ∃ m, g.sessions i = some m ∧ m.registered = true ∧ m.AuxID = auxID :=
  (run_sound sound_init hr).pool_registered dpid auxID i hi

theorem reachable_pool_registered_first_session :
    ∃ m, ((run .init [.start 0, .featuresReply 0 1]).getD .init).sessions 0 = some m ∧
      m.registered = true ∧ m.AuxID = 0 :=
  @reachable_pool_registered [.start 0, .featuresReply 0 1]
    ((run .init [.start 0, .featuresReply 0 1]).getD .init) rfl 1 0 0 rfl

/-- A session that has left the transceiver is not in the pool at its own key. -/
def LeftOut (g : Registry) : Prop :=
  ∀ i m, g.sessions i = some m → m.phase ≠ .running → g.pool.find? m.DPID m.AuxID ≠ some i

theorem leftOut_init : LeftOut .init := fun _ _ h => by simp [Registry.init] at h

/-- Cancelling changes neither a session's ids nor where it is in `Run`. -/
theorem cancelAll_eq_some {ids : List Nat} {f : Nat → Option Member} {j : Nat} {m' : Member}
    (h : cancelAll ids f j = some m') :
    ∃ m, f j = some m ∧ m'.DPID = m.DPID ∧ m'.AuxID = m.AuxID ∧ m'.phase = m.phase := by
  unfold cancelAll at h
  split at h
  · obtain ⟨m, hm, rfl⟩ := Option.map_eq_some'.mp h
    exact ⟨m, hm, rfl, rfl, rfl⟩
  · exact ⟨m', h, rfl, rfl, rfl⟩

/-- A session after a step that set session `i`: the one set, or one that was there. -/
theorem update_eq_some {α : Type} {f : Nat → Option α} {i j : Nat} {m n : α}
    (h : Function.update f i (some m) j = some n) : j = i ∧ n = m ∨ j ≠ i ∧ f j = some n := by
  by_cases hji : j = i
  · subst hji
    exact .inl ⟨rfl, by simpa [eq_comm] using h⟩
  · exact .inr ⟨hji, by simpa [Function.update_noteq hji] using h⟩

/-- One step keeps every session that has left out of the pool at its own key: `remove`
    erases that key, a session adds only itself and only while running, and nothing else
    changes a session's ids once it has left. -/
theorem step_leftOut {g g' : Registry} {e : Event} (h : LeftOut g) (hs : step g e = some g') :
    LeftOut g' := by
  intro j n hj hn
  cases e with
  | start auxID =>
    cases hs
    rcases update_eq_some hj with ⟨-, rfl⟩ | ⟨-, hj⟩
    · exact absurd rfl hn
    · exact h j n hj hn
  | featuresReply i dpid =>
    obtain ⟨m, -, hrun, rfl⟩ := step_featuresReply.mp hs
    rcases update_eq_some hj with ⟨-, rfl⟩ | ⟨hji, hj⟩
    · exact absurd hrun hn
    · simp only [Pool.find?_add]
      split
      · simpa using Ne.symm hji
      · exact h j n hj hn
  | remove i =>
    obtain ⟨m, -, -, rfl⟩ := step_remove.mp hs
    simp only [Pool.find?_remove]
    split
    case isTrue => simp
    case isFalse hkey =>
      rcases update_eq_some hj with ⟨-, rfl⟩ | ⟨-, hj⟩
      · exact absurd rfl hkey
      · exact h j n hj hn
  | cancelManagers i =>
    obtain ⟨m, hm, hleft, rfl⟩ := step_cancelManagers.mp hs
    obtain ⟨n₀, hn₀, hd, ha, hp⟩ := cancelAll_eq_some hj
    rw [hd, ha]
    rcases update_eq_some hn₀ with ⟨rfl, rfl⟩ | ⟨-, hn₀⟩
    · exact h j m hm (by simp [hleft])
    · exact h j n₀ hn₀ (hp ▸ hn)

theorem run_leftOut {g g' : Registry} {es : List Event} (h : LeftOut g)
    (hr : run g es = some g') : LeftOut g' := by
  induction es generalizing g with
  | nil => cases hr; exact h
  | cons e es ih =>
    obtain ⟨g₁, hs, hr⟩ := Option.bind_eq_some.mp hr
    exact ih (step_leftOut h hs) hr

end Cherry.Device
