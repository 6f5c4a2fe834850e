import Mathlib.Data.List.AList

/-!
# The device pool

**`device.Pool`: the process-wide registry of sessions by datapath id and auxiliary id.**

`manager.go` registers a session with `Pool.add(DPID, AuxID, r)` once it has handled a
FEATURES_REPLY, erases the entry at its key with `Pool.remove(DPID, AuxID)` when its
transceiver exits, and, as the main connection, cancels the sessions `Pool.Search(DPID)`
lists.  The pool itself is not in the source.  It is modelled from the spec's device
registry (§4.3): a map from `(DPID, AuxID)` to a session, with at most one session per
pair.  A Mathlib `AList`, a list of entries whose keys are distinct, carries that invariant,
so no pool with two sessions at one key can be built.
-/

namespace Cherry.Device

/-- Modelled from the spec: the device pool, a map from `(DPID, AuxID)` to the session
    registered there. -/
def Pool (σ : Type) : Type := AList fun _ : UInt64 × UInt8 => σ

namespace Pool

variable {σ : Type}

def empty : Pool σ := (∅ : AList fun _ : UInt64 × UInt8 => σ)

def find? (p : Pool σ) (dpid : UInt64) (auxID : UInt8) : Option σ :=
  AList.lookup (dpid, auxID) p

/-- Modelled from the spec: `Pool.add` registers `r` at `(dpid, auxID)`, in place of any
    session there. -/
def add (p : Pool σ) (dpid : UInt64) (auxID : UInt8) (r : σ) : Pool σ :=
  AList.insert (dpid, auxID) r p

/-- Modelled from the spec: `Pool.remove` erases the entry at `(dpid, auxID)`, whichever
    session it holds. -/
def remove (p : Pool σ) (dpid : UInt64) (auxID : UInt8) : Pool σ :=
  AList.erase (dpid, auxID) p

/-- Modelled from the spec: `Pool.Search` lists the sessions registered under `dpid`. -/
def search (p : Pool σ) (dpid : UInt64) : List σ :=
  ((AList.entries p).filter (·.1.1 = dpid)).map (·.2)

@[simp] theorem find?_empty (dpid : UInt64) (auxID : UInt8) :
    (empty : Pool σ).find? dpid auxID = none := rfl

@[simp] theorem find?_add (p : Pool σ) (dpid dpid' : UInt64) (auxID auxID' : UInt8) (r : σ) :
    (p.add dpid auxID r).find? dpid' auxID' =
      if (dpid', auxID') = (dpid, auxID) then some r else p.find? dpid' auxID' := by
  split
  case isTrue h => rw [find?, add, h, AList.lookup_insert]
  case isFalse h => exact AList.lookup_insert_ne h

@[simp] theorem find?_remove (p : Pool σ) (dpid dpid' : UInt64) (auxID auxID' : UInt8) :
    (p.remove dpid auxID).find? dpid' auxID' =
      if (dpid', auxID') = (dpid, auxID) then none else p.find? dpid' auxID' := by
  split
  case isTrue h => rw [find?, remove, h, AList.lookup_erase]
  case isFalse h => exact AList.lookup_erase_ne h

end Pool

end Cherry.Device
