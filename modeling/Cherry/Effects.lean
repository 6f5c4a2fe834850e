/-!
# Go's error results as `EStateM`

**Running a computation that returns a value or an error and keeps its state either way.**

A Go function of the controller returns an `error` and leaves behind what it already did:
messages it sent stay sent.  Both the L2 switching policy and the device manager's handlers
are modelled in `EStateM`, whose `error` result keeps the state.  The lemmas here push `run`
through `pure`, `bind`, `map` and a Go `if err != nil` (`tryCatch`), each as a `match` on
the first computation's result; `after` is the state a run leaves either way.
-/

namespace Cherry

/-- The state a run leaves, whether it returned or failed. -/
def after {ε σ α : Type} : EStateM.Result ε σ α → σ
  | .ok _ s => s
  | .error _ s => s

section Run

variable {ε σ α β : Type} (s : σ)

@[simp] theorem run_pure (a : α) : (pure a : EStateM ε σ α).run s = .ok a s := rfl

@[simp] theorem run_bind (x : EStateM ε σ α) (f : α → EStateM ε σ β) :
    (x >>= f).run s = match x.run s with
      | .ok a s' => (f a).run s'
      | .error e s' => .error e s' := by
  show EStateM.bind x f s = match x s with
    | .ok a s' => f a s'
    | .error e s' => .error e s'
  simp only [EStateM.bind]
  cases x s <;> rfl

@[simp] theorem run_map (f : α → β) (x : EStateM ε σ α) :
    (f <$> x).run s = match x.run s with
      | .ok a s' => .ok (f a) s'
      | .error e s' => .error e s' := by
  show EStateM.map f x s = match x s with
    | .ok a s' => .ok (f a) s'
    | .error e s' => .error e s'
  simp only [EStateM.map]
  cases x s <;> rfl

@[simp] theorem run_tryCatch (x : EStateM ε σ α) (h : ε → EStateM ε σ α) :
    (tryCatch x h).run s = match x.run s with
      | .ok a s' => .ok a s'
      | .error e s' => (h e).run s' := by
  show EStateM.tryCatch x h s = match x s with
    | .ok a s' => .ok a s'
    | .error e s' => h e s'
  simp only [EStateM.tryCatch]
  cases x s <;> rfl

/-- A computation that returns hands its value and state to the rest of the program. -/
theorem run_bind_of_ok {s : σ} {x : EStateM ε σ α} {a : α} {s' : σ} (h : x.run s = .ok a s')
    (f : α → EStateM ε σ β) : (x >>= f).run s = (f a).run s' := by
  simp [h]

end Run

end Cherry
