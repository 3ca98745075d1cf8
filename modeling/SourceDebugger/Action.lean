/-
  Computations on a state that may fail.  A failure does not undo anything: the
  outcome holds the state that was reached and the events until then, whether
  the computation succeeded or not.

  * `Action σ α` is a computation on `σ` with a result of type `α`;
  * `pure` and `bind` are the usual ones, `bind` stops at a failure;
  * `attempt` turns a failure into a result, `within` runs a computation on a
    part of the state;
  * the laws of a monad hold (`bind_pure`, `pure_bind`, `bind_assoc`).
-/
import SourceDebugger.Event

namespace SourceDebugger

/-- What a computation leaves: a result or a failure, the state reached, and
    the events in between. -/
structure Outcome (σ α : Type) where
  result : Except Failure α
  state : σ
  events : List Event := []

/-- A computation on a state. -/
def Action (σ α : Type) : Type := σ → Outcome σ α

namespace Action

variable {σ τ α β γ : Type}

protected def pure (a : α) : Action σ α := fun s => ⟨.ok a, s, []⟩

protected def bind (act : Action σ α) (next : α → Action σ β) : Action σ β := fun s =>
  match act s with
  | ⟨.error e, s, events⟩ => ⟨.error e, s, events⟩
  | ⟨.ok a, s, events⟩ =>
    let o := next a s
    ⟨o.result, o.state, events ++ o.events⟩

instance : Monad (Action σ) where
  pure := Action.pure
  bind := Action.bind

/-! ## Building blocks -/

def fail (e : Failure) : Action σ α := fun s => ⟨.error e, s, []⟩

def ofExcept (r : Except Failure α) : Action σ α := fun s => ⟨r, s, []⟩

/-- A value computed from the state. -/
def inspect (f : σ → α) : Action σ α := fun s => ⟨.ok (f s), s, []⟩

def modify (f : σ → σ) : Action σ Unit := fun s => ⟨.ok (), f s, []⟩

def tell (e : Event) : Action σ Unit := fun s => ⟨.ok (), s, [e]⟩

def log (level : LogLevel) (source : LogSource) (message : String) : Action σ Unit :=
  tell (.log ⟨level, source, message⟩)

/-- The result of `act`, be it a failure. -/
def attempt (act : Action σ α) : Action σ (Except Failure α) := fun s =>
  let o := act s
  ⟨.ok o.result, o.state, o.events⟩

/-- Runs `act` on the part of the state that `get` reads and `put` replaces. -/
def within (get : σ → τ) (put : τ → σ → σ) (act : Action τ α) : Action σ α := fun s =>
  let o := act (get s)
  ⟨o.result, put o.state s, o.events⟩

/-- Runs `act` from a state of its own; gives its result and the state it
    leaves. -/
def startingAt (s : τ) (act : Action τ α) : Action σ (Except Failure α × τ) := fun here =>
  let o := act s
  ⟨.ok (o.result, o.state), here, o.events⟩

/-- The words of a failed result are put into the log, the failure stays. -/
def orLog (level : LogLevel) (source : LogSource) (say : Failure → String)
    (act : Action σ α) : Action σ α := do
  match ← act.attempt with
  | .ok a => pure a
  | .error e =>
    log level source (say e)
    fail e

/-! ## Laws -/

theorem pure_eq (a : α) (s : σ) : (pure a : Action σ α) s = ⟨.ok a, s, []⟩ := rfl

theorem bind_eq (act : Action σ α) (next : α → Action σ β) (s : σ) :
    (act >>= next) s =
      match (act s).result with
      | .error e => ⟨.error e, (act s).state, (act s).events⟩
      | .ok a =>
        ⟨(next a (act s).state).result, (next a (act s).state).state,
          (act s).events ++ (next a (act s).state).events⟩ := by
  show Action.bind act next s = _
  unfold Action.bind
  rcases act s with ⟨_ | _, _, _⟩ <;> rfl

theorem bind_of_ok {act : Action σ α} {s : σ} {a : α} (h : (act s).result = .ok a)
    (next : α → Action σ β) :
    (act >>= next) s =
      ⟨(next a (act s).state).result, (next a (act s).state).state,
        (act s).events ++ (next a (act s).state).events⟩ := by
  rw [bind_eq, h]

theorem bind_of_error {act : Action σ α} {s : σ} {e : Failure}
    (h : (act s).result = .error e) (next : α → Action σ β) :
    (act >>= next) s = ⟨.error e, (act s).state, (act s).events⟩ := by
  rw [bind_eq, h]

theorem pure_bind (a : α) (next : α → Action σ β) :
    (pure a : Action σ α) >>= next = next a := by
  funext s
  rw [bind_of_ok (a := a) rfl]
  simp [pure_eq]

theorem bind_pure (act : Action σ α) : act >>= pure = act := by
  funext s
  rw [bind_eq]
  rcases h : act s with ⟨_ | _, _, _⟩ <;> simp [pure_eq]

theorem bind_assoc (act : Action σ α) (f : α → Action σ β) (g : β → Action σ γ) :
    act >>= f >>= g = act >>= fun a => f a >>= g := by
  funext s
  simp only [bind_eq]
  rcases act s with ⟨_ | a, s', events⟩
  · rfl
  · rcases h : (f a s').result with _ | _ <;> simp [h]

end Action

end SourceDebugger
