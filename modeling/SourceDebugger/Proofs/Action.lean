/-
  Rules for computations that may fail.

  * `act.Gives s r s'`: begun in `s`, `act` ends with the result `r` in the
    state `s'`, whatever events it tells.  There is a rule for each building
    block, read from left to right it executes the computation;
  * `act.Keeps R`: `R` relates every state in which `act` begins to the one in
    which it ends, also if it fails.  For a preorder `R` this passes from the
    parts of a computation to the whole.
-/
import Mathlib.Order.Defs.Unbundled
import SourceDebugger.Action

namespace SourceDebugger.Action

variable {σ τ α β : Type}

/-! ## Results and states -/

/-- Begun in `s`, `act` ends with `r` in `s'`. -/
def Gives (act : Action σ α) (s : σ) (r : Except Failure α) (s' : σ) : Prop :=
  (act s).result = r ∧ (act s).state = s'

theorem gives_self (act : Action σ α) (s : σ) : act.Gives s (act s).result (act s).state :=
  ⟨rfl, rfl⟩

theorem Gives.unique {act : Action σ α} {s s₁ s₂ : σ} {r₁ r₂ : Except Failure α}
    (h₁ : act.Gives s r₁ s₁) (h₂ : act.Gives s r₂ s₂) : r₁ = r₂ ∧ s₁ = s₂ :=
  ⟨h₁.1.symm.trans h₂.1, h₁.2.symm.trans h₂.2⟩

section
variable {s s' : σ}

@[simp] theorem gives_pure {a : α} {r : Except Failure α} :
    (pure a : Action σ α).Gives s r s' ↔ r = .ok a ∧ s' = s := by
  simp [Gives, pure_eq, eq_comm]

@[simp] theorem gives_fail {e : Failure} {r : Except Failure α} :
    (fail e : Action σ α).Gives s r s' ↔ r = .error e ∧ s' = s := by
  simp [Gives, fail, eq_comm]

@[simp] theorem gives_ofExcept {r r' : Except Failure α} :
    (ofExcept r : Action σ α).Gives s r' s' ↔ r' = r ∧ s' = s := by
  simp [Gives, ofExcept, eq_comm]

@[simp] theorem gives_inspect {f : σ → α} {r : Except Failure α} :
    (inspect f).Gives s r s' ↔ r = .ok (f s) ∧ s' = s := by
  simp [Gives, inspect, eq_comm]

@[simp] theorem gives_modify {f : σ → σ} {r : Except Failure Unit} :
    (modify f).Gives s r s' ↔ r = .ok () ∧ s' = f s := by
  simp [Gives, modify, eq_comm]

@[simp] theorem gives_tell {e : Event} {r : Except Failure Unit} :
    (tell e).Gives s r s' ↔ r = .ok () ∧ s' = s := by
  simp [Gives, tell, eq_comm]

@[simp] theorem gives_log {level : LogLevel} {source : LogSource} {message : String}
    {r : Except Failure Unit} :
    (log level source message).Gives s r s' ↔ r = .ok () ∧ s' = s := gives_tell

@[simp] theorem gives_attempt {act : Action σ α} {r : Except Failure (Except Failure α)} :
    act.attempt.Gives s r s' ↔ ∃ r₀, act.Gives s r₀ s' ∧ r = .ok r₀ := by
  constructor
  · rintro ⟨rfl, rfl⟩
    exact ⟨_, ⟨rfl, rfl⟩, rfl⟩
  · rintro ⟨r₀, ⟨rfl, rfl⟩, rfl⟩
    exact ⟨rfl, rfl⟩

@[simp] theorem gives_within {get : σ → τ} {put : τ → σ → σ} {act : Action τ α}
    {r : Except Failure α} :
    (act.within get put).Gives s r s' ↔ ∃ t, act.Gives (get s) r t ∧ s' = put t s := by
  constructor
  · rintro ⟨hr, hs⟩
    exact ⟨_, ⟨hr, rfl⟩, hs.symm⟩
  · rintro ⟨t, ⟨hr, ht⟩, rfl⟩
    exact ⟨hr, by rw [← ht]; rfl⟩

/-- A sequence fails with its first part, or ends as the second part does. -/
theorem gives_bind {act : Action σ α} {next : α → Action σ β} {r : Except Failure β} :
    (act >>= next).Gives s r s' ↔
      (∃ e, act.Gives s (.error e) s' ∧ r = .error e) ∨
        ∃ a s₁, act.Gives s (.ok a) s₁ ∧ (next a).Gives s₁ r s' := by
  constructor
  · rintro ⟨rfl, rfl⟩
    rcases h : (act s).result with e | a
    · rw [bind_of_error h]
      exact Or.inl ⟨e, ⟨h, rfl⟩, rfl⟩
    · rw [bind_of_ok h]
      exact Or.inr ⟨a, _, ⟨h, rfl⟩, rfl, rfl⟩
  · rintro (⟨e, ⟨h, rfl⟩, rfl⟩ | ⟨a, s₁, ⟨h, rfl⟩, rfl, rfl⟩)
    · rw [Gives, bind_of_error h]
      exact ⟨rfl, rfl⟩
    · rw [Gives, bind_of_ok h]
      exact ⟨rfl, rfl⟩

/-- A sequence that succeeds has come through all its parts. -/
theorem gives_bind_ok {act : Action σ α} {next : α → Action σ β} {b : β} :
    (act >>= next).Gives s (.ok b) s' ↔
      ∃ a s₁, act.Gives s (.ok a) s₁ ∧ (next a).Gives s₁ (.ok b) s' := by
  simp [gives_bind]

theorem Gives.bind {act : Action σ α} {next : α → Action σ β} {a : α} {s₁ : σ}
    {r : Except Failure β} (h : act.Gives s (.ok a) s₁) (hn : (next a).Gives s₁ r s') :
    (act >>= next).Gives s r s' :=
  gives_bind.2 (Or.inr ⟨a, s₁, h, hn⟩)

theorem Gives.bind_error {act : Action σ α} {next : α → Action σ β} {e : Failure}
    (h : act.Gives s (.error e) s') : (act >>= next).Gives s (.error e) s' :=
  gives_bind.2 (Or.inl ⟨e, h, rfl⟩)

end

section
variable {s s' : σ}

/-- A sequence that begins with a look at the state. -/
@[simp high] theorem gives_inspect_bind {f : σ → α} {next : α → Action σ β}
    {r : Except Failure β} : (inspect f >>= next).Gives s r s' ↔ (next (f s)).Gives s r s' :=
  Iff.rfl

@[simp high] theorem gives_log_bind {level : LogLevel} {source : LogSource} {message : String}
    {next : Unit → Action σ β} {r : Except Failure β} :
    (log level source message >>= next).Gives s r s' ↔ (next ()).Gives s r s' :=
  Iff.rfl

@[simp high] theorem gives_modify_bind {f : σ → σ} {next : Unit → Action σ β}
    {r : Except Failure β} : (modify f >>= next).Gives s r s' ↔ (next ()).Gives (f s) r s' :=
  Iff.rfl

@[simp high] theorem gives_pure_bind {a : α} {next : α → Action σ β} {r : Except Failure β} :
    (pure a >>= next : Action σ β).Gives s r s' ↔ (next a).Gives s r s' := by
  rw [pure_bind]

theorem gives_attempt_bind {act : Action σ α} {next : Except Failure α → Action σ β}
    {r : Except Failure β} :
    (act.attempt >>= next).Gives s r s' ↔
      ∃ r₀ s₁, act.Gives s r₀ s₁ ∧ (next r₀).Gives s₁ r s' := by
  simp only [gives_bind, gives_attempt]
  constructor
  · rintro (⟨e, ⟨r₀, -, h⟩, -⟩ | ⟨a, s₁, ⟨r₀, h, ha⟩, hn⟩)
    · cases h
    · cases ha
      exact ⟨a, s₁, h, hn⟩
  · rintro ⟨r₀, s₁, h, hn⟩
    exact Or.inr ⟨r₀, s₁, ⟨r₀, h, rfl⟩, hn⟩

/-- To log a result changes nothing. -/
theorem gives_then_log {act : Action σ α} {level : LogLevel} {source : LogSource}
    {message : α → String} {r : Except Failure α} :
    (do
      let a ← act
      log level source (message a)
      return a : Action σ α).Gives s r s' ↔ act.Gives s r s' := by
  rcases r with e | a <;> simp [gives_bind]

theorem gives_map {act : Action σ α} {f : α → β} {r : Except Failure β} :
    (do return f (← act) : Action σ β).Gives s r s' ↔ ∃ r₀, act.Gives s r₀ s' ∧ r = r₀.map f := by
  simp only [gives_bind, gives_pure]
  constructor
  · rintro (⟨e, h, rfl⟩ | ⟨a, s₁, h, rfl, rfl⟩)
    · exact ⟨_, h, rfl⟩
    · exact ⟨_, h, rfl⟩
  · rintro ⟨e | a, h, rfl⟩
    · exact Or.inl ⟨e, h, rfl⟩
    · exact Or.inr ⟨a, s', h, rfl, rfl⟩

theorem gives_map_ofExcept {r : Except Failure α} {f : α → β} {r' : Except Failure β} :
    (do return f (← ofExcept r) : Action σ β).Gives s r' s' ↔ r' = r.map f ∧ s' = s := by
  simp [gives_map, and_comm, and_assoc]

/-- A sequence with a second part that cannot change the state. -/
theorem gives_bind_const {act : Action σ α} {next : Action σ β} {r : Except Failure β}
    (hn : ∀ s, next.Gives s r s) {r₀ : Except Failure α} (h : act.Gives s r₀ s') :
    (act >>= fun _ => next).Gives s (r₀.bind fun _ => r) s' := by
  rcases r₀ with e | a
  · exact h.bind_error
  · exact h.bind (hn s')

end

/-! ## Relations between states -/

/-- `R` relates every state to the one that `act` reaches from it. -/
def Keeps (R : σ → σ → Prop) (act : Action σ α) : Prop := ∀ s, R s (act s).state

theorem Keeps.of_gives {R : σ → σ → Prop} {act : Action σ α}
    (h : ∀ s r s', act.Gives s r s' → R s s') : act.Keeps R :=
  fun s => h s _ _ (gives_self act s)

theorem Keeps.gives {R : σ → σ → Prop} {act : Action σ α} (h : act.Keeps R) {s s' : σ}
    {r : Except Failure α} (hg : act.Gives s r s') : R s s' :=
  hg.2 ▸ h s

section
variable {R : σ → σ → Prop} [IsPreorder σ R]

theorem Keeps.pure (a : α) : (Pure.pure a : Action σ α).Keeps R := fun s => refl_of R s

theorem Keeps.fail (e : Failure) : (fail e : Action σ α).Keeps R := fun s => refl_of R s

theorem Keeps.ofExcept (r : Except Failure α) : (ofExcept r : Action σ α).Keeps R :=
  fun s => refl_of R s

theorem Keeps.inspect (f : σ → α) : (inspect f).Keeps R := fun s => refl_of R s

theorem Keeps.tell (e : Event) : (tell e : Action σ Unit).Keeps R := fun s => refl_of R s

theorem Keeps.log (level : LogLevel) (source : LogSource) (message : String) :
    (log level source message : Action σ Unit).Keeps R := fun s => refl_of R s

theorem Keeps.bind {act : Action σ α} {next : α → Action σ β} (h : act.Keeps R)
    (hn : ∀ a, (next a).Keeps R) : (act >>= next).Keeps R := by
  refine .of_gives fun s r s' hg => ?_
  rcases gives_bind.1 hg with ⟨e, he, -⟩ | ⟨a, s₁, h₁, h₂⟩
  · exact h.gives he
  · exact trans_of R (h.gives h₁) ((hn a).gives h₂)

end

/-- `f` has the same value in both states. -/
def Unchanged (f : σ → α) (s s' : σ) : Prop := f s' = f s

instance (f : σ → α) : IsPreorder σ (Unchanged f) where
  refl _ := rfl
  trans _ _ _ h₁ h₂ := Eq.trans h₂ h₁

/-- If `P` holds of the one state it holds of the other. -/
def Preserves (P : σ → Prop) (s s' : σ) : Prop := P s → P s'

instance (P : σ → Prop) : IsPreorder σ (Preserves P) where
  refl _ := id
  trans _ _ _ h₁ h₂ := h₂ ∘ h₁

/-- What holds of parts of the states, as a relation of the states. -/
instance (R : τ → τ → Prop) [IsPreorder τ R] (f : σ → τ) : IsPreorder σ (InvImage R f) where
  refl s := refl_of R (f s)
  trans _ _ _ h₁ h₂ := trans_of R h₁ h₂

theorem Keeps.attempt {R : σ → σ → Prop} {act : Action σ α} (h : act.Keeps R) :
    act.attempt.Keeps R := h

theorem Keeps.within {T : τ → τ → Prop} {R : σ → σ → Prop} {get : σ → τ} {put : τ → σ → σ}
    {act : Action τ α} (h : act.Keeps T) (hR : ∀ s t, T (get s) t → R s (put t s)) :
    (act.within get put).Keeps R := fun s => hR s _ (h (get s))

end SourceDebugger.Action
