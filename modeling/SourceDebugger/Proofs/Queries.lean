/-
  What the queries of a session answer: each gives what the resolver finds, or fails
  with a message that names what was looked for, and leaves the session as it is.
-/
import SourceDebugger.Proofs.Action
import SourceDebugger.Resolver.Queries

namespace SourceDebugger

-- answers are compared as they are written, not by `SourceLocation.same`
deriving instance DecidableEq for SourceLocation, LineEntry

namespace Resolver

open SourceDebugger.Action

variable {σ α : Type} {s s' : σ} {r : Resolver} {a : Addr}

theorem gives_found {what : String} {o : Option α} {x : α} :
    (found what o : Action σ α).Gives s (.ok x) s' ↔ o = some x ∧ s' = s := by
  cases o with
  | none => simp [found]
  | some y => simp [found, eq_comm]

/-! ## Questions about addresses -/

theorem gives_functionContaining {f : Function} :
    (r.functionContaining a).Gives s (.ok f) s' ↔ r.functionContaining? a = some f ∧ s' = s :=
  gives_log_bind.trans gives_found

theorem gives_lineEntry {entry : LineEntry} :
    (r.lineEntry a).Gives s (.ok entry) s' ↔ r.lineEntry? a = some entry ∧ s' = s :=
  gives_then_log.trans gives_found

theorem gives_functionLines {f : Function} {entries : List LineEntry} :
    (r.functionLines f).Gives s (.ok entries) s' ↔ r.functionLines? f = some entries ∧ s' = s :=
  gives_found

theorem lineEntry_fails (h : r.lineEntry? a = none) :
    (r.lineEntry a).Gives s (.error (.symbolNotFound ("line entry for " ++ a.padded))) s := by
  rw [lineEntry, h]
  exact Gives.bind_error (gives_fail.2 ⟨rfl, rfl⟩)

theorem functionLines_fails {f : Function} (h : r.functionLines? f = none) :
    (r.functionLines f).Gives s
      (.error (.symbolNotFound ("line entries of " ++ f.name.getD "<anonymous>"))) s := by
  rw [functionLines, h]
  exact gives_fail.2 ⟨rfl, rfl⟩

/-! ## Questions about names -/

theorem bodyOf_gives (name : String) (s : σ) : ∀ candidates,
    (r.bodyOf name candidates).Gives s
      ((candidates.findSome? fun (table, f) => (table.bodyAddress? f.low).map r.toRuntime).elim
        (.error (.symbolNotFound ("function " ++ name))) .ok) s
  | [] => gives_fail.2 ⟨rfl, rfl⟩
  | (table, f) :: candidates => by
    rw [bodyOf, List.findSome?_cons]
    cases hbody : table.bodyAddress? f.low with
    | none =>
      simp only [hbody]
      exact gives_log_bind.2 (bodyOf_gives name s candidates)
    | some body =>
      simp only [hbody]
      exact gives_log_bind.2 (gives_pure.2 ⟨rfl, rfl⟩)

theorem addressForFunction_gives (name : String) (s : σ) :
    (r.addressForFunction name).Gives s ((r.addressForFunction? name).elim
      (.error (.symbolNotFound ("function " ++ name))) .ok) s :=
  bodyOf_gives name s _

theorem addressForLine_gives (file : String) (line : UInt64) (s : σ) :
    (r.addressForLine file line).Gives s ((r.addressForLine? file line).elim
      (.error (.symbolNotFound (file ++ ":" ++ Numeral.decimal line.toNat))) .ok) s := by
  rw [addressForLine, addressForLine?]
  cases r.statementOn? file line with
  | none => exact Gives.bind_error (gives_fail.2 ⟨rfl, rfl⟩)
  | some row => exact gives_pure_bind.2 (gives_log_bind.2 (gives_pure.2 ⟨rfl, rfl⟩))

/-- What is given is what was found. -/
theorem eq_some_of_elim {o : Option Addr} {e : Failure} (h : o.elim (.error e) Except.ok = .ok a) :
    o = some a := by
  cases o with
  | none => cases h
  | some b =>
    cases h
    rfl

theorem gives_addressForLine {file : String} {line : UInt64} :
    (r.addressForLine file line).Gives s (.ok a) s ↔ r.addressForLine? file line = some a := by
  constructor
  · intro h
    exact eq_some_of_elim ((addressForLine_gives file line s).unique h).1
  · intro h
    have hgives := r.addressForLine_gives file line s
    rwa [h] at hgives

end Resolver

end SourceDebugger
