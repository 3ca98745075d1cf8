/-
  The questions of `Resolver` as a session asks them: what is looked for and
  found goes to the log, and what is not found is a failure that names it.
  Each query gives the answer of the function of `Resolver` it is named after.
-/
import SourceDebugger.Action
import SourceDebugger.Resolver

namespace SourceDebugger.Resolver

variable {σ α : Type}

/-- The answer, or the failure that `what` is not there. -/
def found (what : String) : Option α → Action σ α
  | some a => pure a
  | none => .fail (.symbolNotFound what)

def functionContaining (r : Resolver) (a : Addr) : Action σ Function := do
  .log .trace .resolver ("get function for addr " ++ a.padded)
  found ("function containing " ++ a.padded) (r.functionContaining? a)

def lineEntry (r : Resolver) (a : Addr) : Action σ LineEntry := do
  let entry ← found ("line entry for " ++ a.padded) (r.lineEntry? a)
  .log .trace .resolver ("line entry for " ++ a.padded ++ ": " ++ entry.location.render)
  return entry

def functionLines (r : Resolver) (f : Function) : Action σ (List LineEntry) :=
  found ("line entries of " ++ f.name.getD "<anonymous>") (r.functionLines? f)

/-- The first of `candidates` that has a line entry. -/
def bodyOf (r : Resolver) (name : String) :
    List (LineTable × Function) → Action σ Addr
  | [] => .fail (.symbolNotFound ("function " ++ name))
  | (table, f) :: candidates => do
    let start := "function " ++ name ++ " at " ++ f.low.padded
    match table.bodyAddress? f.low with
    | none =>
      .log .debug .resolver (start ++ " has no line entry")
      bodyOf r name candidates
    | some a =>
      .log .debug .resolver (start ++ ", user code at " ++ a.padded)
      return r.toRuntime a

def addressForFunction (r : Resolver) (name : String) : Action σ Addr :=
  r.bodyOf name (r.functionsNamed name)

def addressForLine (r : Resolver) (file : String) (line : UInt64) : Action σ Addr := do
  let place := file ++ ":" ++ Numeral.decimal line.toNat
  let row ← found place (r.statementOn? file line)
  .log .debug .resolver (place ++ " is at " ++ row.address.padded)
  return r.toRuntime row.address

end SourceDebugger.Resolver
