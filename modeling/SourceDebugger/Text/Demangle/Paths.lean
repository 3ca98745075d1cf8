/-
  The newer scheme of symbol names: `_R` and a path, which may hold types and
  constants as generic arguments.  A part that occurs again is written as a
  reference to where it stands.

  * the readers (`number`, `identifier`, `nibbles`, …) read the pieces of a
    symbol from a cursor;
  * `path`, `type`, `constant` print what stands at the cursor.  Trouble found
    on the way is printed in its place, and what follows it is printed as `?`;
  * `skip?` reads a path without printing, and without following references;
  * `render` prints a symbol up to a size limit.
-/
import SourceDebugger.Text.Demangle.Elements
import SourceDebugger.Text.Demangle.Punycode
import SourceDebugger.Text.Quoted
import SourceDebugger.Text.Utf8

namespace SourceDebugger.Paths

/-! ## Reading -/

/-- What is wrong with a symbol. -/
inductive Trouble where
  | badGrammar
  | tooDeep
  deriving DecidableEq

def Trouble.message : Trouble → String
  | badGrammar => "\x7binvalid syntax\x7d"
  | tooDeep => "\x7brecursion limit reached\x7d"

/-- A position in a symbol, and how deeply what stands there is nested. -/
structure Cursor where
  position : Nat := 0
  depth : Nat := 0
  deriving DecidableEq

/-- Reads a piece of a symbol. -/
abbrev Reader (α : Type) : Type := Array Char → Cursor → Except Trouble (α × Cursor)

namespace Reader

variable {α β : Type}

def pure (a : α) : Reader α := fun _ c => .ok (a, c)

def bind (r : Reader α) (next : α → Reader β) : Reader β := fun s c =>
  match r s c with
  | .error e => .error e
  | .ok (a, c) => next a s c

instance : Monad Reader where
  pure := Reader.pure
  bind := Reader.bind

def fail (e : Trouble) : Reader α := fun _ _ => .error e

/-- Reads a character that `f` accepts. -/
def accept (f : Char → Option α) : Reader α := fun s c =>
  match s[c.position]?.bind f with
  | some a => .ok (a, { c with position := c.position + 1 })
  | none => .error .badGrammar

def char : Reader Char := accept some

/-- Reads `c` if it is next. -/
def eat (x : Char) : Reader Bool := fun s c =>
  if s[c.position]? = some x then .ok (true, { c with position := c.position + 1 })
  else .ok (false, c)

/-- The deepest nesting. -/
def maxDepth : Nat := 500

/-- Enters a nested part. -/
def enter : Reader Unit := fun _ c =>
  if c.depth < maxDepth then .ok ((), { c with depth := c.depth + 1 }) else .error .tooDeep

/-- Numbers fit into 64 bits. -/
def fits (n : Nat) : Reader Nat := if n < 2 ^ 64 then pure n else fail .badGrammar

/-- The value of a digit of base 62. -/
def digit62? (c : Char) : Option Nat :=
  if c.isDigit then some (c.toNat - '0'.toNat)
  else if c.isLower then some (c.toNat - 'a'.toNat + 10)
  else if c.isUpper then some (c.toNat - 'A'.toNat + 36)
  else none

/-- Continues a number of base 62, which ends at an underscore. -/
def number62From : Nat → Nat → Reader Nat
  | 0, _ => fail .badGrammar
  | limit + 1, n => do
    if ← eat '_' then fits (n + 1)
    else
      let d ← accept digit62?
      number62From limit (← fits (← fits (n * 62) >>= fun m => pure (m + d)))

/-- A number of base 62: an underscore is zero, digits stand for one more. -/
def number62 : Reader Nat := do
  if ← eat '_' then return 0 else fun s c => number62From (s.size + 1) 0 s c

/-- A number behind `tag`, counted from one; zero without the tag. -/
def taggedNumber (tag : Char) : Reader Nat := do
  if ← eat tag then fits ((← number62) + 1) else return 0

/-- Tells entities of one name apart. -/
def disambiguator : Reader Nat := taggedNumber 's'

/-- The kind of a name: upper case letters are special. -/
def space : Reader (Option Char) := do
  let c ← char
  if c.isUpper then return some c
  else if c.isLower then return none
  else fail .badGrammar

/-- The characters up to an underscore that are hexadecimal digits. -/
def nibblesFrom : Nat → List Char → Reader (List Char)
  | 0, _ => fail .badGrammar
  | limit + 1, digits => do
    let c ← char
    if c = '_' then return digits.reverse
    else if c.isDigit ∨ ('a' ≤ c ∧ c ≤ 'f') then nibblesFrom limit (c :: digits)
    else fail .badGrammar

def nibbles : Reader (List Char) := fun s c => nibblesFrom (s.size + 1) [] s c

/-- The position that a reference leads to.  The tag in front of it has been
    read. -/
def reference : Reader Cursor := fun s c =>
  match number62 s c with
  | .error e => .error e
  | .ok (i, after) =>
    if c.position ≤ i + 1 then .error .badGrammar
    else
      match enter s { c with position := i } with
      | .error e => .error e
      | .ok (_, target) => .ok (target, after)

end Reader

/-! ## Identifiers -/

/-- A name: plain characters, and the numbers that insert others. -/
structure Identifier where
  plain : List Char
  numbers : List Char := []
  deriving DecidableEq

namespace Identifier

def isEmpty (i : Identifier) : Bool := i.plain.isEmpty && i.numbers.isEmpty

/-- The longest name that is decoded. -/
def maxDecoded : Nat := 128

/-- The pieces in which a name is printed. -/
def pieces (i : Identifier) : List String :=
  match Punycode.decode? maxDecoded i.plain i.numbers with
  | some text => text.map fun c => String.ofList [c]
  | none =>
    if i.numbers.isEmpty then [String.ofList i.plain]
    else
      ["punycode\x7b"] ++ (if i.plain.isEmpty then [] else [String.ofList i.plain, "-"]) ++
        [String.ofList i.numbers, "\x7d"]

/-- Splits a name at its last underscore. -/
def split (name : List Char) : Identifier :=
  let numbers := (name.reverse.takeWhile (· != '_')).reverse
  ⟨name.take (name.length - numbers.length - 1), numbers⟩

end Identifier

namespace Reader

/-- Continues a decimal number as long as there are digits. -/
def decimalFrom : Nat → Nat → Reader Nat
  | 0, n => pure n
  | limit + 1, n => fun s c =>
    match accept (Numeral.digit? 10) s c with
    | .error _ => .ok (n, c)
    | .ok (d, c) => (do decimalFrom limit (← fits (n * 10 + d)) : Reader Nat) s c

/-- A length; a zero stands alone. -/
def nameLength : Reader Nat := do
  let d ← accept (Numeral.digit? 10)
  if d = 0 then return 0 else fun s c => decimalFrom s.size d s c

/-- The next `n` characters. -/
def slice (n : Nat) : Reader (List Char) := fun s c =>
  if c.position + n ≤ s.size then
    .ok ((s.extract c.position (c.position + n)).toList, { c with position := c.position + n })
  else .error .badGrammar

def identifier : Reader Identifier := do
  let isEncoded ← eat 'u'
  let n ← nameLength
  let _ ← eat '_'
  let name ← slice n
  if !isEncoded then return ⟨name, []⟩
  let i := Identifier.split name
  if i.numbers.isEmpty then fail .badGrammar else return i

end Reader

/-! ## Printing -/

structure Printer.State where
  cursor : Except Trouble Cursor := .ok {}
  /-- Text is printed; otherwise it is only read. -/
  isPrinting : Bool := true
  text : String := ""
  /-- The number of lifetimes bound around the present part. -/
  bound : Nat := 0

/-- Prints a part of a symbol.  It fails when the text has reached its largest
    size. -/
abbrev Printer (α : Type) : Type := Array Char → EStateM Unit Printer.State α

namespace Printer

variable {α : Type}

/-- The largest size of the text, in bytes. -/
def maxSize : Nat := 1000000

instance : Monad Printer where
  pure a := fun _ => pure a
  bind p next := fun s => do next (← p s) s

def get : Printer State := fun _ => EStateM.get

def update (f : State → State) : Printer Unit := fun _ => EStateM.modifyGet fun s => ((), f s)

def write (text : String) : Printer Unit := fun _ s =>
  if !s.isPrinting then .ok () s
  else if s.text.utf8ByteSize + text.utf8ByteSize ≤ maxSize then
    .ok () { s with text := s.text ++ text }
  else .error () s

def writeNumber (n : Nat) : Printer Unit := write (Numeral.decimal n)

def writeEach : List String → Printer Unit
  | [] => pure ()
  | t :: ts => do
    write t
    writeEach ts

def writeName (i : Identifier) : Printer Unit := writeEach i.pieces

/-- Prints trouble; nothing more is read from here on. -/
def trouble (e : Trouble) : Printer Unit := do
  write e.message
  update fun s => { s with cursor := .error e }

/-- Reads with `r` and goes on with `next`, unless there is trouble. -/
def read (r : Reader α) (next : α → Printer Unit) : Printer Unit := fun symbol => do
  match (← EStateM.get).cursor with
  | .error _ => write "?" symbol
  | .ok c =>
    match r symbol c with
    | .error e => trouble e symbol
    | .ok (a, c) => do
      update (fun s => { s with cursor := .ok c }) symbol
      next a symbol

/-- Reads `x` if it is next and there was no trouble. -/
def eat (x : Char) : Printer Bool := fun symbol => do
  match (← EStateM.get).cursor with
  | .error _ => return false
  | .ok c =>
    match Reader.eat x symbol c with
    | .error _ => return false
    | .ok (found, c) => do
      update (fun s => { s with cursor := .ok c }) symbol
      return found

/-- Leaves a nested part. -/
def leave : Printer Unit := update fun s =>
  { s with cursor := s.cursor.map fun c => { c with depth := c.depth - 1 } }

/-- Reads without printing. -/
def silently (p : Printer Unit) : Printer Unit := do
  let printed := (← get).isPrinting
  update fun s => { s with isPrinting := false }
  p
  update fun s => { s with isPrinting := printed }

/-- Prints with `p` what a reference leads to, unless there is trouble or
    nothing is printed. -/
def following (otherwise : α) (p : Printer α) : Printer α := fun symbol => do
  match (← EStateM.get).cursor with
  | .error _ => do
    write "?" symbol
    return otherwise
  | .ok c =>
    match Reader.reference symbol c with
    | .error e => do
      trouble e symbol
      return otherwise
    | .ok (target, after) => do
      if (← EStateM.get).isPrinting then
        update (fun s => { s with cursor := .ok target }) symbol
        let a ← p symbol
        update (fun s => { s with cursor := .ok after }) symbol
        return a
      else
        update (fun s => { s with cursor := .ok after }) symbol
        return otherwise

/-- Prints at most `limit` elements with `p` until an `E`; gives their number,
    the `i` before them included. -/
def listUpTo (p : Printer Unit) (between : String) : Nat → Nat → Printer Nat
  | 0, i => pure i
  | limit + 1, i => do
    if !(← get).cursor.isOk then return i
    else if ← eat 'E' then return i
    else
      if 0 < i then write between
      p
      listUpTo p between limit (i + 1)

/-- Prints elements with `p` until an `E`, with `between` between them; gives
    their number. -/
def list (between : String) (p : Printer Unit) : Printer Nat := fun symbol =>
  listUpTo p between (symbol.size + 1) 0 symbol

/-! ### Lifetimes -/

/-- A lifetime that is `depth` binders from the outermost. -/
def writeLifetime (depth : Nat) : Printer Unit :=
  if depth < 26 then write (String.ofList [Char.ofNat ('a'.toNat + depth)])
  else do
    write "_"
    writeNumber depth

/-- A lifetime by its distance to the innermost binder; zero is anonymous. -/
def lifetime (distance : Nat) : Printer Unit := do
  let s ← get
  if s.isPrinting then
    write "'"
    if distance = 0 then write "_"
    else if distance ≤ s.bound then writeLifetime (s.bound - distance)
    else trouble .badGrammar

/-- Binds `n` lifetimes more. -/
def bindLifetimes : Nat → Bool → Printer Unit
  | 0, _ => pure ()
  | n + 1, isFirst => do
    if !isFirst then write ", "
    update fun s => { s with bound := s.bound + 1 }
    lifetime 1
    bindLifetimes n false

/-- Prints with `p` below a binder, if there is one. -/
def binder (p : Printer Unit) : Printer Unit :=
  read (Reader.taggedNumber 'G') fun n => do
    if (← get).isPrinting then
      if 0 < n then
        write "for<"
        bindLifetimes n true
        write "> "
      p
      update fun s => { s with bound := s.bound - n }
    else p

/-! ### Constants -/

/-- The number that digits denote, if it fits into 64 bits. -/
def number? (digits : List Char) : Option Nat :=
  let digits := digits.dropWhile (· == '0')
  if 16 < digits.length then none
  else some ((Numeral.valueFrom? 16 0 digits).getD 0)

/-- An unsigned number; a large one stays in hexadecimal. -/
def unsigned : Printer Unit :=
  read Reader.nibbles fun digits =>
    match number? digits with
    | some n => writeNumber n
    | none => do
      write "0x"
      write (String.ofList digits)

/-- Characters between quotes.  The other kind of quote is not escaped. -/
def quoted (quote : Char) (cs : List Char) : Printer Unit := do
  let shown (c : Char) : List Char :=
    if c = quote then ['\\', c] else if c = '"' then [c] else Quoted.escape c
  write (String.ofList [quote])
  writeEach ((cs.flatMap shown).map fun c => String.ofList [c])
  write (String.ofList [quote])

/-- The bytes that pairs of digits denote. -/
def bytes? : List Char → Option (List UInt8)
  | [] => some []
  | [_] => none
  | a :: b :: cs => do
    let n ← Numeral.value? 16 [a, b]
    return UInt8.ofNat n :: (← bytes? cs)

/-- A text. -/
def text : Printer Unit :=
  read Reader.nibbles fun digits =>
    match (bytes? digits).bind Utf8.decode? with
    | some t => quoted '"' t.toList
    | none => trouble .badGrammar

def boolean : Printer Unit :=
  read Reader.nibbles fun digits =>
    match number? digits with
    | some 0 => write "false"
    | some 1 => write "true"
    | _ => trouble .badGrammar

def character : Printer Unit :=
  read Reader.nibbles fun digits =>
    match (number? digits).bind Punycode.scalar? with
    | some c => quoted '\'' [c]
    | none => trouble .badGrammar

/-! ### Types -/

/-- The types with names of their own. -/
def basicType? (tag : Char) : Option String :=
  [('b', "bool"), ('c', "char"), ('e', "str"), ('u', "()"), ('a', "i8"), ('s', "i16"),
   ('l', "i32"), ('x', "i64"), ('n', "i128"), ('i', "isize"), ('h', "u8"), ('t', "u16"),
   ('m', "u32"), ('y', "u64"), ('o', "u128"), ('j', "usize"), ('f', "f32"), ('d', "f64"),
   ('z', "!"), ('p', "_"), ('v', "...")].lookup tag

/-- The calling convention of a function type, none if it is the usual one. -/
def convention (next : Option String → Printer Unit) : Printer Unit := do
  if ← eat 'K' then
    if ← eat 'C' then next (some "C")
    else
      read Reader.identifier fun i =>
        if i.plain.isEmpty ∨ !i.numbers.isEmpty then trouble .badGrammar
        else next (some (String.ofList (i.plain.map fun c => if c == '_' then '-' else c)))
  else next none

/-- Prints at most `limit` names that are bound to what `p` prints, and closes
    the generic arguments. -/
def associatedUpTo (p : Printer Unit) : Nat → Bool → Printer Unit
  | 0, _ => pure ()
  | limit + 1, isOpen => do
    if ← eat 'p' then
      write (if isOpen then ", " else "<")
      read Reader.identifier fun name => do
        writeName name
        write " = "
        p
        associatedUpTo p limit true
    else if isOpen then write ">"

/-- Prints what is associated with a trait, each time with `p`, and closes the
    generic arguments. -/
def associated (isOpen : Bool) (p : Printer Unit) : Printer Unit := fun symbol =>
  associatedUpTo p (symbol.size + 1) isOpen symbol

/-- What is special about a name, and the name. -/
def writeSpecial (space : Char) (name : Identifier) (number : Nat) : Printer Unit := do
  write "::\x7b"
  write (if space = 'C' then "closure" else if space = 'S' then "shim"
    else String.ofList [space])
  if !name.isEmpty then
    write ":"
    writeName name
  write "#"
  writeNumber number
  write "\x7d"

/-- A list in parentheses; a single element has a comma behind it. -/
def tuple (p : Printer Unit) : Printer Unit := do
  write "("
  if (← list ", " p) = 1 then write ","
  write ")"

mutual

/-- Prints a path; inside of a value, generic arguments have `::` in front. -/
def path (inValue : Bool) : Nat → Printer Unit
  | 0 => trouble .tooDeep
  | fuel + 1 =>
    read Reader.enter fun _ => read Reader.char fun tag =>
      match tag with
      | 'C' =>
        read Reader.disambiguator fun _ => read Reader.identifier fun name => do
          writeName name
          leave
      | 'N' =>
        read Reader.space fun space => do
          path inValue fuel
          if !(← get).cursor.isOk then write "::"
          read Reader.disambiguator fun number => read Reader.identifier fun name => do
            match space with
            | some space => writeSpecial space name number
            | none =>
              if !name.isEmpty then
                write "::"
                writeName name
            leave
      | 'M' =>
        read Reader.disambiguator fun _ => do
          silently (path false fuel)
          qualified false fuel
          leave
      | 'X' =>
        read Reader.disambiguator fun _ => do
          silently (path false fuel)
          qualified true fuel
          leave
      | 'Y' => do
        qualified true fuel
        leave
      | 'I' => do
        path inValue fuel
        if inValue then write "::"
        write "<"
        let _ ← list ", " (genericArgument fuel)
        write ">"
        leave
      | 'B' => do
        following () (path inValue fuel)
        leave
      | _ => trouble .badGrammar

/-- Prints a type between `<` and `>`, as a trait if there is one. -/
def qualified (hasTrait : Bool) : Nat → Printer Unit
  | 0 => trouble .tooDeep
  | fuel + 1 => do
    write "<"
    type fuel
    if hasTrait then
      write " as "
      path false fuel
    write ">"

/-- Prints a lifetime, a constant or a type. -/
def genericArgument : Nat → Printer Unit
  | 0 => trouble .tooDeep
  | fuel + 1 => do
    if ← eat 'L' then read Reader.number62 lifetime
    else if ← eat 'K' then constant false fuel
    else type fuel

def type : Nat → Printer Unit
  | 0 => trouble .tooDeep
  | fuel + 1 =>
    read Reader.char fun tag =>
      match basicType? tag with
      | some name => write name
      | none => read Reader.enter fun _ => compoundType tag fuel

/-- Prints the type that begins with `tag`. -/
def compoundType (tag : Char) : Nat → Printer Unit
  | 0 => trouble .tooDeep
  | fuel + 1 => do
    match tag with
    | 'R' => referenceType "" fuel
    | 'Q' => referenceType "mut " fuel
    | 'P' => do
      write "*const "
      type fuel
      leave
    | 'O' => do
      write "*mut "
      type fuel
      leave
    | 'A' => do
      write "["
      type fuel
      write "; "
      constant true fuel
      write "]"
      leave
    | 'S' => do
      write "["
      type fuel
      write "]"
      leave
    | 'T' => do
      tuple (type fuel)
      leave
    | 'F' => do
      binder (functionType fuel)
      leave
    | 'D' => do
      write "dyn "
      binder do
        let _ ← list " + " (traitBound fuel)
      if ← eat 'L' then
        read Reader.number62 fun n => do
          if n ≠ 0 then
            write " + "
            lifetime n
          leave
      else trouble .badGrammar
    | 'B' => do
      following () (type fuel)
      leave
    | 'W' => do
      type fuel
      write " is "
      pattern fuel
      leave
    | 'w' => do
      write "#[splat] "
      type fuel
      leave
    | _ => do
      update fun s =>
        { s with cursor := s.cursor.map fun c => { c with position := c.position - 1 } }
      path false fuel
      leave

/-- Prints a reference, `mutability` being printed in front of its type. -/
def referenceType (mutability : String) : Nat → Printer Unit
  | 0 => trouble .tooDeep
  | fuel + 1 => do
    write "&"
    let rest : Printer Unit := do
      write mutability
      type fuel
      leave
    if ← eat 'L' then
      read Reader.number62 fun n => do
        if n ≠ 0 then
          lifetime n
          write " "
        rest
    else rest

def functionType : Nat → Printer Unit
  | 0 => trouble .tooDeep
  | fuel + 1 => do
    let isUnsafe ← eat 'U'
    convention fun name => do
      if isUnsafe then write "unsafe "
      match name with
      | some name => do
        write "extern \""
        write name
        write "\" "
      | none => pure ()
      write "fn("
      let _ ← list ", " (type fuel)
      write ")"
      if !(← eat 'u') then
        write " -> "
        type fuel

/-- Prints a path, of which generic arguments stay open; the result says
    whether they are. -/
def openPath : Nat → Printer Bool
  | 0 => pure false
  | fuel + 1 => do
    if ← eat 'B' then following false (openPath fuel)
    else if ← eat 'I' then
      path false fuel
      write "<"
      let _ ← list ", " (genericArgument fuel)
      return true
    else
      path false fuel
      return false

/-- Prints a trait with the types and constants that are associated with it. -/
def traitBound : Nat → Printer Unit
  | 0 => trouble .tooDeep
  | fuel + 1 => do
    let isOpen ← openPath fuel
    associated isOpen do
      if ← eat 'K' then constant false fuel else type fuel

/-- Prints which values of a type are meant: a range, alternatives, or those
    that are not null. -/
def pattern : Nat → Printer Unit
  | 0 => trouble .tooDeep
  | fuel + 1 =>
    read Reader.char fun tag =>
      match tag with
      | 'R' => do
        constant false fuel
        write "..="
        constant false fuel
      | 'O' =>
        read Reader.enter fun _ => do
          let _ ← list " | " (pattern fuel)
          leave
      | 'N' => write "!null"
      | _ => trouble .badGrammar

/-- Prints a constant; outside of a value, expressions stand in braces. -/
def constant (inValue : Bool) : Nat → Printer Unit
  | 0 => trouble .tooDeep
  | fuel + 1 =>
    read Reader.char fun tag => read Reader.enter fun _ => do
      let opening : Printer Unit := if inValue then pure () else write "\x7b"
      let closing : Printer Unit := do
        if !inValue then write "\x7d"
        leave
      match tag with
      | 'p' => do
        write "_"
        leave
      | 'h' | 't' | 'm' | 'y' | 'o' | 'j' => do
        unsigned
        leave
      | 'a' | 's' | 'l' | 'x' | 'n' | 'i' => do
        if ← eat 'n' then write "-"
        unsigned
        leave
      | 'b' => do
        boolean
        leave
      | 'c' => do
        character
        leave
      | 'e' => do
        opening
        write "*"
        text
        closing
      | 'R' => do
        if ← eat 'e' then
          text
          leave
        else
          opening
          write "&"
          constant true fuel
          closing
      | 'Q' => do
        opening
        write "&mut "
        constant true fuel
        closing
      | 'A' => do
        opening
        write "["
        let _ ← list ", " (constant true fuel)
        write "]"
        closing
      | 'T' => do
        opening
        tuple (constant true fuel)
        closing
      | 'V' => do
        opening
        path true fuel
        read Reader.char fun kind =>
          match kind with
          | 'U' => closing
          | 'T' => do
            write "("
            let _ ← list ", " (constant true fuel)
            write ")"
            closing
          | 'S' => do
            write " \x7b "
            let _ ← list ", " (read Reader.disambiguator fun _ =>
              read Reader.identifier fun name => do
                writeName name
                write ": "
                constant true fuel)
            write " \x7d"
            closing
          | _ => trouble .badGrammar
      | 'B' => do
        following () (constant inValue fuel)
        leave
      | _ => trouble .badGrammar

end

/-! ## Symbols -/

/-- The calls between two nested parts, at most. -/
def callsPerPart : Nat := 6

/-- More calls than a symbol can need, as its parts are nested at most
    `Reader.maxDepth` deep. -/
def fuel : Nat := callsPerPart * (Reader.maxDepth + 2)

/-- Reads the path at a position without printing; gives the position behind
    it. -/
def skip? (symbol : Array Char) (position : Nat) : Option Nat :=
  match path false fuel symbol { cursor := .ok { position }, isPrinting := false } with
  | .ok _ s =>
    match s.cursor with
    | .ok c => some c.position
    | .error _ => none
  | .error _ _ => none

end Printer

/-- The characters of a symbol behind its mark. -/
def body? (symbol : List Char) : Option (List Char) := do
  let cs ←
    if 2 < symbol.length then
      ((Elements.behind? "_R" symbol).or (Elements.behind? "R" symbol)).or
        (if 3 < symbol.length then Elements.behind? "__R" symbol else none)
    else if 1 < symbol.length then Elements.behind? "R" symbol
    else none
  if (cs.head?.any Char.isUpper) && cs.all (·.toNat < 0x80) then cs else none

/-- A symbol that is a path, behind which the path of the place that asked for
    it may follow.  The result has the body of the symbol and what follows the paths. -/
def ofSymbol? (symbol : List Char) : Option (Array Char × List Char) := do
  let body := (← body? symbol).toArray
  let i ← Printer.skip? body 0
  let i ← if body[i]?.any Char.isUpper then Printer.skip? body i else some i
  return (body, (body.extract i body.size).toList)

/-- The text of the path at the beginning of a body. -/
def render (body : Array Char) : String :=
  match Printer.path true Printer.fuel body {} with
  | .ok _ s => s.text
  | .error _ s => s.text ++ "\x7bsize limit reached\x7d"

end SourceDebugger.Paths
