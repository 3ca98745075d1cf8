/-
  Operations on the floating-point stack.

  An operation finds a result and what has happened.  An invalid operand, a
  small one or a division by zero that are not masked keep the result from
  being stored; a result that is too large or too small and may not be is
  stored with another exponent.

  * `FloatingStack.arithmetic` computes with two numbers, `FloatingStack.each`
    with the one on top;
  * `FloatingStack.compare` compares numbers, `FloatingStack.examine` tells what
    is on top;
  * `FloatingStack.toFormat?`, `FloatingStack.toInteger?` and
    `FloatingStack.toDecimal?` give what is stored in memory.
-/
import SourceDebugger.Machine.FloatingStack

namespace SourceDebugger.Machine

/-- A number that an operation reads. -/
structure StackOperand where
  /-- None if the bits stand for no value. -/
  value : Option Number
  isDenormal : Bool := false

namespace StackOperand

def ofExtended (n : Nat) : StackOperand := ⟨Extended.value? n, Extended.isDenormal n⟩

def ofFormat (f : Format) (n : Nat) : StackOperand := ⟨some (f.decode n), f.isDenormal n⟩

def ofInt (n : Int) : StackOperand := ⟨some (.ofInt n), false⟩

end StackOperand

/-- What an operation has found. -/
structure StackOutcome where
  /-- The bits of the result. -/
  result : Nat
  events : Nat := 0
  /-- The result was rounded to a larger one. -/
  isUp : Bool := false

namespace StackOutcome

/-- The result of an operation that has none. -/
def invalid : StackOutcome := ⟨Extended.indefinite, FloatingEvent.invalid.bit, false⟩

/-- A result that needs no rounding. -/
def exact (events : Nat) (x : Number) : StackOutcome := ⟨Extended.ofNumber x, events, false⟩

end StackOutcome

namespace FloatingStack

/-! ## Faults of the stack -/

/-- The mark of a fault of the stack. -/
def stackFaultBit : Nat := 2 ^ 6

/-- A number is missing, or there is no room for one. -/
def noteFault (s : FloatingStack) (isFull : Bool) : FloatingStack :=
  (s.note (stackFaultBit + FloatingEvent.invalid.bit)).setUp isFull

/-- Invalid operations go on with a result of their own. -/
def masksInvalid (s : FloatingStack) : Bool := s.control.testBit 0

/-- Goes on after a fault of the stack if that is masked. -/
def afterFault (s : FloatingStack) (isFull : Bool) (next : FloatingStack → FloatingStack) :
    FloatingStack :=
  let s := s.noteFault isFull
  if s.masksInvalid then next s else s

/-- The events that keep a result from being stored. -/
def precluding : Nat := 7

/-- Notes what an operation has found, and stores its result. -/
def finish (s : FloatingStack) (o : StackOutcome) (store : FloatingStack → FloatingStack) :
    FloatingStack :=
  if s.unmasked o.events &&& precluding = 0 then store ((s.note o.events).setUp o.isUp)
  else (s.note (o.events &&& precluding)).setUp false

/-! ## Rounding -/

/-- By how much the exponent changes of results that may not be too large or too
    small. -/
def shifted : Int := 24576

def withExponent (x : Number) (change : Int) : Number :=
  match x with
  | .finite sign m e => .finite sign m (e + change)
  | _ => x

/-- A result is larger than the number that it stands for, regardless of the
    sign. -/
def isLarger (result exact : Number) : Bool :=
  let positive (x : Number) : Number := if x.isNegative then x.negate else x
  Number.compare? (positive result) (positive exact) = some .gt

/-- Rounds a number, in addition to events that have happened before. -/
def rounded (s : FloatingStack) (precision : Format) (events : Nat) (x : Number) :
    StackOutcome :=
  if x.isNan then .exact events x
  else
    let attempt (x : Number) : Nat × Nat × Bool :=
      let (n, control) := (Extended.round precision x).run s.computing
      (n, control.raised, isLarger ((Extended.value? n).getD x) x)
    -- a result that is too large or too small even with another exponent
    let extreme (e : FloatingEvent) (isUp : Bool) (limit : Number) (change : Int) :
        StackOutcome :=
      let (n, raised, isUpThen) := attempt (withExponent x change)
      let inexact := raised &&& FloatingEvent.inexact.bit
      if raised &&& e.bit = 0 then ⟨n, events ||| e.bit ||| inexact, isUpThen⟩
      else ⟨Extended.ofNumber limit, events ||| e.bit ||| inexact, isUp⟩
    let (n, raised, isUp) := attempt x
    let stops (e : FloatingEvent) : Bool := s.unmasked raised &&& e.bit ≠ 0
    if stops .overflow then extreme .overflow true (.infinite x.isNegative) (-shifted)
    else if stops .underflow then extreme .underflow false (.finite x.isNegative 0 0) shifted
    else ⟨n, events ||| raised, isUp⟩

/-! ## Arithmetic -/

/-- Computes with two operands. -/
def computed (s : FloatingStack) (precision : Format) (a b : StackOperand)
    (op : Number → Number → Floating Number) : StackOutcome :=
  match a.value, b.value with
  | some x, some y =>
    if x.isNan || y.isNan then
      let isInvalid := x.isSignalling || y.isSignalling
      .exact (if isInvalid then FloatingEvent.invalid.bit else 0) (Extended.chosenNan x y).quiet
    else
      let (z, control) := (op x y).run s.computing
      let isDenormal := (a.isDenormal || b.isDenormal) && control.raised &&& 5 = 0
      let events := control.raised ||| if isDenormal then FloatingEvent.denormal.bit else 0
      s.rounded precision events z
  | _, _ => .invalid

/-- Computes with one operand. -/
def computedEach (s : FloatingStack) (precision : Format) (a : StackOperand)
    (op : Number → Floating Number) : StackOutcome :=
  s.computed precision a a fun x _ => op x

/-- Pops if asked to. -/
def popIf (condition : Bool) (s : FloatingStack) : FloatingStack := if condition then s.pop else s

/-- Puts a result at a depth. -/
def settle (s : FloatingStack) (target : Nat) (pops : Bool) (o : StackOutcome) : FloatingStack :=
  s.finish o fun s => popIf pops (s.put target o.result)

/-- A function of the number on top and another operand; none if it is
    missing. -/
def arithmetic (s : FloatingStack) (op : Number → Number → Floating Number) (target : Nat)
    (pops : Bool) (b : Option StackOperand) : FloatingStack :=
  match s.at? 0, b with
  | some a, some b => s.settle target pops (s.computed s.precision (.ofExtended a) b op)
  | _, _ => s.afterFault false fun s => popIf pops (s.put target Extended.indefinite)

/-- The operand at a depth. -/
def operand? (s : FloatingStack) (depth : Nat) : Option StackOperand :=
  (s.at? depth).map .ofExtended

/-- A function of the number on top, to a precision. -/
def each (s : FloatingStack) (precision : Format) (op : Number → Floating Number) :
    FloatingStack :=
  match s.operand? 0 with
  | some a => s.settle 0 false (s.computedEach precision a op)
  | none => s.afterFault false (·.put 0 Extended.indefinite)

/-- A function of the numbers on top and below it. -/
def pair (s : FloatingStack) (op : Number → Number → Floating Number) (target : Nat)
    (pops : Bool) : FloatingStack :=
  match s.operand? 0, s.operand? 1 with
  | some a, some b => s.settle target pops (s.computed .extended a b op)
  | _, _ => s.afterFault false fun s => popIf pops (s.put target Extended.indefinite)

/-! ## Loads -/

/-- Pushes a number that an operation has found.  A small one is noted, and pushed
    in any case. -/
def load (s : FloatingStack) (o : StackOutcome) : FloatingStack :=
  if s.isFull then s.afterFault true (·.push Extended.indefinite)
  else
    let s := (s.note o.events).setUp false
    if s.unmasked o.events &&& FloatingEvent.invalid.bit = 0 then s.push o.result else s

/-- A number in memory, as it is loaded. -/
def loaded (f : Format) (n : Nat) : StackOutcome :=
  let x := f.decode n
  let events := if x.isSignalling then FloatingEvent.invalid.bit
    else if f.isDenormal n then FloatingEvent.denormal.bit else 0
  .exact events x.quiet

/-- The decimal number of some bytes: two digits in each but the last one, which
    has the sign. -/
def ofDecimal (n : Nat) : Number :=
  let value := (List.range 18).foldl (fun sum i => sum + n / 16 ^ i % 16 * 10 ^ i) 0
  .finite (n.testBit 79) value 0

/-- A constant, rounded without notice. -/
def constant (s : FloatingStack) (x : Number) : StackOutcome :=
  ⟨((Extended.round .extended x).run s.computing).1, 0, false⟩

/-- Pushes the number at a depth. -/
def duplicate (s : FloatingStack) (depth : Nat) : FloatingStack :=
  if s.isFull then s.afterFault true (·.push Extended.indefinite)
  else match s.at? depth with
    | some n => (s.setUp false).push n
    | none => s.afterFault false (·.push Extended.indefinite)

/-- Exchanges the number on top with the one at a depth. -/
def exchange (s : FloatingStack) (depth : Nat) : FloatingStack :=
  let swap (s : FloatingStack) (a b : Nat) : FloatingStack := (s.put 0 b).put depth a
  match s.at? 0, s.at? depth with
  | some a, some b => swap (s.setUp false) a b
  | a, b => s.afterFault false fun s =>
      swap s (a.getD Extended.indefinite) (b.getD Extended.indefinite)

/-- Copies the number at a depth to the top if a condition holds. -/
def moveIf (s : FloatingStack) (condition : Bool) (depth : Nat) : FloatingStack :=
  match s.at? 0, s.at? depth with
  | some _, some b => if condition then (s.setUp false).put 0 b else s.setUp false
  | _, _ => s.afterFault false (·.put 0 Extended.indefinite)

/-- Copies the number on top to a depth. -/
def copy (s : FloatingStack) (depth : Nat) (pops : Bool) : FloatingStack :=
  match s.at? 0 with
  | some a => popIf pops ((s.setUp false).put depth a)
  | none => s.afterFault false fun s => popIf pops (s.put depth Extended.indefinite)

/-- Changes the sign of the number on top. -/
def sign (s : FloatingStack) (change : Bool → Bool) : FloatingStack :=
  match s.at? 0 with
  | some a => (s.setUp false).put 0 (Extended.withSign (change (Extended.isNegative a)) a)
  | none => s.afterFault false (·.put 0 Extended.indefinite)

/-! ## Comparisons -/

/-- The conditions for an order: that of operands without one is the last. -/
def conditionsOf : Option Ordering → Nat
  | some .gt => 0
  | some .lt => condition0
  | some .eq => condition3
  | none => condition0 + condition2 + condition3

/-- The order of two operands, and what happens when they are compared.  Operands
    that are no numbers are invalid, or only some of them. -/
def order (isStrict : Bool) (a b : StackOperand) : Option Ordering × Nat :=
  match a.value, b.value with
  | some x, some y =>
    let isNan := x.isNan || y.isNan
    let isInvalid := x.isSignalling || y.isSignalling || (isStrict && isNan)
    (Number.compare? x y,
      if isInvalid then FloatingEvent.invalid.bit
      else if !isNan && (a.isDenormal || b.isDenormal) then FloatingEvent.denormal.bit else 0)
  | _, _ => (none, FloatingEvent.invalid.bit)

/-- Pops `n` numbers. -/
def popMany : Nat → FloatingStack → FloatingStack
  | 0, s => s
  | n + 1, s => popMany n s.pop

/-- Compares the number on top with another one, and pops numbers unless the
    comparison is to stop the program. -/
def compare (s : FloatingStack) (isStrict : Bool) (b : Option StackOperand) (pops : Nat) :
    Option Ordering × FloatingStack :=
  let (found, events, s) := match s.operand? 0, b with
    | some a, some b =>
      let (found, events) := order isStrict a b
      (found, events, (s.note events).setUp false)
    | _, _ => (none, FloatingEvent.invalid.bit, s.noteFault false)
  (found, if s.unmasked events = 0 then popMany pops s else s)

/-- Keeps the order of two operands. -/
def setOrder (s : FloatingStack) (found : Option Ordering) : FloatingStack :=
  s.setStatus (condition0 + condition2 + condition3) (conditionsOf found)

/-- Tells what the top holds. -/
def examine (s : FloatingStack) : FloatingStack :=
  let n := s.register s.top
  let kind := match s.at? 0 with
    | none => condition0 + condition3
    | some n =>
      match Extended.value? n with
      | none => 0
      | some (.nan ..) => condition0
      | some (.infinite _) => condition0 + condition2
      | some (.finite ..) =>
        if Extended.isZero n then condition3
        else if Extended.isDenormal n then condition2 + condition3
        else condition2
  s.setStatus (condition0 + condition1 + condition2 + condition3)
    (kind + if Extended.isNegative n then condition1 else 0)

/-! ## Stores -/

/-- The events that keep a number from being stored in memory. -/
def storePrecluding : Nat := 31

/-- Stores the number on top, as a function gives it; nothing if that cannot be.
    The result without a number is `missing`. -/
def store (s : FloatingStack) (missing : Nat) (pops : Bool)
    (convert : Nat → Nat × Nat × Bool) : Option Nat × FloatingStack :=
  match s.at? 0 with
  | none =>
    let s := s.noteFault false
    if s.masksInvalid then (some missing, popIf pops s) else (none, s)
  | some a =>
    let (n, events, isUp) := convert a
    if s.unmasked events &&& storePrecluding = 0 then
      (some n, popIf pops ((s.note events).setUp isUp))
    else (none, (s.note (events &&& storePrecluding)).setUp false)

/-- The number on top in a format. -/
def toFormat? (s : FloatingStack) (f : Format) (pops : Bool) : Option Nat × FloatingStack :=
  let missing := ((f.round .indefinite).run {}).1
  s.store missing pops fun a =>
    match Extended.value? a with
    | none => (missing, FloatingEvent.invalid.bit, false)
    | some x =>
      let (n, control) := (f.round x.quiet).run s.computing
      let events := control.raised ||| if x.isSignalling then FloatingEvent.invalid.bit else 0
      (n, events, isLarger (f.decode n) x)

/-- The whole number for the number on top, if it lies between bounds. -/
def whole? (rounding : Rounding) (low high : Int) (a : Nat) : Option (Int × Nat × Bool) := do
  let x ← Extended.value? a
  let (y, isExact) := x.toIntegral rounding
  let n ← y.toInt?
  if low ≤ n ∧ n ≤ high then
    some (n, if isExact then 0 else FloatingEvent.inexact.bit, isLarger y x)
  else none

/-- The number on top as a signed whole number of so many bits. -/
def toInteger? (s : FloatingStack) (bits : Nat) (truncates pops : Bool) :
    Option Nat × FloatingStack :=
  let half := 2 ^ (bits - 1)
  let rounding := if truncates then Rounding.towardZero else s.computing.rounding
  s.store half pops fun a =>
    match whole? rounding (-(half : Int)) (half - 1) a with
    | some (n, events, isUp) => ((n % (2 * half : Int)).toNat, events, isUp)
    | none => (half, FloatingEvent.invalid.bit, false)

/-- What is stored for numbers that have no decimal form. -/
def decimalIndefinite : Nat := 0xffffc000000000000000

/-- The number on top as a decimal one. -/
def toDecimal? (s : FloatingStack) : Option Nat × FloatingStack :=
  let limit : Int := 10 ^ 18 - 1
  s.store decimalIndefinite true fun a =>
    match whole? s.computing.rounding (-limit) limit a with
    | some (n, events, isUp) =>
      let digits := (List.range 18).foldl
        (fun sum i => sum + n.natAbs / 10 ^ i % 10 * 16 ^ i) 0
      (digits + (if Extended.isNegative a then 2 ^ 79 else 0), events, isUp)
    | none => (decimalIndefinite, FloatingEvent.invalid.bit, false)

/-! ## Functions of the number on top -/

/-- Replaces the number on top by its exponent, and pushes its significand. -/
def split (s : FloatingStack) : FloatingStack :=
  let push (s : FloatingStack) (o : StackOutcome) (exponent significand : Number) :
      FloatingStack :=
    s.finish o fun s =>
      (s.put 0 (Extended.ofNumber exponent)).push (Extended.ofNumber significand)
  let spread (x : Number) : Number × Number × Nat :=
    match x with
    | .finite sign 0 _ => (.infinite true, .finite sign 0 0, FloatingEvent.divisionByZero.bit)
    | .finite sign m e => (.ofInt (e + m.log2), .finite sign m (-(m.log2 : Int)), 0)
    | .infinite _ => (.infinite false, x, 0)
    | .nan .. => (x.quiet, x.quiet, if x.isSignalling then FloatingEvent.invalid.bit else 0)
  match s.operand? 0 with
  | none =>
    s.afterFault false fun s => (s.put 0 Extended.indefinite).push Extended.indefinite
  | some a =>
    if s.isFull then
      s.afterFault true fun s => (s.put 0 Extended.indefinite).push Extended.indefinite
    else match a.value with
      | none => push s .invalid .indefinite .indefinite
      | some x =>
        let (exponent, significand, events) := spread x
        let events := events ||| if a.isDenormal then FloatingEvent.denormal.bit else 0
        push s ⟨0, events, false⟩ exponent significand

/-- The number times two to the power of another one, which is cut to a whole
    number. -/
def scaled (x y : Number) : Floating Number :=
  match y with
  | .infinite isNegative =>
    if isNegative then
      match x with
      | .infinite _ => Number.invalid
      | _ => return .finite x.isNegative 0 0
    else if x.isZero then Number.invalid
    else return .infinite x.isNegative
  | _ =>
    let limit : Int := 2 ^ 17
    let change := ((y.toIntegral .towardZero).1.toInt?).getD 0
    return withExponent x (max (-limit) (min limit change))

/-- Replaces the number on top by the next whole one. -/
def toIntegral (s : FloatingStack) : FloatingStack :=
  match s.operand? 0 with
  | none => s.afterFault false (·.put 0 Extended.indefinite)
  | some a =>
    let (rounded, isExact) :=
      (a.value.map (·.toIntegral s.computing.rounding)).getD (.indefinite, true)
    let o := s.computedEach .extended a fun _ => do
      Floating.raiseIf (!isExact) .inexact
      return rounded
    s.settle 0 false { o with isUp := (a.value.map (isLarger rounded ·)).getD false }

/-- How far apart the exponents of two numbers may be for a remainder that is
    found at once. -/
def remainderReach : Int := 64

/-- The remainder of a division, or a step towards it: the result, the lowest
    bits of the quotient, and whether more steps are needed.  The quotient is
    cut off, or rounded to the nearest number. -/
def remainderOf (isNearest : Bool) (sign : Bool) (m : Nat) (e : Int) (n : Nat) (g : Int) :
    Number × Nat × Bool :=
  let distance := (e + m.log2) - (g + n.log2)
  if distance < remainderReach then
    let low := min e g
    let (a, b) := (m * 2 ^ (e - low).toNat, n * 2 ^ (g - low).toNat)
    let (q, r) := (a / b, a % b)
    if isNearest && (b < 2 * r || (2 * r = b && q % 2 = 1)) then
      (.finite (!sign) (b - r) low, q + 1, false)
    else (.finite sign r low, q, false)
  else
    let reach := (32 + distance.toNat % 32 : Nat)
    let back := distance.toNat - reach
    let low := min e (g + back)
    let (a, b) := (m * 2 ^ (e - low).toNat, n * 2 ^ (g + back - low).toNat)
    (.finite sign (a % b) low, 0, true)

/-- Replaces the number on top by the remainder of its division by the next
    one. -/
def remainder (s : FloatingStack) (isNearest : Bool) : FloatingStack :=
  let setQuotient (s : FloatingStack) (q : Nat) (isPartial : Bool) : FloatingStack :=
    s.setStatus (condition0 + condition1 + condition2 + condition3)
      ((if isPartial then condition2 else 0) + (if q.testBit 0 then condition1 else 0) +
        (if q.testBit 1 then condition3 else 0) + if q.testBit 2 then condition0 else 0)
  match s.operand? 0, s.operand? 1 with
  | some a, some b =>
    match a.value, b.value with
    | some (.finite sign m e), some (.finite _ n g) =>
      if n = 0 then s.settle 0 false .invalid
      else
        let (r, q, isPartial) :=
          if m = 0 then (Number.finite sign 0 0, 0, false) else remainderOf isNearest sign m e n g
        let events := if a.isDenormal || b.isDenormal then FloatingEvent.denormal.bit else 0
        let o := s.rounded .extended events r
        s.finish { o with isUp := false } fun s => setQuotient (s.put 0 o.result) q isPartial
    | _, _ =>
      let o := s.computed .extended a b fun x y =>
        match x, y with
        | .finite .., .infinite _ => return x
        | _, _ => Number.invalid
      s.finish o fun s => setQuotient (s.put 0 o.result) 0 false
  | _, _ => s.afterFault false (·.put 0 Extended.indefinite)

/-! ## The whole state -/

/-- What the registers hold, two bits for each: a number, zero, something else,
    nothing. -/
def tagWord (s : FloatingStack) : Nat :=
  (List.range 8).foldl (fun sum i =>
    let n := s.register i
    let tag :=
      if !s.used.testBit i then 3
      else if Extended.isZero n then 1
      else if Extended.exponent n = 0 || Extended.exponent n = Extended.lastExponent ||
          !n.testBit 63 then 2
      else 0
    sum + tag * 4 ^ i) 0

def usedOfTags (tags : Nat) : Nat :=
  (List.range 8).foldl (fun sum i => if tags / 4 ^ i % 4 = 3 then sum else sum + 2 ^ i) 0

/-- The size of the state without the registers. -/
def environmentSize (isHalf : Bool) : Nat := if isHalf then 14 else 28

/-- The state without the registers, as it is stored: seven fields. -/
def environment (s : FloatingStack) (isHalf : Bool) : Nat :=
  let address := s.lastAddress.toNat
  let place := s.lastPlace.toNat
  if isHalf then
    let fields := [s.control, s.statusWord, s.tagWord, address % 2 ^ 16, 0, place % 2 ^ 16, 0]
    fields.foldr (fun n rest => n + 2 ^ 16 * rest) 0
  else
    let high := 0xffff0000
    let fields := [high + s.control, high + s.statusWord, high + s.tagWord, address % 2 ^ 32,
      s.lastCode * 2 ^ 16, place % 2 ^ 32, high]
    fields.foldr (fun n rest => n + 2 ^ 32 * rest) 0

def setEnvironment (s : FloatingStack) (isHalf : Bool) (n : Nat) : FloatingStack :=
  let field (i : Nat) : Nat :=
    if isHalf then n / 2 ^ (16 * i) % 2 ^ 16 else n / 2 ^ (32 * i) % 2 ^ 32
  { (s.setControl (field 0)).setStatusWord (field 1 % 2 ^ 16) with
    used := usedOfTags (field 2), lastAddress := UInt64.ofNat (field 3)
    lastCode := if isHalf then 0 else field 4 / 2 ^ 16 % 2 ^ 11
    lastPlace := UInt64.ofNat (field 5) }

/-- All registers from the top on, as they are stored. -/
def allRegisters (s : FloatingStack) : Nat :=
  (List.range 8).foldr (fun i rest => s.register (s.position i) + 2 ^ 80 * rest) 0

def setAllRegisters (s : FloatingStack) (n : Nat) : FloatingStack :=
  (List.range 8).foldl (fun s i =>
    { s with registers := s.registers.setIfInBounds (s.position i) (n / 2 ^ (80 * i) % 2 ^ 80) })
    s

/-- The number of bytes of the state without the registers, as it is stored
    beside vectors. -/
def headSize : Nat := 24

/-- The state without the registers, as it is stored beside vectors.  A bit tells
    which registers are used. -/
def head (s : FloatingStack) (isLong : Bool) : Nat :=
  let address := s.lastAddress.toNat
  let place := s.lastPlace.toNat
  let width := if isLong then 2 ^ 64 else 2 ^ 32
  s.control + 2 ^ 16 * s.statusWord + 2 ^ 32 * s.used + 2 ^ 48 * s.lastCode +
    2 ^ 64 * (address % width) + 2 ^ 128 * (place % width)

def setHead (s : FloatingStack) (isLong : Bool) (n : Nat) : FloatingStack :=
  let width := if isLong then 2 ^ 64 else 2 ^ 32
  { (s.setControl (n % 2 ^ 16)).setStatusWord (n / 2 ^ 16 % 2 ^ 16) with
    used := n / 2 ^ 32 % 2 ^ 8
    lastCode := n / 2 ^ 48 % 2 ^ 11
    lastAddress := UInt64.ofNat (n / 2 ^ 64 % width)
    lastPlace := UInt64.ofNat (n / 2 ^ 128 % width) }

/-- The registers from the top on, each in 16 bytes. -/
def spreadRegisters (s : FloatingStack) : Nat :=
  (List.range 8).foldr (fun i rest => s.register (s.position i) + 2 ^ 128 * rest) 0

/-- Eight numbers of 16 bytes as the registers from the top on. -/
def setSpreadRegisters (s : FloatingStack) (n : Nat) : FloatingStack :=
  (List.range 8).foldl (fun s i =>
    { s with registers := s.registers.setIfInBounds (s.position i) (n / 2 ^ (128 * i) % 2 ^ 80) })
    s

end FloatingStack

end SourceDebugger.Machine
