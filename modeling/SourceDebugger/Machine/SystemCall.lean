/-
  Requests of a process to the kernel, by their numbers.

  * `Call.of?` is the request with a number;
  * `Child.systemCall` answers a request, `Child.systemCall32` one that is made
    as programs of 32 bits make it;
  * `Child.execute` starts another program in the place of the one that runs.
-/
import SourceDebugger.Machine.SystemCall.Children
import SourceDebugger.Machine.SystemCall.Files
import SourceDebugger.Machine.SystemCall.Signals
import SourceDebugger.Machine.SystemCall.Standing

namespace SourceDebugger.Machine

namespace Call

/-- The request with a number, and its arguments. -/
def of? (number : Nat) (x : Arguments) : Option (Call Int) :=
  onStreams? number x <|> onMemory? number x <|> onSignals? number x <|> onTime? number x <|>
    onFiles? number x <|> onChildren? number x <|> onStanding? number x

/-- The number of a request that programs of 32 bits make. -/
def numberOf32? (n : Nat) : Option Nat :=
  [(1, 60), (2, 57), (3, 0), (4, 1), (5, 2), (6, 3), (8, 85), (9, 86), (10, 87), (12, 80),
   (13, 201), (15, 90), (19, 8), (20, 39), (24, 102), (27, 37), (29, 34), (33, 21), (36, 162),
   (37, 62), (38, 82), (39, 83), (40, 84), (41, 32), (42, 22), (45, 12), (47, 104), (49, 107),
   (50, 108), (54, 16), (55, 72), (57, 109), (60, 95), (61, 161), (63, 33), (64, 110), (65, 111),
   (66, 112), (83, 88), (85, 89), (91, 11), (94, 91), (96, 140), (97, 141), (118, 74), (122, 63),
   (125, 10), (132, 121), (133, 81), (136, 135), (143, 73), (144, 26), (146, 20), (147, 124),
   (148, 75), (150, 149), (151, 150), (152, 151), (153, 152), (157, 145), (158, 24), (159, 146),
   (160, 147), (163, 25), (172, 157), (183, 79), (190, 58), (199, 102), (200, 104), (201, 107),
   (202, 108), (203, 113), (204, 114), (205, 115), (208, 117), (209, 118), (210, 119), (211, 120),
   (213, 105), (214, 106), (215, 122), (216, 123), (218, 27), (219, 28), (224, 186), (238, 200),
   (252, 231), (258, 218), (270, 234), (318, 309), (323, 284), (328, 290), (329, 291), (330, 292),
   (331, 293), (332, 294), (355, 318), (356, 319)].lookup n

end Call

namespace Child

/-- The result of a request, negative if it failed. -/
def answer (p : Child) (n : Int) : Child :=
  p.setRegister .rax (UInt64.ofNat (Width.quad.ofInt n))

def refuse (p : Child) (e : Errno) : Child := p.answer (-(e.code : Int))

/-! ## Other programs -/

/-- The largest number of arguments. -/
def argumentLimit : Nat := 4096

/-- The addresses in a list in memory, up to a zero. -/
def loadAddresses (a : Addr) : Nat → Call (List Addr)
  | 0 => throw .e2big
  | limit + 1 => do
    let next ← Call.loadNumber a wordBytes
    if next = 0 then return []
    return UInt64.ofNat next :: (← loadAddresses (a + 8) limit)

/-- The texts that a list of addresses in memory leads to.  No list is an empty
    one. -/
def loadTexts (a : Addr) : Call (List (List UInt8)) := do
  if a = 0 then return []
  (← loadAddresses a argumentLimit).mapM Call.loadText

/-- The executable at a path in memory, and the arguments it gets. -/
def loadProgram (path arguments environment : Addr) : Call (Image × List (List UInt8)) := do
  let text ← Call.loadText path
  let files ← Call.inspect (·.files)
  let (path, bytes) ← liftM (Image.find files (Utf8.lossy text))
  let texts ← loadTexts arguments
  let _ ← loadTexts environment
  let image ← liftM (Image.ofBytes path bytes)
  return (image, if texts.isEmpty then [[]] else texts)

/-- Starts another program in the place of the one that runs.  If it cannot be
    loaded, nothing is left of either. -/
def execute (p : Child) (path arguments environment : Addr) : Option Report × Child :=
  match (loadProgram path arguments environment).run.run p with
  | (.error e, p) => (none, p.refuse e)
  | (.ok (image, texts), p) =>
    let p := if p.sharesMemory then
        { p with sharesMemory := false, leftMemory := some p.thread.memory }
      else p
    match image.start? texts with
    | none =>
      (some (.signal .sigsegv kernelCode), { p with thread := { p.thread with memory := {} } })
    | some thread =>
      let thread := thread.set .orig_rax (p.get .orig_rax)
      let p := { p with
        thread, hidesTrap := false, heapStart := image.heapStart, heapStop := image.heapStart
        descriptors := p.descriptors.execute, signals := p.signals.execute
        traits := { p.traits with name := [], keepsRights := false, signalStack := {} } }
      (if p.isTraced then some (.signal .sigtrap Report.sentCode) else none, p)

/-! ## Returning from signals -/

/-- The registers in what a handler of a signal returns with, from byte 40 on. -/
def returnRegisters : List Register :=
  [.r8, .r9, .r10, .r11, .r12, .r13, .r14, .r15, .rdi, .rsi, .rbp, .rbx, .rdx, .rax, .rcx,
   .rsp, .rip]

/-- The flags that a handler can change. -/
def returnFlags : UInt64 := 0x50dd5

/-- The state of a process as it is stored on its stack for a handler. -/
def loadReturn : Call Unit := do
  let bytes ← Call.load (← Call.inspect (·.get .rsp)) 304
  let word (i : Nat) : UInt64 := Word.ofBytes ((bytes.drop i).take 8)
  let place := word 224
  if place ≠ 0 then
    let _ ← Call.load place 512
  modify fun p =>
    let p := (returnRegisters.zipIdx).foldl (fun p (r, i) => p.setRegister r (word (40 + 8 * i))) p
    let flags := (p.get .eflags &&& ~~~ returnFlags) ||| (word 176 &&& returnFlags)
    let set := Signals.without (word 296).toNat Signals.unblockable
    let p := (p.setRegister .eflags flags).setRegister .cs (word 184 &&& 0xffff ||| 3)
    { p.setRegister .orig_rax (-1) with signals := { p.signals with blocked := set } }

/-- Goes on where a handler of a signal returns to. -/
def signalReturn (p : Child) : Option Report × Child :=
  match loadReturn.run.run p with
  | (.ok (), p) =>
    (if p.get .cs = Thread.codeSegment then none else some (.signal .sigsegv kernelCode), p)
  | (.error _, p) => (some (.signal .sigsegv kernelCode), p.setRegister .rax 0)

/-! ## Requests -/

/-- The requests that a process may make that has confined itself. -/
def strictRequests : List Nat := [0, 1, 15, 60]

/-- Starts a process as some flags say.  One that would be a further thread is not
    started. -/
def clone (run : Child → Child) (p : Child) (flags : UInt64) (stack : Addr) : Child :=
  if flags.toNat.testBit 16 then p.refuse .einval
  else p.fork run stack (flags.toNat.testBit 8)

/-- The flags of a process that uses the memory of its parent. -/
def sharingFlags : UInt64 := 0x4100

/-- Makes a call of the kernel. -/
def make (p : Child) (call : Call Int) : Option Report × Child :=
  match call.run.run p with
  | (.ok n, p) => (none, p.answer n)
  | (.error e, p) => (none, p.refuse e)

/-- The request with a number.  What it reports ends or stops the process; `run`
    runs processes that it starts. -/
def request (run : Child → Child) (p : Child) (number : Nat) (x : Arguments) :
    Option Report × Child :=
  if p.traits.isStrict ∧ number ∉ strictRequests then (some (.killed .sigkill), p.finish)
  else
    match number with
    | 15 => p.signalReturn
    | 56 => (none, p.clone run x.a x.b)
    | 57 => (none, p.clone run 0 0)
    | 58 => (none, p.clone run sharingFlags 0)
    | 59 => p.execute x.a x.b x.c
    | 60 | 231 => (some (.exited (x.a.toNat % 256 : Nat)), p.finish)
    | _ =>
      match Call.of? number x with
      | none => (none, p.refuse .enosys)
      | some call => p.make call

/-- Answers a request.  The processor keeps the address behind it and the flags
    in registers. -/
def systemCall (run : Child → Child) (p : Child) : Option Report × Child :=
  let p := { p with thread :=
    ((p.thread.set .rcx (p.get .rip)).set .r11 (p.get .eflags)).set .orig_rax (p.get .rax) }
  let number := (p.get .rax).toNat % 2 ^ 32
  p.request run number
    ⟨p.get .rdi, p.get .rsi, p.get .rdx, p.get .r10, p.get .r8, p.get .r9⟩

/-- Answers a request as programs of 32 bits make it. -/
def systemCall32 (run : Child → Child) (p : Child) : Option Report × Child :=
  let low (r : Register) : UInt64 := p.get r &&& 0xffffffff
  let p := p.setRegister .orig_rax (low .rax)
  let x : Arguments := ⟨low .rbx, low .rcx, low .rdx, low .rsi, low .rdi, low .rbp⟩
  match (low .rax).toNat with
  | 192 =>
    p.make (Call.mapShort x.a x.b x.c x.d x.e32 (x.f * UInt64.ofNat pageSize))
  | n =>
    match Call.numberOf32? n with
    | none => (none, p.refuse .enosys)
    | some number => p.request run number x

end Child

end SourceDebugger.Machine
