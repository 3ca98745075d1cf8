/-
  The registers of an x86-64 process, in the order in which the kernel keeps
  them, with their names and their numbers in debug information.

  * `Register.all` lists them, `Register.ofName?` finds one by its name;
  * `Register.ofDwarf?` is the System V numbering; the return address column
    (16) is no register of the process;
  * `RegisterFile` holds a value for each register.
-/
import SourceDebugger.Address

namespace SourceDebugger

inductive Register where
  | r15 | r14 | r13 | r12 | rbp | rbx | r11 | r10 | r9 | r8
  | rax | rcx | rdx | rsi | rdi | orig_rax | rip | cs | eflags | rsp | ss
  | fs_base | gs_base | ds | es | fs | gs
  deriving DecidableEq

namespace Register

/-- Every register, in the order of the kernel. -/
def all : List Register :=
  [r15, r14, r13, r12, rbp, rbx, r11, r10, r9, r8, rax, rcx, rdx, rsi, rdi, orig_rax, rip,
   cs, eflags, rsp, ss, fs_base, gs_base, ds, es, fs, gs]

def name : Register → String
  | r15 => "r15" | r14 => "r14" | r13 => "r13" | r12 => "r12" | rbp => "rbp" | rbx => "rbx"
  | r11 => "r11" | r10 => "r10" | r9 => "r9" | r8 => "r8" | rax => "rax" | rcx => "rcx"
  | rdx => "rdx" | rsi => "rsi" | rdi => "rdi" | orig_rax => "orig_rax" | rip => "rip"
  | cs => "cs" | eflags => "eflags" | rsp => "rsp" | ss => "ss" | fs_base => "fs_base"
  | gs_base => "gs_base" | ds => "ds" | es => "es" | fs => "fs" | gs => "gs"

def ofName? (s : String) : Option Register := all.find? (·.name == s)

/-- The register with a number of the System V x86-64 debug information. -/
def ofDwarf? : Nat → Option Register
  | 0 => rax | 1 => rdx | 2 => rcx | 3 => rbx | 4 => rsi | 5 => rdi | 6 => rbp | 7 => rsp
  | 8 => r8 | 9 => r9 | 10 => r10 | 11 => r11 | 12 => r12 | 13 => r13 | 14 => r14 | 15 => r15
  | 49 => eflags | 50 => es | 51 => cs | 52 => ss | 53 => ds | 54 => fs | 55 => gs
  | 58 => fs_base | 59 => gs_base
  | _ => none

/-- The number of the frame pointer in debug information. -/
def framePointerNumber : Nat := 6

/-- The position of a register in the order of the kernel. -/
def index (r : Register) : Fin 27 :=
  match r with
  | r15 => 0 | r14 => 1 | r13 => 2 | r12 => 3 | rbp => 4 | rbx => 5 | r11 => 6 | r10 => 7
  | r9 => 8 | r8 => 9 | rax => 10 | rcx => 11 | rdx => 12 | rsi => 13 | rdi => 14
  | orig_rax => 15 | rip => 16 | cs => 17 | eflags => 18 | rsp => 19 | ss => 20
  | fs_base => 21 | gs_base => 22 | ds => 23 | es => 24 | fs => 25 | gs => 26

theorem all_getElem?_index (r : Register) : all[r.index.val]? = some r := by
  cases r <;> rfl

theorem index_injective {r s : Register} (h : r.index = s.index) : r = s := by
  have hr := all_getElem?_index r
  rw [h, all_getElem?_index s] at hr
  exact (Option.some.inj hr).symm

end Register

/-- A value for each register. -/
structure RegisterFile where
  values : Vector UInt64 27
  deriving DecidableEq

namespace RegisterFile

/-- All registers zero. -/
def zero : RegisterFile := ⟨Vector.replicate 27 0⟩

def get (f : RegisterFile) (r : Register) : UInt64 := f.values[r.index]

def set (f : RegisterFile) (r : Register) (v : UInt64) : RegisterFile :=
  ⟨f.values.set r.index v⟩

theorem get_zero (r : Register) : zero.get r = 0 := by
  simp [zero, get]

@[simp] theorem get_set_self (f : RegisterFile) (r : Register) (v : UInt64) :
    (f.set r v).get r = v := by
  simp [get, set]

theorem get_set (f : RegisterFile) (r s : Register) (v : UInt64) :
    (f.set r v).get s = if r = s then v else f.get s := by
  by_cases h : r = s
  · subst h; simp
  · have hi : (r.index : Nat) ≠ s.index := fun he =>
      h (Register.index_injective (Fin.ext he))
    simp [get, set, h, hi]

end RegisterFile

end SourceDebugger
