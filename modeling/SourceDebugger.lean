import SourceDebugger.Action
import SourceDebugger.Address
import SourceDebugger.Arithmetic
import SourceDebugger.Breakpoint
import SourceDebugger.Bytes
import SourceDebugger.Command
import SourceDebugger.CommandLine
import SourceDebugger.CommandLine.Parameter
import SourceDebugger.Console
import SourceDebugger.DebugInfo
import SourceDebugger.DebugInfo.Load
import SourceDebugger.Debuggee
import SourceDebugger.Dwarf.Abbreviation
import SourceDebugger.Dwarf.Function
import SourceDebugger.Dwarf.LineProgram
import SourceDebugger.Dwarf.Ranges
import SourceDebugger.Dwarf.Unit
import SourceDebugger.Dwarf.Value
import SourceDebugger.Errno
import SourceDebugger.Event
import SourceDebugger.Executable
import SourceDebugger.Executable.Basic
import SourceDebugger.Executable.Coff
import SourceDebugger.Executable.Elf
import SourceDebugger.Executable.MachO
import SourceDebugger.Executable.Xcoff
import SourceDebugger.Failure
import SourceDebugger.Failure.Form
import SourceDebugger.Feedback
import SourceDebugger.FileTree
import SourceDebugger.Inflate
import SourceDebugger.Keyboard
import SourceDebugger.Launch
import SourceDebugger.Machine.AddressSpace
import SourceDebugger.Machine.Child
import SourceDebugger.Machine.Cipher
import SourceDebugger.Machine.Decode
import SourceDebugger.Machine.Decode.Fields
import SourceDebugger.Machine.Decode.FloatingStack
import SourceDebugger.Machine.Decode.Integer
import SourceDebugger.Machine.Decode.Vector
import SourceDebugger.Machine.Decode.VectorExtended
import SourceDebugger.Machine.Decode.VectorFields
import SourceDebugger.Machine.Decode.VectorFloating
import SourceDebugger.Machine.Decode.VectorMasked
import SourceDebugger.Machine.Decode.VectorSpecial
import SourceDebugger.Machine.Descriptors
import SourceDebugger.Machine.Digest
import SourceDebugger.Machine.Execute
import SourceDebugger.Machine.Execution
import SourceDebugger.Machine.Execution.Arithmetic
import SourceDebugger.Machine.Execution.Bits
import SourceDebugger.Machine.Execution.FloatingStack
import SourceDebugger.Machine.Execution.Jumps
import SourceDebugger.Machine.Execution.Strings
import SourceDebugger.Machine.Execution.Vectors
import SourceDebugger.Machine.Extended
import SourceDebugger.Machine.Fault
import SourceDebugger.Machine.Floating
import SourceDebugger.Machine.FloatingStack
import SourceDebugger.Machine.FloatingStack.Angles
import SourceDebugger.Machine.FloatingStack.Operations
import SourceDebugger.Machine.Image
import SourceDebugger.Machine.Instruction
import SourceDebugger.Machine.Lanes
import SourceDebugger.Machine.Reciprocal
import SourceDebugger.Machine.Running
import SourceDebugger.Machine.Signals
import SourceDebugger.Machine.SystemCall
import SourceDebugger.Machine.SystemCall.Children
import SourceDebugger.Machine.SystemCall.Files
import SourceDebugger.Machine.SystemCall.Memory
import SourceDebugger.Machine.SystemCall.Signals
import SourceDebugger.Machine.SystemCall.Standing
import SourceDebugger.Machine.SystemCall.Streams
import SourceDebugger.Machine.SystemCall.Time
import SourceDebugger.Machine.TextComparison
import SourceDebugger.Machine.Thread
import SourceDebugger.Machine.Traced
import SourceDebugger.Machine.Traits
import SourceDebugger.Machine.Transcendental
import SourceDebugger.Main
import SourceDebugger.MemoryMap
import SourceDebugger.Program
import SourceDebugger.Proofs.Action
import SourceDebugger.Proofs.Breakpoint
import SourceDebugger.Proofs.Chosen
import SourceDebugger.Proofs.Coherence
import SourceDebugger.Proofs.Continue
import SourceDebugger.Proofs.Debuggee
import SourceDebugger.Proofs.Detached
import SourceDebugger.Proofs.Exited
import SourceDebugger.Proofs.Failing
import SourceDebugger.Proofs.History
import SourceDebugger.Proofs.Leftover
import SourceDebugger.Proofs.Memory
import SourceDebugger.Proofs.Mirrored
import SourceDebugger.Proofs.Observed
import SourceDebugger.Proofs.Progress
import SourceDebugger.Proofs.Protocol
import SourceDebugger.Proofs.Quiet
import SourceDebugger.Proofs.Relocation
import SourceDebugger.Proofs.Session
import SourceDebugger.Proofs.Settled
import SourceDebugger.Proofs.Shifted
import SourceDebugger.Proofs.Simulated
import SourceDebugger.Proofs.SourceStep
import SourceDebugger.Proofs.Stops
import SourceDebugger.Proofs.Table
import SourceDebugger.Proofs.Temporary
import SourceDebugger.Proofs.Trace
import SourceDebugger.Proofs.Undone
import SourceDebugger.Proofs.Unreliable
import SourceDebugger.Proofs.Writing
import SourceDebugger.Register
import SourceDebugger.Resolver
import SourceDebugger.Resolver.Queries
import SourceDebugger.Session
import SourceDebugger.Simulation.Fixture
import SourceDebugger.Simulation.Memory
import SourceDebugger.Simulation.Process
import SourceDebugger.Simulation.Scripted
import SourceDebugger.SourceWindow
import SourceDebugger.StopEvent
import SourceDebugger.Text.Demangle
import SourceDebugger.Text.Demangle.Elements
import SourceDebugger.Text.Demangle.Paths
import SourceDebugger.Text.Demangle.Punycode
import SourceDebugger.Text.Lines
import SourceDebugger.Text.Numeral
import SourceDebugger.Text.Path
import SourceDebugger.Text.Printable
import SourceDebugger.Text.Quoted
import SourceDebugger.Text.Shell
import SourceDebugger.Text.Utf8
import SourceDebugger.Text.Visible
import SourceDebugger.Tracee
import SourceDebugger.Zstandard
import SourceDebugger.Zstandard.Literals
import SourceDebugger.Zstandard.Sequences
import SourceDebugger.Zstandard.StateCode
import SourceDebugger.Proofs.Place
import SourceDebugger.Proofs.Hits
import SourceDebugger.Proofs.NextRow
import SourceDebugger.Proofs.LineSequence
import SourceDebugger.Proofs.Rows
import SourceDebugger.Proofs.Bounds
import SourceDebugger.Proofs.Reported
import SourceDebugger.Proofs.CommandLoop
import SourceDebugger.Proofs.Toggling
import SourceDebugger.Proofs.Windows
import SourceDebugger.Proofs.Numeral
import SourceDebugger.Proofs.Lines
import SourceDebugger.Proofs.Command
import SourceDebugger.Proofs.SourceWindow
import SourceDebugger.Proofs.Feedback
import SourceDebugger.Proofs.SizedRead
import SourceDebugger.Proofs.Decoder
import SourceDebugger.Proofs.Entries
import SourceDebugger.Proofs.Functions
