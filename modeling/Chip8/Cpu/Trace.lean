import Chip8.Banner
import Chip8.Cpu
import Chip8.Text.Hex

/-!
The state of the processor as text: one line for a trace, and the report of a crash, which adds
the call stack. Numbers have a least width and are never cut.
-/

namespace Chip8.Cpu

/-- The registers from F down to 0, two digits each. -/
private def registersText (v : Vector UInt8 16) : String :=
  String.join (v.toList.reverse.map fun byte => Text.paddedHex 2 (byte.toNat : Int))

/-- One line with the state, where its instruction was fetched, and the instruction as text. -/
def traceLine (cpu : Cpu) (instruction : String) : String :=
  "V: 0x" ++ registersText cpu.v ++
    " I: 0x" ++ Text.paddedHex 4 cpu.i ++
    " DT: 0x" ++ Text.paddedHex 2 cpu.delay ++
    " ST: 0x" ++ Text.paddedHex 2 cpu.sound ++
    " PC: 0x" ++ Text.paddedHex 3 cpu.fetchedAt ++
    " OP: 0x" ++ Text.paddedHex 4 cpu.opcode ++
    " IN: " ++ instruction

private theorem isLine_registersText (v : Vector UInt8 16) : Text.IsLine (registersText v) := by
  apply Text.isLine_join
  intro text member
  obtain ⟨byte, -, rfl⟩ := List.mem_map.mp member
  exact Text.isLine_paddedHex 2 _

theorem isLine_traceLine (cpu : Cpu) {instruction : String} (line : Text.IsLine instruction) :
    Text.IsLine (cpu.traceLine instruction) := by
  unfold traceLine
  simp only [Text.isLine_append, Text.isLine_paddedHex, isLine_registersText, line]
  decide

/-- The return addresses, oldest first. -/
private def stackText (stack : CallStack) : String :=
  if stack.isEmpty then " (Empty)"
  else String.join (stack.toList.map fun address => " 0x" ++ Text.paddedHex 3 address)

/-- The trace line and a line for the call stack. -/
def verboseTrace (cpu : Cpu) (instruction : String) : String :=
  cpu.traceLine instruction ++ "\nStack:" ++ stackText cpu.stack

/-- What is reported when a fault halts the machine. -/
def crashReport (cpu : Cpu) (instruction : String) : String :=
  "Emulation halted.\n\n" ++ Banner.intro ++ "Debug info:\n" ++ cpu.verboseTrace instruction

/-! ### Words -/

/-- The words of a line in front of its instruction: each number with a label before it. -/
def traceWords (cpu : Cpu) : List (List Char) :=
  let registers := cpu.v.toList.reverse.flatMap fun byte =>
    (Text.paddedHex 2 (byte.toNat : Int)).toList
  ["V:".toList, "0x".toList ++ registers,
    "I:".toList, "0x".toList ++ (Text.paddedHex 4 cpu.i).toList,
    "DT:".toList, "0x".toList ++ (Text.paddedHex 2 cpu.delay).toList,
    "ST:".toList, "0x".toList ++ (Text.paddedHex 2 cpu.sound).toList,
    "PC:".toList, "0x".toList ++ (Text.paddedHex 3 cpu.fetchedAt).toList,
    "OP:".toList, "0x".toList ++ (Text.paddedHex 4 cpu.opcode).toList,
    "IN:".toList]

/-- The words of the line of a call stack, behind its label. -/
def stackWords (stack : CallStack) : List (List Char) :=
  if stack.toList = [] then ["(Empty)".toList]
  else stack.toList.map fun address => "0x".toList ++ (Text.paddedHex 3 address).toList

/-- A space stands behind every word. -/
theorem toList_traceLine (cpu : Cpu) (instruction : String) :
    (cpu.traceLine instruction).toList =
      cpu.traceWords.flatMap (· ++ [' ']) ++ instruction.toList := by
  unfold traceLine registersText
  simp only [String.toList_append, String.toList_join, List.flatMap_map, List.append_assoc,
    traceWords, List.flatMap_cons, List.flatMap_nil, List.nil_append]
  rfl

/-- The line of the call stack stands behind a line break, with a space before every word. -/
theorem toList_verboseTrace (cpu : Cpu) (instruction : String) :
    (cpu.verboseTrace instruction).toList =
      (cpu.traceLine instruction).toList ++ '\n' ::
        ("Stack:".toList ++ (stackWords cpu.stack).flatMap (' ' :: ·)) := by
  unfold verboseTrace stackText stackWords
  simp only [CallStack.isEmpty_eq_true_iff]
  split
  next => simp
  next => simp [String.toList_join, List.flatMap_map]

end Chip8.Cpu
