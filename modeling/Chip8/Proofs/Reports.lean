import Chip8.Machine
import Chip8.Proofs.Splitting

/-!
What a report tells about the processor: everything that it is made from.

A line is made of words with spaces in between, and every number is a word of its own, so numbers
can be told apart however wide they are. Only the digits of the registers are not separated, but
each register has two of them.

* `toList_traceLine_eq`, `toList_crashReport` — the characters of a line and of a report.
* `plain_traceWords`, `plain_stackWords` — no word has a space in it.
* `traceWords_inj`, `stackWords_inj` — the words tell the numbers they were written for.
* `SameReport` — two processors that agree in everything a report shows.
* `traceLine_inj`, `verboseTrace_inj` — lines and traces are taken apart into their words.
* `state_of_report` — the same reports are made of such processors only.
-/

namespace Chip8

namespace Text

/-- The characters of a number in hexadecimal, with zeros in front up to a width. A minus sign is
one of them. -/
def hexChars (width : Nat) (number : Int) : List Char :=
  if number < 0 then '-' :: (Nat.toDigits 16 number.natAbs).leftpad (width - 1) '0'
  else (Nat.toDigits 16 number.natAbs).leftpad width '0'

theorem toList_paddedHex (width : Nat) (number : Int) :
    (paddedHex width number).toList = hexChars width number := by
  unfold paddedHex hexChars
  rw [String.toList_ofList]
  split <;> rfl

theorem plain_paddedHex (width : Nat) (value : Int) : ' ' ∉ (paddedHex width value).toList := by
  intro member
  rcases isSome_of_mem_paddedHex member with sign | digit
  · cases sign
  · cases digit

theorem paddedHex_toList_inj {width : Nat} {value other : Int} :
    (paddedHex width value).toList = (paddedHex width other).toList ↔ value = other := by
  rw [String.toList_inj, paddedHex_inj]

/-- Blocks of one size are told apart if each of them is. -/
theorem eq_of_flatMap_eq {α β : Type} {block : α → List β}
    (size : ∀ first second, (block first).length = (block second).length)
    (apart : Function.Injective block) {items others : List α} (long : items.length = others.length)
    (same : items.flatMap block = others.flatMap block) : items = others := by
  induction items generalizing others with
  | nil => exact (List.length_eq_zero_iff.mp long.symm).symm
  | cons item items ih =>
      cases others with
      | nil => cases long
      | cons other others =>
          obtain ⟨here, behind⟩ := List.append_inj same (size item other)
          rw [apart here, ih (Nat.succ.inj long) behind]

/-- Spaces before words are the same as one before all and one behind each but the last. -/
theorem flatMap_space_append (words : List (List Char)) :
    words.flatMap (' ' :: ·) ++ [' '] = ' ' :: words.flatMap (· ++ [' ']) := by
  induction words with
  | nil => rfl
  | cons word words ih => simp [ih]

end Text

namespace Cpu

variable {cpu other : Cpu}

/-! ### Characters -/

/-- The characters of the line that shows a state: every number behind its label, and the registers
from F down to 0. -/
def lineChars (cpu : Cpu) (instruction : List Char) : List Char :=
  "V: 0x".toList ++ cpu.v.toList.reverse.flatMap (fun byte => Text.hexChars 2 byte.toNat) ++
    " I: 0x".toList ++ Text.hexChars 4 cpu.i ++
    " DT: 0x".toList ++ Text.hexChars 2 cpu.delay ++
    " ST: 0x".toList ++ Text.hexChars 2 cpu.sound ++
    " PC: 0x".toList ++ Text.hexChars 3 cpu.fetchedAt ++
    " OP: 0x".toList ++ Text.hexChars 4 cpu.opcode ++
    " IN: ".toList ++ instruction

/-- The characters of the report of a crash: the program's name and version, the line that shows the
state, and a line with the call stack from its oldest address on. -/
def reportChars (cpu : Cpu) (instruction : List Char) : List Char :=
  "Emulation halted.\n\nChipotto V0.1.0 -- Debug info:\n".toList ++ cpu.lineChars instruction ++
    "\nStack:".toList ++
    if cpu.stack.toList = [] then " (Empty)".toList
    else cpu.stack.toList.flatMap fun address => " 0x".toList ++ Text.hexChars 3 address

theorem toList_traceLine_eq (cpu : Cpu) (instruction : String) :
    (cpu.traceLine instruction).toList = cpu.lineChars instruction.toList := by
  rw [toList_traceLine]
  unfold traceWords lineChars
  simp [Text.toList_paddedHex]

theorem toList_crashReport (cpu : Cpu) (instruction : String) :
    (cpu.crashReport instruction).toList = cpu.reportChars instruction.toList := by
  have addresses :
      (stackWords cpu.stack).flatMap (' ' :: ·) =
        if cpu.stack.toList = [] then " (Empty)".toList
        else cpu.stack.toList.flatMap fun address => " 0x".toList ++ Text.hexChars 3 address := by
    unfold stackWords
    split
    · rfl
    · rw [List.flatMap_map]
      simp only [Text.toList_paddedHex]
      rfl
  have opening : "Emulation halted.\n\nChipotto V0.1.0 -- Debug info:\n".toList =
      ("Emulation halted.\n\n" ++ Banner.intro ++ "Debug info:\n").toList := by
    decide
  unfold crashReport reportChars
  rw [String.toList_append, toList_verboseTrace, toList_traceLine_eq, addresses, opening]
  simp only [List.append_assoc]
  rfl

/-! ### Words -/

/-- Neither the labels nor the numbers have a space in them. -/
theorem plain_traceWords (cpu : Cpu) : ∀ word ∈ cpu.traceWords, ' ' ∉ word := by
  have registers : ' ' ∉ cpu.v.toList.reverse.flatMap fun byte =>
      (Text.paddedHex 2 (byte.toNat : Int)).toList := by
    simp only [List.mem_flatMap, Text.plain_paddedHex, and_false, exists_false, not_false_eq_true]
  unfold traceWords
  simp only [List.forall_mem_cons, List.mem_append, Text.plain_paddedHex, registers, or_false]
  decide

theorem plain_stackWords (stack : CallStack) : ∀ word ∈ stackWords stack, ' ' ∉ word := by
  unfold stackWords
  split
  next => decide
  next =>
    intro word member
    obtain ⟨address, -, rfl⟩ := List.mem_map.mp member
    simp only [List.mem_append, Text.plain_paddedHex, or_false]
    decide

/-- Each register has two digits. -/
theorem registers_inj {v v' : Vector UInt8 16}
    (same : (v.toList.reverse.flatMap fun byte => (Text.paddedHex 2 (byte.toNat : Int)).toList) =
      v'.toList.reverse.flatMap fun byte => (Text.paddedHex 2 (byte.toNat : Int)).toList) :
    v = v' := by
  have two (byte : UInt8) : (Text.paddedHex 2 (byte.toNat : Int)).toList.length = 2 := by
    rw [Text.toList_paddedHex_byte]
    rfl
  have apart : Function.Injective fun byte : UInt8 =>
      (Text.paddedHex 2 (byte.toNat : Int)).toList := by
    intro byte byte' alike
    exact UInt8.toNat_inj.mp (Int.ofNat.inj (Text.paddedHex_toList_inj.mp alike))
  have reversed := Text.eq_of_flatMap_eq (fun byte byte' => (two byte).trans (two byte').symm) apart
    (by simp) same
  exact Vector.toList_inj.mp (List.reverse_inj.mp reversed)

/-- Two processors agree in everything that a report shows. -/
structure SameReport (cpu other : Cpu) : Prop where
  v : cpu.v = other.v
  i : cpu.i = other.i
  delay : cpu.delay = other.delay
  sound : cpu.sound = other.sound
  fetchedAt : cpu.fetchedAt = other.fetchedAt
  opcode : cpu.opcode = other.opcode
  stack : cpu.stack.toList = other.stack.toList

theorem traceWords_inj (same : cpu.traceWords = other.traceWords) :
    cpu.v = other.v ∧ cpu.i = other.i ∧ cpu.delay = other.delay ∧ cpu.sound = other.sound ∧
      cpu.fetchedAt = other.fetchedAt ∧ cpu.opcode = other.opcode := by
  simp only [traceWords, List.cons.injEq, List.append_cancel_left_eq, Text.paddedHex_toList_inj,
    true_and, and_true] at same
  exact same.imp_left registers_inj

theorem stackWords_inj {stack stack' : CallStack} (same : stackWords stack = stackWords stack') :
    stack.toList = stack'.toList := by
  have numbers (entries : List Int) : "(Empty)".toList ∉
      entries.map fun address => "0x".toList ++ (Text.paddedHex 3 address).toList := by
    intro member
    obtain ⟨address, -, alike⟩ := List.mem_map.mp member
    cases alike
  unfold stackWords at same
  split at same
  next empty =>
    split at same
    next empty' => rw [empty, empty']
    next => exact absurd (same ▸ List.mem_singleton_self _) (numbers _)
  next =>
    split at same
    next => exact absurd (same ▸ List.mem_singleton_self _) (numbers _)
    next =>
      refine (List.map_injective_iff.mpr fun address address' alike => ?_) same
      exact Text.paddedHex_toList_inj.mp (List.append_cancel_left alike)

/-! ### Reports -/

/-- What a report names as its instruction: the line of one, or the text that stands for an
instruction that was not decoded. -/
def NamesInstruction (text : String) : Prop :=
  text = Machine.undecoded ∨
    ∃ word decoded, Instruction.decode word = .ok decoded ∧ text = decoded.instruction.mnemonic

theorem NamesInstruction.isLine {text : String} (named : NamesInstruction text) :
    Text.IsLine text := by
  rcases named with rfl | ⟨-, decoded, -, rfl⟩
  · decide
  · exact Instruction.isLine_mnemonic decoded.instruction

theorem length_traceWords (cpu : Cpu) : cpu.traceWords.length = 13 := rfl

theorem traceLine_inj {text text' : String} (same : cpu.traceLine text = other.traceLine text') :
    cpu.traceWords = other.traceWords ∧ text = text' := by
  have chars := congrArg String.toList same
  rw [toList_traceLine, toList_traceLine] at chars
  have words := congrArg (List.splitOn ' ') chars
  rw [Text.splitOn_closed cpu.plain_traceWords, Text.splitOn_closed other.plain_traceWords] at words
  have heads :=
    (List.append_inj words (cpu.length_traceWords.trans other.length_traceWords.symm)).1
  rw [heads] at chars
  exact ⟨heads, String.toList_inj.mp (List.append_cancel_left chars)⟩

theorem verboseTrace_inj {text text' : String} (line : Text.IsLine text)
    (line' : Text.IsLine text') (same : cpu.verboseTrace text = other.verboseTrace text') :
    text = text' ∧ SameReport cpu other := by
  have chars := congrArg String.toList same
  rw [toList_verboseTrace, toList_verboseTrace] at chars
  obtain ⟨above, below⟩ := Text.append_cons_inj (cpu.isLine_traceLine line)
    (other.isLine_traceLine line') chars
  obtain ⟨words, names⟩ := traceLine_inj (String.toList_inj.mp above)
  obtain ⟨v, i, delay, sound, fetchedAt, opcode⟩ := traceWords_inj words
  refine ⟨names, v, i, delay, sound, fetchedAt, opcode, stackWords_inj ?_⟩
  have closed := congrArg (· ++ [' ']) (List.append_cancel_left below)
  simp only [Text.flatMap_space_append, List.cons.injEq, true_and] at closed
  have fields := congrArg (List.splitOn ' ') closed
  rw [← List.append_nil (List.flatMap _ _), Text.splitOn_closed (plain_stackWords _),
    ← List.append_nil (List.flatMap _ _), Text.splitOn_closed (plain_stackWords _)] at fields
  exact List.append_cancel_right fields

theorem verboseTrace_congr (same : SameReport cpu other) (text : String) :
    cpu.verboseTrace text = other.verboseTrace text := by
  have words : cpu.traceWords = other.traceWords := by
    simp only [traceWords, same.v, same.i, same.delay, same.sound, same.fetchedAt, same.opcode]
  have addresses : stackWords cpu.stack = stackWords other.stack := by
    simp only [stackWords, same.stack]
  refine String.toList_inj.mp ?_
  rw [toList_verboseTrace, toList_verboseTrace, toList_traceLine, toList_traceLine, words,
    addresses]

theorem crashReport_inj {text text' : String} :
    cpu.crashReport text = other.crashReport text' ↔
      cpu.verboseTrace text = other.verboseTrace text' := by
  unfold crashReport
  generalize cpu.verboseTrace text = trace
  generalize other.verboseTrace text' = trace'
  exact String.append_right_inj _

/-- A report loses nothing of the state that it shows, and of the name of its instruction.

Two verbose traces are the same just when they name the same instruction, and the registers, the
index, the timers, the place of the instruction, its word and the whole call stack are the same; and
so are two crash reports. Numbers may have any size and sign. -/
theorem state_of_report {text text' : String} (named : NamesInstruction text)
    (named' : NamesInstruction text') (cpu other : Cpu) :
    (cpu.verboseTrace text = other.verboseTrace text' ↔ text = text' ∧ SameReport cpu other) ∧
      (cpu.crashReport text = other.crashReport text' ↔ text = text' ∧ SameReport cpu other) := by
  have traces : cpu.verboseTrace text = other.verboseTrace text' ↔
      text = text' ∧ SameReport cpu other := by
    constructor
    · exact verboseTrace_inj named.isLine named'.isLine
    · rintro ⟨rfl, same⟩
      exact verboseTrace_congr same text
  exact ⟨traces, crashReport_inj.trans traces⟩

/-- A place of three digits is told from one of four, an instruction from none, and an empty call
stack from one with an address. -/
theorem state_of_report_of_start :
    let cpu := Cpu.initial 0x200
    let line := (Instruction.shiftRight 1 2).mnemonic
    NamesInstruction line ∧
      cpu.verboseTrace line ≠ { cpu with fetchedAt := 0x10FE }.verboseTrace line ∧
      cpu.verboseTrace line ≠ cpu.verboseTrace Machine.undecoded ∧
      cpu.crashReport line ≠
        { cpu with stack := { cpu.stack with entries := [0x1000] } }.crashReport line := by
  intro cpu line
  have named : NamesInstruction line :=
    .inr ⟨0x8126, ⟨.ofWord 0x8126, .shiftRight, 0x8126⟩, rfl, rfl⟩
  refine ⟨named, ?_, ?_, ?_⟩
  · intro same
    exact absurd ((state_of_report named named _ _).1.mp same).2.fetchedAt (by decide)
  · intro same
    exact absurd ((state_of_report named (.inl rfl) _ _).1.mp same).1 (by decide)
  · intro same
    exact absurd ((state_of_report named named _ _).2.mp same).2.stack (by decide)

end Cpu

end Chip8
