import Chip8.Machine
import Chip8.Proofs.Patterns

/-!
What an assembler line tells about its instruction: all that executing it depends on.

A line is a template of its kind with digits of the instruction's word put in. Two templates have
different lengths or different letters at some place, so a line has one kind; and a template shows
every digit that the kind reads. Only a shift does not show one of its registers, and it does not
read that register either.

* `toList_mnemonic` — the lines as templates over digits of the word (`wordChars`).
* `mnemonic_eq_iff` — lines are alike exactly when the instructions are, up to the register that a
  shift does not read.
* `execute_of_mnemonic` — such instructions do the same to every machine.
-/

namespace Chip8

namespace Instruction

/-! ### Templates -/

/-- A place of a template: a letter, or one of the digits that follow the family of a word. -/
inductive Cell where
  | letter (c : Char)
  | x
  | y
  | n
  deriving DecidableEq

/-- The character at a place of the line of a word. -/
def Cell.char (word : Nat) : Cell → Char
  | .letter c => c
  | .x => (Opcode.x word).val.digitChar
  | .y => (Opcode.y word).val.digitChar
  | .n => (Opcode.n word).val.digitChar

/-- Both are letters, and not the same one. -/
def Cell.differ : Cell → Cell → Bool
  | .letter c, .letter d => c != d
  | _, _ => false

theorem Cell.char_ne {cell other : Cell} (differ : cell.differ other = true) (word word' : Nat) :
    cell.char word ≠ other.char word' := by
  cases cell with
  | letter c =>
      cases other with
      | letter d => exact bne_iff_ne.mp differ
      | x | y | n => cases differ
  | x | y | n => cases differ

/-- A template of one line. -/
abbrev Template := List Cell

namespace Template

def text (letters : String) : Template := letters.toList.map .letter

/-- The number of a register, in the place of `x`. -/
def registerX : Template := text "V" ++ [.x]

/-- The number of a register, in the place of `y`. -/
def registerY : Template := text "V" ++ [.y]

def byte : Template := text "0x" ++ [.y, .n]

def address : Template := text "0x" ++ [.x, .y, .n]

/-- The templates have different lengths, or different letters at some place. -/
def apart : Template → Template → Bool
  | [], [] => false
  | [], _ :: _ => true
  | _ :: _, [] => true
  | cell :: first, other :: second => cell.differ other || apart first second

/-- Templates that are apart never make the same line, whatever the words. -/
theorem map_char_ne {first second : Template} (separate : first.apart second = true)
    (word word' : Nat) :
    first.map (Cell.char word) ≠ second.map (Cell.char word') := by
  intro same
  fun_induction apart first second with
  | case1 => cases separate
  | case2 | case3 => cases same
  | case4 cell first other second ih =>
      obtain ⟨here, behind⟩ := List.cons.inj same
      rcases Bool.or_eq_true_iff.mp separate with differ | apart
      · exact Cell.char_ne differ word word' here
      · exact ih apart behind

end Template

open Template (text registerX registerY byte address map_char_ne)

/-- The template of the lines of a kind. -/
def Kind.template : Kind → Template
  | .sys => text "SYS " ++ address
  | .clear => text "CLS"
  | .ret => text "RET"
  | .jump => text "JP " ++ address
  | .call => text "CALL " ++ address
  | .skipEqualByte => text "SE " ++ registerX ++ text ", " ++ byte
  | .skipUnequalByte => text "SNE " ++ registerX ++ text ", " ++ byte
  | .skipEqual => text "SE " ++ registerX ++ text ", " ++ registerY
  | .loadByte => text "LD " ++ registerX ++ text ", " ++ byte
  | .addByte => text "ADD " ++ registerX ++ text ", " ++ byte
  | .load => text "LD " ++ registerX ++ text ", " ++ registerY
  | .or => text "OR " ++ registerX ++ text ", " ++ registerY
  | .and => text "AND " ++ registerX ++ text ", " ++ registerY
  | .xor => text "XOR " ++ registerX ++ text ", " ++ registerY
  | .add => text "ADD " ++ registerX ++ text ", " ++ registerY
  | .sub => text "SUB " ++ registerX ++ text ", " ++ registerY
  | .shiftRight => text "SHR " ++ registerX
  | .subFrom => text "SUBN " ++ registerX ++ text ", " ++ registerY
  | .shiftLeft => text "SHL " ++ registerX
  | .skipUnequal => text "SNE " ++ registerX ++ text ", " ++ registerY
  | .loadIndex => text "LD I, " ++ address
  | .jumpOffset => text "JP V0, " ++ address
  | .random => text "RND " ++ registerX ++ text ", " ++ byte
  | .draw => text "DRW " ++ registerX ++ text ", " ++ registerY ++ text ", 0x" ++ [.n]
  | .skipDown => text "SKP " ++ registerX
  | .skipUp => text "SKNP " ++ registerX
  | .readDelay => text "LD " ++ registerX ++ text ", DT"
  | .awaitKey => text "LD " ++ registerX ++ text ", K"
  | .setDelay => text "LD DT, " ++ registerX
  | .setSound => text "LD ST, " ++ registerX
  | .addIndex => text "ADD I, " ++ registerX
  | .pointGlyph => text "LD F, " ++ registerX
  | .storeDecimal => text "LD B, " ++ registerX
  | .storeRegisters => text "LD [I], " ++ registerX
  | .loadRegisters => text "LD " ++ registerX ++ text ", [I]"

theorem Kind.mem_all (kind : Kind) : kind ∈ Kind.all := by
  cases kind <;> decide

/-- No line is of two kinds. -/
theorem Kind.apart_template {kind other : Kind} (distinct : kind ≠ other) :
    kind.template.apart other.template = true := by
  have table : ∀ kind ∈ Kind.all, ∀ other ∈ Kind.all, kind ≠ other →
      kind.template.apart other.template = true := by
    decide +kernel
  exact table kind kind.mem_all other other.mem_all distinct

/-! ### Lines -/

/-- A line is the template of its kind, with digits of the word put in. -/
theorem toList_mnemonic (kind : Kind) (word : Nat) :
    (kind.instruction (.ofWord word)).mnemonic.toList = kind.template.map (Cell.char word) := by
  obtain ⟨low, target⟩ := operands_ofWord word
  simp only [Operands.ofWord] at low target
  have kkHigh : (Opcode.kk word).toNat / 0x10 = (Opcode.y word).val := by omega
  have kkLow : (Opcode.kk word).toNat % 0x10 = (Opcode.n word).val := by omega
  have nnnHigh : (Opcode.nnn word).val / 0x100 = (Opcode.x word).val := by omega
  have nnnMiddle : (Opcode.nnn word).val / 0x10 % 0x10 = (Opcode.y word).val := by omega
  have nnnLow : (Opcode.nnn word).val % 0x10 = (Opcode.n word).val := by omega
  cases kind <;>
    simp [Kind.instruction, Kind.template, Operands.ofWord, mnemonic, toList_registerText,
      toList_byteText, toList_addressText, toList_pairText,
      Text.toList_paddedHex_of_lt (Opcode.n word).isLt, text, registerX, registerY, byte, address,
      Cell.char, kkHigh, kkLow, nnnHigh, nnnMiddle, nnnLow]

theorem toList_mnemonic_of_decode {word : Nat} {decoded : Decoded}
    (found : decode word = .ok decoded) :
    decoded.instruction.mnemonic.toList = decoded.op.template.map (Cell.char word) := by
  obtain ⟨-, -, operands, -⟩ := decode_eq_ok_iff.mp found
  rw [Int.toNat_natCast] at operands
  rw [Decoded.instruction, operands, toList_mnemonic]

/-- What stands for a word where no more is known of it: its line, or question marks if it has
none. -/
def wordChars (word : Nat) : List Char :=
  match decode word with
  | .ok decoded => decoded.op.template.map (Cell.char word)
  | .error _ => "???".toList

theorem toList_elim_mnemonic (word : Nat) :
    ((ofWord? word).elim "???" mnemonic).toList = wordChars word := by
  unfold ofWord? wordChars
  cases found : decode word with
  | error unknown => rfl
  | ok decoded => exact toList_mnemonic_of_decode found

/-! ### Reading a line -/

theorem kk_congr {word word' : Nat} (y : Opcode.y word = Opcode.y word')
    (n : Opcode.n word = Opcode.n word') : Opcode.kk word = Opcode.kk word' := by
  have low := (operands_ofWord word).1
  have low' := (operands_ofWord word').1
  simp only [Operands.ofWord, y, n] at low low'
  exact UInt8.toNat_inj.mp (low.trans low'.symm)

theorem nnn_congr {word word' : Nat} (x : Opcode.x word = Opcode.x word')
    (y : Opcode.y word = Opcode.y word') (n : Opcode.n word = Opcode.n word') :
    Opcode.nnn word = Opcode.nnn word' := by
  have target := (operands_ofWord word).2
  have target' := (operands_ofWord word').2
  simp only [Operands.ofWord, x, kk_congr y n] at target target'
  exact Fin.ext (target.trans target'.symm)

/-- A digit that a template shows can be read off its line. -/
theorem operands_of_line {template : Template} {word word' : Nat}
    (same : template.map (Cell.char word) = template.map (Cell.char word')) :
    (.x ∈ template → Opcode.x word = Opcode.x word') ∧
      (.y ∈ template → Opcode.y word = Opcode.y word') ∧
      (.n ∈ template → Opcode.n word = Opcode.n word') := by
  have shown := List.map_inj_left.mp same
  have digit {d e : Nibble} (written : d.val.digitChar = e.val.digitChar) : d = e :=
    Fin.ext (Text.digitChar_inj d.isLt e.isLt written)
  exact ⟨fun x => digit (shown _ x), fun y => digit (shown _ y), fun n => digit (shown _ n)⟩

/-- The instruction with register 0 in the place of a register that it does not read. -/
def canonical : Instruction → Instruction
  | .shiftRight x _ => .shiftRight x 0
  | .shiftLeft x _ => .shiftLeft x 0
  | instruction => instruction

@[simp] theorem kind_canonical (instruction : Instruction) :
    instruction.canonical.kind = instruction.kind := by
  cases instruction <;> rfl

@[simp] theorem mnemonic_canonical (instruction : Instruction) :
    instruction.canonical.mnemonic = instruction.mnemonic := by
  cases instruction <;> rfl

theorem canonical_of_line {kind : Kind} {word word' : Nat}
    (same : kind.template.map (Cell.char word) = kind.template.map (Cell.char word')) :
    (kind.instruction (.ofWord word)).canonical =
      (kind.instruction (.ofWord word')).canonical := by
  obtain ⟨x, y, n⟩ := operands_of_line same
  have kk (shownY : .y ∈ kind.template) (shownN : .n ∈ kind.template) :
      Opcode.kk word = Opcode.kk word' :=
    kk_congr (y shownY) (n shownN)
  have nnn (shownX : .x ∈ kind.template) (shownY : .y ∈ kind.template)
      (shownN : .n ∈ kind.template) : Opcode.nnn word = Opcode.nnn word' :=
    nnn_congr (x shownX) (y shownY) (n shownN)
  cases kind with
  | clear | ret => rfl
  | sys | jump | call | loadIndex | jumpOffset =>
      simp only [Kind.instruction, Operands.ofWord, nnn (by decide) (by decide) (by decide)]
  | skipEqualByte | skipUnequalByte | loadByte | addByte | random =>
      simp only [Kind.instruction, Operands.ofWord, x (by decide), kk (by decide) (by decide)]
  | draw =>
      simp only [Kind.instruction, Operands.ofWord, x (by decide), y (by decide), n (by decide)]
  | skipEqual | skipUnequal | load | or | and | xor | add | sub | subFrom =>
      simp only [Kind.instruction, Operands.ofWord, x (by decide), y (by decide)]
  | skipDown | skipUp | readDelay | awaitKey | setDelay | setSound | addIndex | pointGlyph
  | storeDecimal | storeRegisters | loadRegisters =>
      simp only [Kind.instruction, Operands.ofWord, x (by decide)]
  | shiftRight | shiftLeft =>
      -- The second register is not shown, and the canonical instruction is without it.
      simp only [Kind.instruction, Operands.ofWord, x (by decide), canonical]

/-- The lines of two words are alike if and only if the instructions are, up to a register that is
not read. -/
theorem mnemonic_eq_iff {a b : Int} {first second : Decoded} (found : decode a = .ok first)
    (found' : decode b = .ok second) :
    first.instruction.mnemonic = second.instruction.mnemonic ↔
      first.instruction.canonical = second.instruction.canonical := by
  constructor
  · intro alike
    obtain ⟨-, -, operands, -⟩ := decode_eq_ok_iff.mp found
    obtain ⟨-, -, operands', -⟩ := decode_eq_ok_iff.mp found'
    simp only [Decoded.instruction, operands, operands'] at alike ⊢
    have same : first.op.template.map (Cell.char a.toNat) =
        second.op.template.map (Cell.char b.toNat) := by
      rw [← toList_mnemonic, ← toList_mnemonic, alike]
    by_cases ops : first.op = second.op
    · rw [ops] at same ⊢
      exact canonical_of_line same
    · exact absurd same (map_char_ne (Kind.apart_template ops) _ _)
  · intro alike
    rw [← mnemonic_canonical first.instruction, alike, mnemonic_canonical]

end Instruction

namespace Machine

/-- No instruction depends on a register that its line leaves out. -/
theorem execute_canonical (machine : Machine) (instruction : Instruction) :
    machine.execute instruction.canonical = machine.execute instruction := by
  cases instruction <;> rfl

/-- A line determines what its instruction does.

If two words are decoded and the lines of their instructions are the same, they have one operation,
and executing them takes every machine to the same state, with the same fault if there is one. So
are the state that is left, the failure with its report and the line of a trace when they are
executed within a cycle. -/
theorem execute_of_mnemonic {a b : Int} {first second : Instruction.Decoded}
    (found : Instruction.decode a = .ok first) (found' : Instruction.decode b = .ok second)
    (alike : first.instruction.mnemonic = second.instruction.mnemonic) :
    first.op = second.op ∧
      ∀ machine : Machine,
        machine.execute first.instruction = machine.execute second.instruction ∧
          machine.dispatch first.instruction = machine.dispatch second.instruction := by
  have same := (Instruction.mnemonic_eq_iff found found').mp alike
  refine ⟨?_, fun machine => ?_⟩
  · have kinds := congrArg Instruction.kind same
    simpa only [Instruction.kind_canonical, Instruction.Decoded.instruction,
      Instruction.Kind.kind_instruction] using kinds
  · have executes : machine.execute first.instruction = machine.execute second.instruction := by
      rw [← execute_canonical machine first.instruction, same, execute_canonical]
    exact ⟨executes, by simp only [dispatch, alike, executes]⟩

/-- Shifts with different second registers are written alike. -/
theorem execute_of_mnemonic_of_shifts :
    let machine := fresh (RandomSource.cycling []) true
    let first : Instruction.Decoded := ⟨.ofWord 0x8126, .shiftRight, 0x8126⟩
    let second : Instruction.Decoded := ⟨.ofWord 0x8136, .shiftRight, 0x8136⟩
    Instruction.decode 0x8126 = .ok first ∧ Instruction.decode 0x8136 = .ok second ∧
      first.instruction.mnemonic = "SHR V1" ∧ second.instruction.mnemonic = "SHR V1" ∧
      first.op = second.op ∧
      machine.execute first.instruction = machine.execute second.instruction ∧
      machine.dispatch first.instruction = machine.dispatch second.instruction := by
  intro machine first second
  have found : Instruction.decode 0x8126 = .ok first := rfl
  have found' : Instruction.decode 0x8136 = .ok second := rfl
  have line : first.instruction.mnemonic = "SHR V1" := by decide
  have line' : second.instruction.mnemonic = "SHR V1" := by decide
  obtain ⟨ops, alike⟩ := execute_of_mnemonic found found' (line.trans line'.symm)
  obtain ⟨executes, dispatches⟩ := alike machine
  exact ⟨found, found', line, line', ops, executes, dispatches⟩

end Machine

end Chip8
