import Chip8.Proofs.Encoding

/-!
The instruction set as a table of patterns, and that decoding follows it.

A pattern is written as in `8xy4` or `Fx33`: hexadecimal digits stand for themselves, and the
letters for operands. The table says nothing of masks or of the order in which a word is looked at.

* `Kind.pattern` — the table, with one pattern a kind of instruction.
* `word_pattern` — a pattern with operands in place of its letters is the word of the instruction
  with those operands.
* `decode_eq_ok_iff_pattern` — what is decoded, and to what: exactly the words of the table, each by
  the one pattern that applies, to a record whose fields give the word back.
-/

namespace Chip8.Instruction

/-! ### Patterns -/

/-- A digit of a pattern, or the letters of one operand. -/
inductive Part where
  | digit (value : Nibble)
  | x
  | y
  | n
  | kk
  | nnn

/-- How far a part moves what stands before it, by its number of digits. -/
def Part.scale : Part → Nat
  | .digit _ | .x | .y | .n => 0x10
  | .kk => 0x100
  | .nnn => 0x1000

def Part.value (operands : Operands) : Part → Nat
  | .digit value => value.val
  | .x => operands.x.val
  | .y => operands.y.val
  | .n => operands.n.val
  | .kk => operands.kk.toNat
  | .nnn => operands.nnn.val

/-- The parts of a word, from the left. -/
abbrev Pattern := List Part

/-- The word that a pattern becomes with operands in place of its letters. -/
def Pattern.word (pattern : Pattern) (operands : Operands) : Nat :=
  pattern.foldl (fun word part => word * part.scale + part.value operands) 0

/-- The opcode is the pattern with some operands in place of its letters. -/
def Pattern.Matches (pattern : Pattern) (opcode : Int) : Prop :=
  ∃ operands, opcode = pattern.word operands

namespace Kind

/-- The pattern of each kind of instruction. -/
def pattern : Kind → Pattern
  | .sys => [.digit 0x0, .nnn]
  | .clear => [.digit 0x0, .digit 0x0, .digit 0xE, .digit 0x0]
  | .ret => [.digit 0x0, .digit 0x0, .digit 0xE, .digit 0xE]
  | .jump => [.digit 0x1, .nnn]
  | .call => [.digit 0x2, .nnn]
  | .skipEqualByte => [.digit 0x3, .x, .kk]
  | .skipUnequalByte => [.digit 0x4, .x, .kk]
  | .skipEqual => [.digit 0x5, .x, .y, .digit 0x0]
  | .loadByte => [.digit 0x6, .x, .kk]
  | .addByte => [.digit 0x7, .x, .kk]
  | .load => [.digit 0x8, .x, .y, .digit 0x0]
  | .or => [.digit 0x8, .x, .y, .digit 0x1]
  | .and => [.digit 0x8, .x, .y, .digit 0x2]
  | .xor => [.digit 0x8, .x, .y, .digit 0x3]
  | .add => [.digit 0x8, .x, .y, .digit 0x4]
  | .sub => [.digit 0x8, .x, .y, .digit 0x5]
  | .shiftRight => [.digit 0x8, .x, .y, .digit 0x6]
  | .subFrom => [.digit 0x8, .x, .y, .digit 0x7]
  | .shiftLeft => [.digit 0x8, .x, .y, .digit 0xE]
  | .skipUnequal => [.digit 0x9, .x, .y, .digit 0x0]
  | .loadIndex => [.digit 0xA, .nnn]
  | .jumpOffset => [.digit 0xB, .nnn]
  | .random => [.digit 0xC, .x, .kk]
  | .draw => [.digit 0xD, .x, .y, .n]
  | .skipDown => [.digit 0xE, .x, .digit 0x9, .digit 0xE]
  | .skipUp => [.digit 0xE, .x, .digit 0xA, .digit 0x1]
  | .readDelay => [.digit 0xF, .x, .digit 0x0, .digit 0x7]
  | .awaitKey => [.digit 0xF, .x, .digit 0x0, .digit 0xA]
  | .setDelay => [.digit 0xF, .x, .digit 0x1, .digit 0x5]
  | .setSound => [.digit 0xF, .x, .digit 0x1, .digit 0x8]
  | .addIndex => [.digit 0xF, .x, .digit 0x1, .digit 0xE]
  | .pointGlyph => [.digit 0xF, .x, .digit 0x2, .digit 0x9]
  | .storeDecimal => [.digit 0xF, .x, .digit 0x3, .digit 0x3]
  | .storeRegisters => [.digit 0xF, .x, .digit 0x5, .digit 0x5]
  | .loadRegisters => [.digit 0xF, .x, .digit 0x6, .digit 0x5]

/-- The kind's pattern applies to the opcode. The pattern of machine code routines yields to the two
words that mean something else. -/
def Applies (kind : Kind) (opcode : Int) : Prop :=
  kind.pattern.Matches opcode ∧ (kind = .sys → opcode ≠ 0x00E0 ∧ opcode ≠ 0x00EE)

@[simp] theorem kind_instruction (kind : Kind) (operands : Operands) :
    (kind.instruction operands).kind = kind := by
  cases kind <;> rfl

end Kind

/-! ### Patterns and words

One lemma for each shape of a pattern. -/

variable (operands : Operands)

theorem word_exact (first second third fourth : Nibble) :
    Pattern.word [.digit first, .digit second, .digit third, .digit fourth] operands =
      0x1000 * first.val + 0x100 * second.val + 0x10 * third.val + fourth.val := by
  simp only [Pattern.word, List.foldl, Part.scale, Part.value]
  omega

theorem word_address (family : Nibble) :
    Pattern.word [.digit family, .nnn] operands = Opcode.ofAddress family.val operands.nnn := by
  simp only [Pattern.word, List.foldl, Part.scale, Part.value, Opcode.ofAddress]
  omega

theorem word_byte (family : Nibble) :
    Pattern.word [.digit family, .x, .kk] operands =
      Opcode.ofByte family.val operands.x operands.kk := by
  simp only [Pattern.word, List.foldl, Part.scale, Part.value, Opcode.ofByte]
  omega

theorem word_digits (family last : Nibble) :
    Pattern.word [.digit family, .x, .y, .digit last] operands =
      Opcode.ofDigits family.val operands.x operands.y last := by
  simp only [Pattern.word, List.foldl, Part.scale, Part.value, Opcode.ofDigits]
  omega

theorem word_function (family high low : Nibble) :
    Pattern.word [.digit family, .x, .digit high, .digit low] operands =
      Opcode.ofByte family.val operands.x (UInt8.ofNat (0x10 * high.val + low.val)) := by
  simp only [Pattern.word, List.foldl, Part.scale, Part.value, Opcode.ofByte, UInt8.toNat_ofNat']
  omega

/-- A pattern with operands in place of its letters is the word of its instruction. -/
theorem word_pattern (kind : Kind) :
    kind.pattern.word operands = (kind.instruction operands).toWord := by
  cases kind with
  | clear | ret => exact word_exact operands _ _ _ _
  | sys | jump | call | loadIndex | jumpOffset => exact word_address operands _
  | skipEqualByte | skipUnequalByte | loadByte | addByte | random => exact word_byte operands _
  | draw => exact word_digits operands _ operands.n
  | skipDown | skipUp | readDelay | awaitKey | setDelay | setSound | addIndex | pointGlyph
  | storeDecimal | storeRegisters | loadRegisters => exact word_function operands _ _ _
  | skipEqual | skipUnequal | load | or | and | xor | add | sub | shiftRight | subFrom
  | shiftLeft => exact word_digits operands _ _

/-- The low byte of a word is its last two digits, and its address the byte behind the register. -/
theorem operands_ofWord (word : Nat) :
    let operands := Operands.ofWord word
    operands.kk.toNat = 0x10 * operands.y.val + operands.n.val ∧
      operands.nnn.val = 0x100 * operands.x.val + operands.kk.toNat := by
  simp only [Operands.ofWord, Opcode.val_x, Opcode.val_y, Opcode.val_n, Opcode.toNat_kk,
    Opcode.val_nnn]
  omega

/-- An instruction determines the operands that its pattern has letters for. -/
theorem value_of_instruction {kind : Kind} {other : Operands}
    (same : kind.instruction other = kind.instruction operands) :
    ∀ part ∈ kind.pattern, part.value other = part.value operands := by
  cases kind <;> simp_all [Kind.instruction, Kind.pattern, Part.value]

/-! ### Decoding -/

variable {opcode : Int} {decoded : Decoded}

/-- What is decoded holds the operation of the word, all operand fields and the word itself. -/
theorem decode_eq_ok_iff :
    decode opcode = .ok decoded ↔
      (0 ≤ opcode ∧ opcode ≤ 0xFFFF) ∧ operation? opcode.toNat = some decoded.op ∧
        decoded.toOperands = .ofWord opcode.toNat ∧ decoded.opcode = opcode := by
  obtain ⟨operands, op, word⟩ := decoded
  unfold decode
  split
  next inside =>
    cases operation? opcode.toNat with
    | none => simp
    | some found =>
        simp only [Except.ok.injEq, Decoded.mk.injEq, Option.some.injEq, inside, and_self, true_and]
        grind
  next outside => simp [outside]

/-- An integer is an instruction or is refused by itself. -/
theorem decode_eq_error_iff :
    decode opcode = .error ⟨opcode⟩ ↔ ¬ ∃ decoded, decode opcode = .ok decoded := by
  unfold decode
  split
  · cases operation? opcode.toNat with
    | none => simp
    | some found => simp
  · simp

theorem ofWord?_of_decode (found : decode opcode = .ok decoded) :
    ofWord? opcode.toNat = some decoded.instruction := by
  obtain ⟨⟨low, -⟩, -⟩ := decode_eq_ok_iff.mp found
  rw [ofWord?, Int.toNat_of_nonneg low, found]
  rfl

/-- The fields of what is decoded give the word back. -/
theorem word_of_decode (found : decode opcode = .ok decoded) :
    decoded.op.pattern.word decoded.toOperands = opcode := by
  obtain ⟨⟨low, -⟩, -⟩ := decode_eq_ok_iff.mp found
  have word : decoded.instruction.toWord = opcode.toNat :=
    toWord_of_ofWord? (ofWord?_of_decode found)
  rw [word_pattern, ← Int.toNat_of_nonneg low, ← word]
  rfl

/-- Words that mean something else are not decoded as machine code routines. -/
theorem isProper_of_ofWord? {word : Nat} {instruction : Instruction}
    (found : ofWord? word = some instruction) : instruction.IsProper := by
  cases instruction with
  | sys target =>
      have same : target.val = word := by
        have word := toWord_of_ofWord? found
        simp only [toWord, Opcode.ofAddress] at word
        omega
      constructor
      · intro clears
        rw [← same, clears] at found
        cases found
      · intro returns
        rw [← same, returns] at found
        cases found
  | _ => trivial

theorem isProper_instruction {kind : Kind} {operands : Operands}
    (proper : kind = .sys → operands.nnn.val ≠ 0x0E0 ∧ operands.nnn.val ≠ 0x0EE) :
    (kind.instruction operands).IsProper := by
  cases kind with
  | sys => exact proper rfl
  | _ => trivial

/-- The word of a kind with its operands is decoded to that kind and to these operands, as far as
the pattern has letters for them. -/
theorem decode_word {kind : Kind} {operands : Operands}
    (proper : kind = .sys → operands.nnn.val ≠ 0x0E0 ∧ operands.nnn.val ≠ 0x0EE) :
    ∃ decoded, decode (kind.pattern.word operands) = .ok decoded ∧ decoded.op = kind ∧
      (∀ part ∈ kind.pattern, part.value decoded.toOperands = part.value operands) ∧
      decoded.instruction = kind.instruction operands := by
  have read := ofWord?_toWord (isProper_instruction proper)
  rw [← word_pattern] at read
  obtain ⟨decoded, found, same⟩ := ofWord?_eq_some_iff_decode.mp read
  have op : decoded.op = kind := by
    rw [← Kind.kind_instruction decoded.op decoded.toOperands,
      ← Kind.kind_instruction kind operands]
    exact congrArg Instruction.kind same
  subst op
  exact ⟨decoded, found, rfl, value_of_instruction operands same, same⟩

/-- The kind whose pattern applies is the kind of what is decoded. -/
theorem decode_of_applies {kind : Kind} (applies : kind.Applies opcode) :
    ∃ decoded, decode opcode = .ok decoded ∧ decoded.op = kind := by
  obtain ⟨⟨operands, rfl⟩, other⟩ := applies
  have proper : kind = .sys → operands.nnn.val ≠ 0x0E0 ∧ operands.nnn.val ≠ 0x0EE := by
    rintro rfl
    obtain ⟨notClear, notRet⟩ := other rfl
    rw [word_pattern] at notClear notRet
    simp only [Kind.instruction, toWord, Opcode.ofAddress] at notClear notRet
    omega
  obtain ⟨decoded, found, op, -⟩ := decode_word proper
  exact ⟨decoded, found, op⟩

theorem applies_of_decode (found : decode opcode = .ok decoded) : decoded.op.Applies opcode := by
  have word := word_of_decode found
  refine ⟨⟨decoded.toOperands, word.symm⟩, ?_⟩
  intro isSys
  have proper := isProper_of_ofWord? (ofWord?_of_decode found)
  rw [word_pattern, isSys] at word
  rw [Decoded.instruction, isSys] at proper
  obtain ⟨notClear, notRet⟩ := proper
  simp only [Kind.instruction, toWord, Opcode.ofAddress] at word
  omega

/-- Decoding accepts exactly the instruction set and loses nothing.

An integer is decoded if it is a word of 16 bits to which a pattern applies, and is refused by
itself otherwise. What is decoded names the only operation whose pattern applies and the word. Its
operand fields give the word back when they are put into that pattern, the byte is the two digits
`y` and `n`, and the address is the digit `x` and the byte, which are the last three digits of the
word. The other way round, a pattern with any operands in place of its letters is decoded to its
operation with these operands, except for the two words of machine code routines that have another
meaning. -/
theorem decode_eq_ok_iff_pattern (opcode : Int) :
    ((∃ decoded, decode opcode = .ok decoded) ↔
      0 ≤ opcode ∧ opcode ≤ 0xFFFF ∧ ∃ kind : Kind, kind.Applies opcode) ∧
    (decode opcode = .error ⟨opcode⟩ ↔
      ¬ (0 ≤ opcode ∧ opcode ≤ 0xFFFF ∧ ∃ kind : Kind, kind.Applies opcode)) ∧
    (∀ decoded, decode opcode = .ok decoded →
      (∀ kind : Kind, kind.Applies opcode ↔ kind = decoded.op) ∧
        decoded.opcode = opcode ∧
        decoded.op.pattern.word decoded.toOperands = opcode ∧
        decoded.kk.toNat = 0x10 * decoded.y.val + decoded.n.val ∧
        decoded.nnn.val = 0x100 * decoded.x.val + decoded.kk.toNat ∧
        (decoded.nnn.val : Int) = opcode % 0x1000) ∧
    ∀ (kind : Kind) (operands : Operands),
      (kind = .sys → operands.nnn.val ≠ 0x0E0 ∧ operands.nnn.val ≠ 0x0EE) →
        ∃ decoded, decode (kind.pattern.word operands) = .ok decoded ∧ decoded.op = kind ∧
          (∀ part ∈ kind.pattern, part.value decoded.toOperands = part.value operands) ∧
          decoded.instruction = kind.instruction operands := by
  have accepted : (∃ decoded, decode opcode = .ok decoded) ↔
      0 ≤ opcode ∧ opcode ≤ 0xFFFF ∧ ∃ kind : Kind, kind.Applies opcode := by
    constructor
    · rintro ⟨decoded, found⟩
      obtain ⟨⟨low, high⟩, -⟩ := decode_eq_ok_iff.mp found
      exact ⟨low, high, decoded.op, applies_of_decode found⟩
    · rintro ⟨-, -, kind, applies⟩
      obtain ⟨decoded, found, -⟩ := decode_of_applies applies
      exact ⟨decoded, found⟩
  refine ⟨accepted, decode_eq_error_iff.trans (not_congr accepted), ?_, fun _ _ => decode_word⟩
  intro decoded found
  obtain ⟨⟨low, -⟩, -, operands, same⟩ := decode_eq_ok_iff.mp found
  obtain ⟨byte, address⟩ := operands_ofWord opcode.toNat
  rw [← operands] at byte address
  refine ⟨?_, same, word_of_decode found, byte, address, ?_⟩
  · intro kind
    constructor
    · intro applies
      obtain ⟨other, found', op⟩ := decode_of_applies applies
      rw [← op, Except.ok.inj (found'.symm.trans found)]
    · rintro rfl
      exact applies_of_decode found
  · have low12 : (Operands.ofWord opcode.toNat).nnn.val = opcode.toNat % 0x1000 :=
      Opcode.val_nnn opcode.toNat
    rw [operands, low12]
    omega

end Chip8.Instruction
