import Chip8.Instruction.Decoding

/-!
The words of instructions: the inverse of decoding.

* `toWord_of_ofWord?` — decoding loses nothing: the word comes back from the instruction.
* `ofWord?_toWord` — decoding is complete: every instruction is read from its word, except for
  machine code routines whose words have another meaning.

In between stand the tables of the decoder. What a mask takes away from a word is what the operands
put back (`toWord_of_mem_maskedOpcodes`).
-/

namespace Chip8

namespace Opcode

/-! ### Fields and masks as digits -/

/-- Some digits of a word, cut out by a mask. -/
theorem masked_shift (word place digits : Nat) :
    (word &&& (Nat.pow 2 digits - 1) <<< place) >>> place =
      word / Nat.pow 2 place % Nat.pow 2 digits := by
  have mask : (Nat.pow 2 digits - 1) <<< place >>> place = Nat.pow 2 digits - 1 :=
    Nat.shiftLeft_shiftRight _ _
  rw [Nat.shiftRight_and_distrib, mask, Nat.shiftRight_eq_div_pow]
  exact Nat.and_two_pow_sub_one_eq_mod _ _

theorem family_eq (word : Nat) : family word = word / 0x1000 % 0x10 := masked_shift word 12 4

theorem val_x (word : Nat) : (x word).val = word / 0x100 % 0x10 := by
  have digits : (word &&& 0xF00) >>> 8 = word / 0x100 % 0x10 := masked_shift word 8 4
  rw [x, digits]
  exact Nat.mod_mod _ _

theorem val_y (word : Nat) : (y word).val = word / 0x10 % 0x10 := by
  have digits : (word &&& 0xF0) >>> 4 = word / 0x10 % 0x10 := masked_shift word 4 4
  rw [y, digits]
  exact Nat.mod_mod _ _

theorem val_n (word : Nat) : (n word).val = word % 0x10 := by
  have digits : word &&& 0xF = word % 0x10 := Nat.and_two_pow_sub_one_eq_mod word 4
  rw [n, digits]
  exact Nat.mod_mod _ _

theorem toNat_kk (word : Nat) : (kk word).toNat = word % 0x100 := by
  have digits : word &&& 0xFF = word % 0x100 := Nat.and_two_pow_sub_one_eq_mod word 8
  rw [kk, digits, UInt8.toNat_ofNat']
  exact Nat.mod_mod _ _

theorem val_nnn (word : Nat) : (nnn word).val = word % 0x1000 := by
  have digits : word &&& 0xFFF = word % 0x1000 := Nat.and_two_pow_sub_one_eq_mod word 12
  rw [nnn, digits]
  exact Nat.mod_mod _ _

/-- A mask over two parts of a word is two masks. -/
theorem and_split (word mask place : Nat) :
    word &&& mask =
      (word % Nat.pow 2 place &&& mask % Nat.pow 2 place) +
        Nat.pow 2 place * (word / Nat.pow 2 place &&& mask / Nat.pow 2 place) := by
  have low := @Nat.and_mod_two_pow word mask place
  have high := @Nat.and_div_two_pow word mask place
  exact (Nat.mod_add_div _ _).symm.trans (congr (congrArg _ low) (congrArg _ high))

/-- The mask of all digits. -/
theorem and_all {word : Nat} (small : word < 0x10000) : word &&& 0xFFFF = word := by
  have digits : word &&& 0xFFFF = word % 0x10000 := Nat.and_two_pow_sub_one_eq_mod word 16
  omega

/-- The mask of the first and the last digit. -/
theorem and_ends (word : Nat) : word &&& 0xF00F = 0x1000 * family word + (n word).val := by
  have split : word &&& 0xF00F = (word % 0x1000 &&& 0xF) + 0x1000 * (word / 0x1000 &&& 0xF) :=
    and_split word 0xF00F 12
  have low : word % 0x1000 &&& 0xF = word % 0x1000 % 0x10 := Nat.and_two_pow_sub_one_eq_mod _ 4
  have high : word / 0x1000 &&& 0xF = word / 0x1000 % 0x10 := Nat.and_two_pow_sub_one_eq_mod _ 4
  rw [split, low, high, family_eq, val_n]
  omega

/-- The mask of the first digit and the last two. -/
theorem and_function (word : Nat) : word &&& 0xF0FF = 0x1000 * family word + (kk word).toNat := by
  have split : word &&& 0xF0FF = (word % 0x1000 &&& 0xFF) + 0x1000 * (word / 0x1000 &&& 0xF) :=
    and_split word 0xF0FF 12
  have low : word % 0x1000 &&& 0xFF = word % 0x1000 % 0x100 := Nat.and_two_pow_sub_one_eq_mod _ 8
  have high : word / 0x1000 &&& 0xF = word / 0x1000 % 0x10 := Nat.and_two_pow_sub_one_eq_mod _ 4
  rw [split, low, high, family_eq, toNat_kk]
  omega

/-! ### Words from their operands -/

/-- A word of a family whose operand is an address. -/
def ofAddress (family : Nat) (target : Address) : Nat := 0x1000 * family + target.val

/-- A word of a family whose operands are a register and a byte. -/
def ofByte (family : Nat) (x : Nibble) (byte : UInt8) : Nat :=
  0x1000 * family + 0x100 * x.val + byte.toNat

/-- A word of a family whose operands are registers; `digit` tells its members apart. -/
def ofDigits (family : Nat) (x y digit : Nibble) : Nat :=
  0x1000 * family + 0x100 * x.val + 0x10 * y.val + digit.val

/-! The digits of a word, as far as they tell its operands. -/

@[simp] theorem ofAddress_div (family : Nat) (target : Address) :
    ofAddress family target / 0x1000 = family := by
  rw [ofAddress]
  omega

@[simp] theorem ofByte_div (family : Nat) (x : Nibble) (byte : UInt8) :
    ofByte family x byte / 0x1000 = family := by
  have small := byte.toNat_lt
  rw [ofByte]
  omega

@[simp] theorem ofByte_mod (family : Nat) (x : Nibble) (byte : UInt8) :
    ofByte family x byte % 0x100 = byte.toNat := by
  have small := byte.toNat_lt
  rw [ofByte]
  omega

@[simp] theorem ofByte_div_mod (family : Nat) (x : Nibble) (byte : UInt8) :
    ofByte family x byte / 0x100 % 0x10 = x.val := by
  have small := byte.toNat_lt
  rw [ofByte]
  omega

@[simp] theorem ofDigits_div (family : Nat) (x y digit : Nibble) :
    ofDigits family x y digit / 0x1000 = family := by
  rw [ofDigits]
  omega

@[simp] theorem ofDigits_mod (family : Nat) (x y digit : Nibble) :
    ofDigits family x y digit % 0x10 = digit.val := by
  rw [ofDigits]
  omega

/-! A word is made up of its fields. -/

variable {word : Nat}

theorem ofAddress_fields (small : word < 0x10000) : ofAddress (family word) (nnn word) = word := by
  rw [ofAddress, family_eq, val_nnn]
  omega

theorem ofByte_fields (small : word < 0x10000) :
    ofByte (family word) (x word) (kk word) = word := by
  rw [ofByte, family_eq, val_x, toNat_kk]
  omega

theorem ofDigits_fields (small : word < 0x10000) :
    ofDigits (family word) (x word) (y word) (n word) = word := by
  rw [ofDigits, family_eq, val_x, val_y, val_n]
  omega

/-! The first digit of a word is its family. -/

@[simp] theorem family_ofAddress {number : Nat} (digit : number < 0x10) (target : Address) :
    family (ofAddress number target) = number := by
  rw [family_eq, ofAddress_div]
  exact Nat.mod_eq_of_lt digit

@[simp] theorem family_ofByte {number : Nat} (digit : number < 0x10) (x : Nibble) (byte : UInt8) :
    family (ofByte number x byte) = number := by
  rw [family_eq, ofByte_div]
  exact Nat.mod_eq_of_lt digit

@[simp] theorem family_ofDigits {number : Nat} (digit : number < 0x10) (x y last : Nibble) :
    family (ofDigits number x y last) = number := by
  rw [family_eq, ofDigits_div]
  exact Nat.mod_eq_of_lt digit

/-! The sizes of words. -/

theorem ofAddress_lt {family : Nat} (digit : family < 0x10) (target : Address) :
    ofAddress family target < 0x10000 := by
  simp only [ofAddress]
  omega

theorem ofByte_lt {family : Nat} (digit : family < 0x10) (x : Nibble) (byte : UInt8) :
    ofByte family x byte < 0x10000 := by
  have small := byte.toNat_lt
  simp only [ofByte]
  omega

theorem ofDigits_lt {family : Nat} (digit : family < 0x10) (x y last : Nibble) :
    ofDigits family x y last < 0x10000 := by
  simp only [ofDigits]
  omega

/-! The operands of a word. -/

@[simp] theorem nnn_ofAddress (family : Nat) (target : Address) :
    nnn (ofAddress family target) = target := by
  refine Fin.ext ?_
  rw [val_nnn, ofAddress]
  omega

@[simp] theorem x_ofByte (family : Nat) (digit : Nibble) (byte : UInt8) :
    x (ofByte family digit byte) = digit := by
  refine Fin.ext ?_
  rw [val_x, ofByte_div_mod]

@[simp] theorem kk_ofByte (family : Nat) (digit : Nibble) (byte : UInt8) :
    kk (ofByte family digit byte) = byte := by
  refine UInt8.toNat_inj.mp ?_
  rw [toNat_kk, ofByte_mod]

@[simp] theorem x_ofDigits (family : Nat) (first second digit : Nibble) :
    x (ofDigits family first second digit) = first := by
  refine Fin.ext ?_
  rw [val_x, ofDigits]
  omega

@[simp] theorem y_ofDigits (family : Nat) (first second digit : Nibble) :
    y (ofDigits family first second digit) = second := by
  refine Fin.ext ?_
  rw [val_y, ofDigits]
  omega

@[simp] theorem n_ofDigits (family : Nat) (first second digit : Nibble) :
    n (ofDigits family first second digit) = digit := by
  refine Fin.ext ?_
  rw [val_n, ofDigits_mod]

end Opcode

namespace Instruction

/-- The word of an instruction. -/
def toWord : Instruction → Nat
  | .sys target => Opcode.ofAddress 0x0 target
  | .clear => 0x00E0
  | .ret => 0x00EE
  | .jump target => Opcode.ofAddress 0x1 target
  | .call target => Opcode.ofAddress 0x2 target
  | .skipEqualByte x byte => Opcode.ofByte 0x3 x byte
  | .skipUnequalByte x byte => Opcode.ofByte 0x4 x byte
  | .skipEqual x y => Opcode.ofDigits 0x5 x y 0x0
  | .loadByte x byte => Opcode.ofByte 0x6 x byte
  | .addByte x byte => Opcode.ofByte 0x7 x byte
  | .load x y => Opcode.ofDigits 0x8 x y 0x0
  | .or x y => Opcode.ofDigits 0x8 x y 0x1
  | .and x y => Opcode.ofDigits 0x8 x y 0x2
  | .xor x y => Opcode.ofDigits 0x8 x y 0x3
  | .add x y => Opcode.ofDigits 0x8 x y 0x4
  | .sub x y => Opcode.ofDigits 0x8 x y 0x5
  | .shiftRight x y => Opcode.ofDigits 0x8 x y 0x6
  | .subFrom x y => Opcode.ofDigits 0x8 x y 0x7
  | .shiftLeft x y => Opcode.ofDigits 0x8 x y 0xE
  | .skipUnequal x y => Opcode.ofDigits 0x9 x y 0x0
  | .loadIndex target => Opcode.ofAddress 0xA target
  | .jumpOffset target => Opcode.ofAddress 0xB target
  | .random x mask => Opcode.ofByte 0xC x mask
  | .draw x y rows => Opcode.ofDigits 0xD x y rows
  | .skipDown x => Opcode.ofByte 0xE x 0x9E
  | .skipUp x => Opcode.ofByte 0xE x 0xA1
  | .readDelay x => Opcode.ofByte 0xF x 0x07
  | .awaitKey x => Opcode.ofByte 0xF x 0x0A
  | .setDelay x => Opcode.ofByte 0xF x 0x15
  | .setSound x => Opcode.ofByte 0xF x 0x18
  | .addIndex x => Opcode.ofByte 0xF x 0x1E
  | .pointGlyph x => Opcode.ofByte 0xF x 0x29
  | .storeDecimal x => Opcode.ofByte 0xF x 0x33
  | .storeRegisters x => Opcode.ofByte 0xF x 0x55
  | .loadRegisters x => Opcode.ofByte 0xF x 0x65

/-! ### Tables of the decoder -/

variable {word : Nat} {kind : Kind}

/-- What is found in a table stands there. -/
theorem mem_of_lookup {β : Type} {table : List (Nat × β)} {key : Nat} {value : β}
    (found : table.lookup key = some value) : (key, value) ∈ table := by
  obtain ⟨before, after, rfl, -⟩ := List.lookup_eq_some_iff.mp found
  simp

/-- Every family has one operation or a mask, so the search for a mask always finds one. -/
theorem exists_of_family (word : Nat) :
    (∃ kind, families.lookup (Opcode.family word) = some kind) ∨
      ∃ mask, familyMasks.lookup (Opcode.family word) = some mask := by
  have all : ∀ family : Nibble, (families.lookup family.val).isSome ∨
      (familyMasks.lookup family.val).isSome := by decide
  have digit : Opcode.family word < 0x10 := by
    rw [Opcode.family_eq]
    exact Nat.mod_lt _ (by decide)
  rcases all ⟨Opcode.family word, digit⟩ with single | masked
  · exact .inl (Option.isSome_iff_exists.mp single)
  · exact .inr (Option.isSome_iff_exists.mp masked)

/-- How the operation of a word is found: by its family, by what a mask leaves of it, or as a
machine code routine. -/
theorem operation?_cases (found : operation? word = some kind) :
    (Opcode.family word, kind) ∈ families ∨
      (∃ mask, (Opcode.family word, mask) ∈ familyMasks ∧ (word &&& mask, kind) ∈ maskedOpcodes) ∨
      (Opcode.family word = 0x0 ∧ kind = .sys) := by
  unfold operation? at found
  simp only at found
  split at found
  next single =>
    cases found
    exact .inl (mem_of_lookup single)
  next =>
    split at found
    next masked =>
      cases found
      obtain ⟨mask, ofFamily, listed⟩ := Option.bind_eq_some_iff.mp masked
      exact .inr (.inl ⟨mask, mem_of_lookup ofFamily, mem_of_lookup listed⟩)
    next =>
      split at found
      next routine =>
        cases found
        exact .inr (.inr ⟨routine, rfl⟩)
      next => cases found

/-- A family with one operation leaves the other digits to the operands. -/
theorem toWord_of_mem_families (small : word < 0x10000)
    (listed : (Opcode.family word, kind) ∈ families) :
    (kind.instruction (.ofWord word)).toWord = word := by
  have target := Opcode.ofAddress_fields small
  have byte := Opcode.ofByte_fields small
  have digits := Opcode.ofDigits_fields small
  simp only [families, List.mem_cons, List.not_mem_nil, or_false, Prod.mk.injEq] at listed
  rcases listed with ⟨family, rfl⟩ | ⟨family, rfl⟩ | ⟨family, rfl⟩ | ⟨family, rfl⟩ | ⟨family, rfl⟩ |
    ⟨family, rfl⟩ | ⟨family, rfl⟩ | ⟨family, rfl⟩ | ⟨family, rfl⟩ | ⟨family, rfl⟩
  all_goals
    rw [family] at target byte digits
    first
    | exact target
    | exact byte
    | exact digits

/-- What a mask takes away from a word is what the operands put back. -/
theorem toWord_of_mem_maskedOpcodes {value : Nat} (listed : (value, kind) ∈ maskedOpcodes)
    (operands : Operands) :
    (value < 0x1000 → (kind.instruction operands).toWord = value) ∧
      (0x5000 ≤ value ∧ value < 0xA000 →
        (kind.instruction operands).toWord =
          value + 0x100 * operands.x.val + 0x10 * operands.y.val) ∧
      (0xE000 ≤ value → (kind.instruction operands).toWord = value + 0x100 * operands.x.val) := by
  simp only [maskedOpcodes, List.mem_cons, Prod.mk.injEq] at listed
  rcases listed with ⟨rfl, rfl⟩ | ⟨rfl, rfl⟩ | listed
  · exact ⟨fun _ => rfl, by omega, by omega⟩
  · exact ⟨fun _ => rfl, by omega, by omega⟩
  -- One entry after the other, each with its word written out.
  repeat' rcases listed with ⟨rfl, rfl⟩ | listed
  all_goals
    simp only [Kind.instruction, toWord, Opcode.ofByte, Opcode.ofDigits, UInt8.reduceToNat]
    refine ⟨?_, ?_, ?_⟩ <;> omega

/-- The operands of a word give it back with its operation. -/
theorem toWord_of_operation? (small : word < 0x10000) (found : operation? word = some kind) :
    (kind.instruction (.ofWord word)).toWord = word := by
  rcases operation?_cases found with single | ⟨mask, masked, listed⟩ | ⟨routine, rfl⟩
  · exact toWord_of_mem_families small single
  · obtain ⟨literal, digits, function⟩ := toWord_of_mem_maskedOpcodes listed (.ofWord word)
    have whole := Opcode.and_all small
    have ends := Opcode.and_ends word
    have bytes := Opcode.and_function word
    have first := Opcode.family_eq word
    have x : (Operands.ofWord word).x.val = word / 0x100 % 0x10 := Opcode.val_x word
    have y : (Operands.ofWord word).y.val = word / 0x10 % 0x10 := Opcode.val_y word
    rw [Opcode.val_n] at ends
    rw [Opcode.toNat_kk] at bytes
    simp only [familyMasks, List.mem_cons, List.not_mem_nil, or_false, Prod.mk.injEq] at masked
    rcases masked with ⟨family, rfl⟩ | ⟨family, rfl⟩ | ⟨family, rfl⟩ | ⟨family, rfl⟩ |
      ⟨family, rfl⟩ | ⟨family, rfl⟩
    · rw [literal (by omega)]
      exact whole
    · rw [digits (by omega)]
      omega
    · rw [digits (by omega)]
      omega
    · rw [digits (by omega)]
      omega
    · rw [function (by omega)]
      omega
    · rw [function (by omega)]
      omega
  · have target := Opcode.ofAddress_fields small
    rw [routine] at target
    exact target

/-! ### Instructions of words -/

/-- The instruction of a word, if it has one. -/
def ofWord? (word : Nat) : Option Instruction := (decode word).toOption.map Decoded.instruction

/-- A word of 16 bits is decoded by its operation and its operands. -/
theorem decode_of_lt (small : word < 0x10000) :
    decode word =
      match operation? word with
      | some op => .ok ⟨.ofWord word, op, word⟩
      | none => .error ⟨word⟩ := by
  have inside : (0 : Int) ≤ word ∧ (word : Int) ≤ 0xFFFF := by omega
  exact if_pos inside

theorem decode_of_le (large : 0x10000 ≤ word) : decode word = .error ⟨word⟩ :=
  if_neg (by omega)

theorem ofWord?_eq_some_iff_decode {instruction : Instruction} :
    ofWord? word = some instruction ↔
      ∃ decoded, decode word = .ok decoded ∧ decoded.instruction = instruction := by
  rw [ofWord?, Option.map_eq_some_iff]
  cases decode word with
  | ok decoded => simp [Except.toOption]
  | error _ => simp [Except.toOption]

theorem ofWord?_eq_some_iff {instruction : Instruction} :
    ofWord? word = some instruction ↔
      word < 0x10000 ∧ ∃ kind, operation? word = some kind ∧
        kind.instruction (.ofWord word) = instruction := by
  rw [ofWord?]
  by_cases small : word < 0x10000
  · rw [decode_of_lt small]
    cases operation? word with
    | none => simp [Except.toOption]
    | some kind => simp [Except.toOption, small, Decoded.instruction]
  · rw [decode_of_le (by omega)]
    simp [Except.toOption, small]

/-- Decoding loses nothing: the word comes back from its instruction. -/
theorem toWord_of_ofWord? {instruction : Instruction} (found : ofWord? word = some instruction) :
    instruction.toWord = word := by
  obtain ⟨small, kind, operation, rfl⟩ := ofWord?_eq_some_iff.mp found
  exact toWord_of_operation? small operation

/-- Instructions are words of 16 bits. -/
theorem toWord_lt (instruction : Instruction) : instruction.toWord < 0x10000 := by
  cases instruction with
  | clear | ret => decide
  | sys _ | jump _ | call _ | loadIndex _ | jumpOffset _ => exact Opcode.ofAddress_lt (by decide) _
  | skipEqualByte _ _ | skipUnequalByte _ _ | loadByte _ _ | addByte _ _ | random _ _
  | skipDown _ | skipUp _ | readDelay _ | awaitKey _ | setDelay _ | setSound _ | addIndex _
  | pointGlyph _ | storeDecimal _ | storeRegisters _ | loadRegisters _ =>
      exact Opcode.ofByte_lt (by decide) _ _
  | skipEqual _ _ | skipUnequal _ _ | load _ _ | or _ _ | and _ _ | xor _ _ | add _ _ | sub _ _
  | shiftRight _ _ | subFrom _ _ | shiftLeft _ _ | draw _ _ _ =>
      exact Opcode.ofDigits_lt (by decide) _ _ _

/-- The words `00E0` and `00EE` belong to other instructions than machine code routines. -/
def IsProper : Instruction → Prop
  | .sys target => target.val ≠ 0x0E0 ∧ target.val ≠ 0x0EE
  | _ => True

/-! The three ways to find the operation of a word. -/

theorem operation?_of_families (listed : families.lookup (Opcode.family word) = some kind) :
    operation? word = some kind := by
  simp only [operation?, listed]

theorem operation?_of_masked (mask : Nat)
    (several : families.lookup (Opcode.family word) = none)
    (masked : familyMasks.lookup (Opcode.family word) = some mask)
    (listed : maskedOpcodes.lookup (word &&& mask) = some kind) : operation? word = some kind := by
  simp only [operation?, several, masked, Option.bind_some, listed]

/-- A routine of family 0 that is not listed. -/
theorem operation?_of_routine {target : Address}
    (proper : target.val ≠ 0x0E0 ∧ target.val ≠ 0x0EE) :
    operation? (Opcode.ofAddress 0x0 target) = some .sys := by
  have family : Opcode.family (Opcode.ofAddress 0x0 target) = 0x0 :=
    Opcode.family_ofAddress (by decide) target
  have word : Opcode.ofAddress 0x0 target = target.val := by
    rw [Opcode.ofAddress]
    omega
  have unlisted : maskedOpcodes.lookup target.val = none := by
    rw [List.lookup_eq_none_iff]
    simp only [maskedOpcodes, List.forall_mem_cons, bne_iff_ne]
    refine ⟨proper.1, proper.2, ?_⟩
    simp only [List.not_mem_nil, false_imp_iff, implies_true, and_true]
    omega
  have whole : target.val &&& 0xFFFF = target.val := Opcode.and_all (by omega)
  have single : families.lookup 0x0 = none := rfl
  have masked : familyMasks.lookup 0x0 = some 0xFFFF := rfl
  rw [word] at family ⊢
  simp only [operation?, family, single, masked, Option.bind_some, whole, unlisted, if_pos]

/-- Decoding is complete: every instruction is read from its word. -/
theorem ofWord?_toWord {instruction : Instruction} (proper : instruction.IsProper) :
    ofWord? instruction.toWord = some instruction := by
  refine ofWord?_eq_some_iff.mpr ⟨instruction.toWord_lt, instruction.kind, ?_, ?_⟩
  · cases instruction with
    | clear | ret => rfl
    | sys _ => exact operation?_of_routine proper
    | jump _ | call _ | loadIndex _ | jumpOffset _ =>
        refine operation?_of_families ?_
        rw [toWord, Opcode.family_ofAddress (by decide)]
        rfl
    | skipEqualByte _ _ | skipUnequalByte _ _ | loadByte _ _ | addByte _ _ | random _ _ =>
        refine operation?_of_families ?_
        rw [toWord, Opcode.family_ofByte (by decide)]
        rfl
    | draw _ _ _ =>
        refine operation?_of_families ?_
        rw [toWord, Opcode.family_ofDigits (by decide)]
        rfl
    | skipDown _ | skipUp _ | readDelay _ | awaitKey _ | setDelay _ | setSound _ | addIndex _
    | pointGlyph _ | storeDecimal _ | storeRegisters _ | loadRegisters _ =>
        have family {number : Nat} (digit : number < 0x10) (x : Nibble) (byte : UInt8) :=
          Opcode.family_ofByte digit x byte
        refine operation?_of_masked 0xF0FF ?_ ?_ ?_
        · rw [toWord, family (by decide)]
          rfl
        · rw [toWord, family (by decide)]
          rfl
        · rw [Opcode.and_function, toWord, family (by decide), Opcode.kk_ofByte]
          rfl
    | skipEqual _ _ | skipUnequal _ _ | load _ _ | or _ _ | and _ _ | xor _ _ | add _ _ | sub _ _
    | shiftRight _ _ | subFrom _ _ | shiftLeft _ _ =>
        refine operation?_of_masked 0xF00F ?_ ?_ ?_
        · rw [toWord, Opcode.family_ofDigits (by decide)]
          rfl
        · rw [toWord, Opcode.family_ofDigits (by decide)]
          rfl
        · rw [Opcode.and_ends, toWord, Opcode.family_ofDigits (by decide), Opcode.n_ofDigits]
          rfl
  · cases instruction <;> simp [toWord, kind, Kind.instruction, Operands.ofWord]

end Instruction

end Chip8
