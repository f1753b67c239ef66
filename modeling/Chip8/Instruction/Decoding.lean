import Chip8.Instruction.Kind
import Chip8.Text.Hex

/-!
From words to instructions, in two stages. The first digit of a word is its family. Some families
have one operation each; in the others a mask takes away the operands, and what is left tells the
operation. A word of family 0 that is not listed is a machine code routine, and any other word that
is not listed is refused.
-/

namespace Chip8.Instruction

/-- The operand fields of a word. Which of them count is a matter of the operation. -/
structure Operands where
  x : Nibble
  y : Nibble
  n : Nibble
  kk : UInt8
  nnn : Address
  deriving DecidableEq, Repr

def Operands.ofWord (word : Nat) : Operands where
  x := Opcode.x word
  y := Opcode.y word
  n := Opcode.n word
  kk := Opcode.kk word
  nnn := Opcode.nnn word

/-- What is known of a word when it has been decoded. -/
structure Decoded extends Operands where
  op : Kind
  opcode : Int
  deriving DecidableEq, Repr

/-- The instruction of a kind with its operands. The fields that it does not read are ignored. -/
def Kind.instruction (operands : Operands) : Kind → Instruction
  | .sys => .sys operands.nnn
  | .clear => .clear
  | .ret => .ret
  | .jump => .jump operands.nnn
  | .call => .call operands.nnn
  | .skipEqualByte => .skipEqualByte operands.x operands.kk
  | .skipUnequalByte => .skipUnequalByte operands.x operands.kk
  | .skipEqual => .skipEqual operands.x operands.y
  | .loadByte => .loadByte operands.x operands.kk
  | .addByte => .addByte operands.x operands.kk
  | .load => .load operands.x operands.y
  | .or => .or operands.x operands.y
  | .and => .and operands.x operands.y
  | .xor => .xor operands.x operands.y
  | .add => .add operands.x operands.y
  | .sub => .sub operands.x operands.y
  | .shiftRight => .shiftRight operands.x operands.y
  | .subFrom => .subFrom operands.x operands.y
  | .shiftLeft => .shiftLeft operands.x operands.y
  | .skipUnequal => .skipUnequal operands.x operands.y
  | .loadIndex => .loadIndex operands.nnn
  | .jumpOffset => .jumpOffset operands.nnn
  | .random => .random operands.x operands.kk
  | .draw => .draw operands.x operands.y operands.n
  | .skipDown => .skipDown operands.x
  | .skipUp => .skipUp operands.x
  | .readDelay => .readDelay operands.x
  | .awaitKey => .awaitKey operands.x
  | .setDelay => .setDelay operands.x
  | .setSound => .setSound operands.x
  | .addIndex => .addIndex operands.x
  | .pointGlyph => .pointGlyph operands.x
  | .storeDecimal => .storeDecimal operands.x
  | .storeRegisters => .storeRegisters operands.x
  | .loadRegisters => .loadRegisters operands.x

/-- The instruction, without the fields that its operation does not read. -/
def Decoded.instruction (decoded : Decoded) : Instruction :=
  decoded.op.instruction decoded.toOperands

/-! ### Tables -/

/-- Families that have one operation each. -/
def families : List (Nat × Kind) :=
  [(0x1, .jump), (0x2, .call), (0x3, .skipEqualByte), (0x4, .skipUnequalByte), (0x6, .loadByte),
   (0x7, .addByte), (0xA, .loadIndex), (0xB, .jumpOffset), (0xC, .random), (0xD, .draw)]

/-- The other families, each with the mask of the digits that tell its operations apart. -/
def familyMasks : List (Nat × Nat) :=
  [(0x0, 0xFFFF), (0x5, 0xF00F), (0x8, 0xF00F), (0x9, 0xF00F), (0xE, 0xF0FF), (0xF, 0xF0FF)]

/-- The operations of masked words. -/
def maskedOpcodes : List (Nat × Kind) :=
  [(0x00E0, .clear), (0x00EE, .ret),
   (0x5000, .skipEqual),
   (0x8000, .load), (0x8001, .or), (0x8002, .and), (0x8003, .xor), (0x8004, .add), (0x8005, .sub),
   (0x8006, .shiftRight), (0x8007, .subFrom), (0x800E, .shiftLeft),
   (0x9000, .skipUnequal),
   (0xE09E, .skipDown), (0xE0A1, .skipUp),
   (0xF007, .readDelay), (0xF00A, .awaitKey), (0xF015, .setDelay), (0xF018, .setSound),
   (0xF01E, .addIndex), (0xF029, .pointGlyph), (0xF033, .storeDecimal), (0xF055, .storeRegisters),
   (0xF065, .loadRegisters)]

/-! ### Decoding -/

/-- The operation of a word of 16 bits. -/
def operation? (word : Nat) : Option Kind :=
  let family := Opcode.family word
  match families.lookup family with
  | some kind => some kind
  | none =>
      match (familyMasks.lookup family).bind fun mask => maskedOpcodes.lookup (word &&& mask) with
      | some kind => some kind
      | none => if family = 0x0 then some .sys else none

/-- The refusal of an integer that is no instruction word. -/
structure Unknown where
  opcode : Int
  deriving DecidableEq, Repr

def Unknown.message (unknown : Unknown) : String :=
  "Opcode 0x" ++ Text.paddedHex 4 unknown.opcode ++ " is not a recognised instruction"

/-- Decodes any integer. What is no word of 16 bits is refused as an unknown word is. -/
def decode (opcode : Int) : Except Unknown Decoded :=
  if 0 ≤ opcode ∧ opcode ≤ 0xFFFF then
    match operation? opcode.toNat with
    | some op => .ok ⟨.ofWord opcode.toNat, op, opcode⟩
    | none => .error ⟨opcode⟩
  else
    .error ⟨opcode⟩

end Chip8.Instruction
