import Chip8.Instruction
import Chip8.Text.Hex
import Chip8.Text.Line

/-!
The assembler lines of instructions, with lower-case hexadecimal operands. A line determines
what the instruction does: only a register that is not read is left out.
-/

namespace Chip8.Instruction

private def registerText (x : Nibble) : String := "V" ++ Text.paddedHex 1 (x.val : Int)

private def byteText (byte : UInt8) : String := "0x" ++ Text.paddedHex 2 (byte.toNat : Int)

private def addressText (target : Address) : String := "0x" ++ Text.paddedHex 3 (target.val : Int)

private def pairText (x y : Nibble) : String := registerText x ++ ", " ++ registerText y

/-- The assembler line. A shift does not show the register that it does not read. -/
def mnemonic : Instruction → String
  | .sys target => "SYS " ++ addressText target
  | .clear => "CLS"
  | .ret => "RET"
  | .jump target => "JP " ++ addressText target
  | .call target => "CALL " ++ addressText target
  | .skipEqualByte x byte => "SE " ++ registerText x ++ ", " ++ byteText byte
  | .skipUnequalByte x byte => "SNE " ++ registerText x ++ ", " ++ byteText byte
  | .skipEqual x y => "SE " ++ pairText x y
  | .loadByte x byte => "LD " ++ registerText x ++ ", " ++ byteText byte
  | .addByte x byte => "ADD " ++ registerText x ++ ", " ++ byteText byte
  | .load x y => "LD " ++ pairText x y
  | .or x y => "OR " ++ pairText x y
  | .and x y => "AND " ++ pairText x y
  | .xor x y => "XOR " ++ pairText x y
  | .add x y => "ADD " ++ pairText x y
  | .sub x y => "SUB " ++ pairText x y
  | .shiftRight x _ => "SHR " ++ registerText x
  | .subFrom x y => "SUBN " ++ pairText x y
  | .shiftLeft x _ => "SHL " ++ registerText x
  | .skipUnequal x y => "SNE " ++ pairText x y
  | .loadIndex target => "LD I, " ++ addressText target
  | .jumpOffset target => "JP V0, " ++ addressText target
  | .random x mask => "RND " ++ registerText x ++ ", " ++ byteText mask
  | .draw x y rows => "DRW " ++ pairText x y ++ ", 0x" ++ Text.paddedHex 1 (rows.val : Int)
  | .skipDown x => "SKP " ++ registerText x
  | .skipUp x => "SKNP " ++ registerText x
  | .readDelay x => "LD " ++ registerText x ++ ", DT"
  | .awaitKey x => "LD " ++ registerText x ++ ", K"
  | .setDelay x => "LD DT, " ++ registerText x
  | .setSound x => "LD ST, " ++ registerText x
  | .addIndex x => "ADD I, " ++ registerText x
  | .pointGlyph x => "LD F, " ++ registerText x
  | .storeDecimal x => "LD B, " ++ registerText x
  | .storeRegisters x => "LD [I], " ++ registerText x
  | .loadRegisters x => "LD " ++ registerText x ++ ", [I]"

/-! ### Characters -/

theorem toList_registerText (x : Nibble) : (registerText x).toList = ['V', x.val.digitChar] := by
  simp [registerText, Text.toList_paddedHex_of_lt x.isLt]

theorem toList_byteText (byte : UInt8) :
    (byteText byte).toList =
      ['0', 'x', (byte.toNat / 0x10).digitChar, (byte.toNat % 0x10).digitChar] := by
  rw [byteText, String.toList_append, Text.toList_paddedHex_byte]
  rfl

theorem toList_addressText (target : Address) :
    (addressText target).toList =
      ['0', 'x', (target.val / 0x100).digitChar, (target.val / 0x10 % 0x10).digitChar,
        (target.val % 0x10).digitChar] := by
  rw [addressText, String.toList_append, Text.toList_paddedHex_succ, Text.toList_paddedHex_succ,
    Nat.div_div_eq_div_mul, Text.toList_paddedHex_of_lt (by omega)]
  simp

theorem toList_pairText (x y : Nibble) :
    (pairText x y).toList = ['V', x.val.digitChar, ',', ' ', 'V', y.val.digitChar] := by
  simp [pairText, toList_registerText]

theorem isLine_mnemonic (instruction : Instruction) : Text.IsLine instruction.mnemonic := by
  have hex (width : Nat) (value : Int) : Text.IsLine (Text.paddedHex width value) :=
    Text.isLine_paddedHex width value
  cases instruction <;>
    simp [mnemonic, addressText, byteText, pairText, registerText, hex] <;> decide

end Chip8.Instruction
