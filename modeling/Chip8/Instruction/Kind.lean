import Chip8.Instruction

/-!
The thirty-five kinds of instruction, without operands.
-/

namespace Chip8.Instruction

/-- The kinds of instruction, in the order of their words. -/
inductive Kind where
  | sys | clear | ret | jump | call | skipEqualByte | skipUnequalByte | skipEqual | loadByte
  | addByte | load | or | and | xor | add | sub | shiftRight | subFrom | shiftLeft
  | skipUnequal | loadIndex | jumpOffset | random | draw | skipDown | skipUp | readDelay
  | awaitKey | setDelay | setSound | addIndex | pointGlyph | storeDecimal | storeRegisters
  | loadRegisters
  deriving DecidableEq, Repr

def kind : Instruction → Kind
  | .sys _ => .sys
  | .clear => .clear
  | .ret => .ret
  | .jump _ => .jump
  | .call _ => .call
  | .skipEqualByte _ _ => .skipEqualByte
  | .skipUnequalByte _ _ => .skipUnequalByte
  | .skipEqual _ _ => .skipEqual
  | .loadByte _ _ => .loadByte
  | .addByte _ _ => .addByte
  | .load _ _ => .load
  | .or _ _ => .or
  | .and _ _ => .and
  | .xor _ _ => .xor
  | .add _ _ => .add
  | .sub _ _ => .sub
  | .shiftRight _ _ => .shiftRight
  | .subFrom _ _ => .subFrom
  | .shiftLeft _ _ => .shiftLeft
  | .skipUnequal _ _ => .skipUnequal
  | .loadIndex _ => .loadIndex
  | .jumpOffset _ => .jumpOffset
  | .random _ _ => .random
  | .draw _ _ _ => .draw
  | .skipDown _ => .skipDown
  | .skipUp _ => .skipUp
  | .readDelay _ => .readDelay
  | .awaitKey _ => .awaitKey
  | .setDelay _ => .setDelay
  | .setSound _ => .setSound
  | .addIndex _ => .addIndex
  | .pointGlyph _ => .pointGlyph
  | .storeDecimal _ => .storeDecimal
  | .storeRegisters _ => .storeRegisters
  | .loadRegisters _ => .loadRegisters

/-- Every kind once, in the order of declaration. -/
def Kind.all : List Kind :=
  [.sys, .clear, .ret, .jump, .call, .skipEqualByte, .skipUnequalByte, .skipEqual, .loadByte,
   .addByte, .load, .or, .and, .xor, .add, .sub, .shiftRight, .subFrom, .shiftLeft,
   .skipUnequal, .loadIndex, .jumpOffset, .random, .draw, .skipDown, .skipUp, .readDelay,
   .awaitKey, .setDelay, .setSound, .addIndex, .pointGlyph, .storeDecimal, .storeRegisters,
   .loadRegisters]

/-- The name of a kind: the assembler's word, and its operands where words are shared. -/
def Kind.name : Kind → String
  | .sys => "SYS"
  | .clear => "CLS"
  | .ret => "RET"
  | .jump => "JP"
  | .call => "CALL"
  | .skipEqualByte => "SE_VX_KK"
  | .skipUnequalByte => "SNE_VX_KK"
  | .skipEqual => "SE_VX_VY"
  | .loadByte => "LD_VX_KK"
  | .addByte => "ADD_VX_KK"
  | .load => "LD_VX_VY"
  | .or => "OR"
  | .and => "AND"
  | .xor => "XOR"
  | .add => "ADD_VX_VY"
  | .sub => "SUB"
  | .shiftRight => "SHR"
  | .subFrom => "SUBN"
  | .shiftLeft => "SHL"
  | .skipUnequal => "SNE_VX_VY"
  | .loadIndex => "LD_I"
  | .jumpOffset => "JP_V0"
  | .random => "RND"
  | .draw => "DRW"
  | .skipDown => "SKP"
  | .skipUp => "SKNP"
  | .readDelay => "LD_VX_DT"
  | .awaitKey => "LD_VX_K"
  | .setDelay => "LD_DT_VX"
  | .setSound => "LD_ST_VX"
  | .addIndex => "ADD_I_VX"
  | .pointGlyph => "LD_F_VX"
  | .storeDecimal => "LD_B_VX"
  | .storeRegisters => "LD_I_VX"
  | .loadRegisters => "LD_VX_I"

end Chip8.Instruction
