import Chip8.Opcode

/-!
The instructions of the machine, with the operands that their words hold. Each comment gives
the word: hexadecimal digits stand for themselves and letters for an operand.
-/

namespace Chip8

inductive Instruction where
  /-- `0nnn`, except `00E0` and `00EE`: a machine code routine, which is not run. -/
  | sys (target : Address)
  /-- `00E0`: clear the screen. -/
  | clear
  /-- `00EE`: return from a subroutine. -/
  | ret
  /-- `1nnn`: jump. -/
  | jump (target : Address)
  /-- `2nnn`: call a subroutine. -/
  | call (target : Address)
  /-- `3xkk`: skip the next instruction if the register holds the byte. -/
  | skipEqualByte (x : Nibble) (byte : UInt8)
  /-- `4xkk`: skip the next instruction if the register does not hold the byte. -/
  | skipUnequalByte (x : Nibble) (byte : UInt8)
  /-- `5xy0`: skip the next instruction if the registers are equal. -/
  | skipEqual (x y : Nibble)
  /-- `6xkk`: load a byte. -/
  | loadByte (x : Nibble) (byte : UInt8)
  /-- `7xkk`: add a byte, without carry. -/
  | addByte (x : Nibble) (byte : UInt8)
  /-- `8xy0`: copy a register. -/
  | load (x y : Nibble)
  /-- `8xy1` -/
  | or (x y : Nibble)
  /-- `8xy2` -/
  | and (x y : Nibble)
  /-- `8xy3` -/
  | xor (x y : Nibble)
  /-- `8xy4`: add, with carry. -/
  | add (x y : Nibble)
  /-- `8xy5`: subtract the second register from the first. -/
  | sub (x y : Nibble)
  /-- `8xy6`: shift right. The second register is not read. -/
  | shiftRight (x y : Nibble)
  /-- `8xy7`: subtract the first register from the second. -/
  | subFrom (x y : Nibble)
  /-- `8xyE`: shift left. The second register is not read. -/
  | shiftLeft (x y : Nibble)
  /-- `9xy0`: skip the next instruction if the registers differ. -/
  | skipUnequal (x y : Nibble)
  /-- `Annn`: load the index register. -/
  | loadIndex (target : Address)
  /-- `Bnnn`: jump, offset by register 0. -/
  | jumpOffset (target : Address)
  /-- `Cxkk`: a random byte under a mask. -/
  | random (x : Nibble) (mask : UInt8)
  /-- `Dxyn`: draw a sprite of `n` rows. -/
  | draw (x y : Nibble) (rows : Nibble)
  /-- `Ex9E`: skip the next instruction if the key is down. -/
  | skipDown (x : Nibble)
  /-- `ExA1`: skip the next instruction if the key is up. -/
  | skipUp (x : Nibble)
  /-- `Fx07`: read the delay timer. -/
  | readDelay (x : Nibble)
  /-- `Fx0A`: wait for a key. -/
  | awaitKey (x : Nibble)
  /-- `Fx15`: set the delay timer. -/
  | setDelay (x : Nibble)
  /-- `Fx18`: set the sound timer. -/
  | setSound (x : Nibble)
  /-- `Fx1E`: add to the index register. -/
  | addIndex (x : Nibble)
  /-- `Fx29`: point the index register at a glyph. -/
  | pointGlyph (x : Nibble)
  /-- `Fx33`: store the three decimal digits. -/
  | storeDecimal (x : Nibble)
  /-- `Fx55`: store registers 0 to `x`. -/
  | storeRegisters (x : Nibble)
  /-- `Fx65`: load registers 0 to `x`. -/
  | loadRegisters (x : Nibble)
  deriving DecidableEq, Repr

end Chip8
