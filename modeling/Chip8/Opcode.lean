/-!
The operand fields of an instruction word. Its four hexadecimal digits are the family, `x`,
`y` and `n`; `kk` is the low byte and `nnn` the low twelve bits.
-/

namespace Chip8

/-- The number of a register, or another operand of one hexadecimal digit. -/
abbrev Nibble := Fin 16

/-- Nibbles are written as numbers. -/
instance Nibble.neZero : @NeZero Nat Zero.ofOfNat0 16 := ⟨by decide⟩

/-- An operand of three hexadecimal digits. -/
abbrev Address := Fin 4096

namespace Opcode

/-- Bytes that one instruction takes in memory. -/
def width : Nat := 2

def family (word : Nat) : Nat := (word &&& 0xF000) >>> 12

def x (word : Nat) : Nibble := Fin.ofNat 16 ((word &&& 0xF00) >>> 8)

def y (word : Nat) : Nibble := Fin.ofNat 16 ((word &&& 0xF0) >>> 4)

def n (word : Nat) : Nibble := Fin.ofNat 16 (word &&& 0xF)

def kk (word : Nat) : UInt8 := UInt8.ofNat (word &&& 0xFF)

def nnn (word : Nat) : Address := Fin.ofNat 4096 (word &&& 0xFFF)

end Opcode

end Chip8
