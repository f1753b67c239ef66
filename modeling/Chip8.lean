import Chip8.Instruction.Kind
import Chip8.Main
import Chip8.Proofs.Addressing
import Chip8.Proofs.Arithmetic
import Chip8.Proofs.BoundedList
import Chip8.Proofs.Closing
import Chip8.Proofs.Colours
import Chip8.Proofs.Crashes
import Chip8.Proofs.Disassembly
import Chip8.Proofs.Doubles
import Chip8.Proofs.Exits
import Chip8.Proofs.Faults
import Chip8.Proofs.Glyphs
import Chip8.Proofs.Image
import Chip8.Proofs.KeyEvents
import Chip8.Proofs.KeyWrites
import Chip8.Proofs.Painting
import Chip8.Proofs.Patterns
import Chip8.Proofs.Randomness
import Chip8.Proofs.Rates
import Chip8.Proofs.Reports
import Chip8.Proofs.Restart
import Chip8.Proofs.Saving
import Chip8.Proofs.Schedule
import Chip8.Proofs.Splitting
import Chip8.Proofs.Sprites
import Chip8.Proofs.Stores
import Chip8.Proofs.Subroutines
import Chip8.Proofs.Timers
import Chip8.Proofs.Tracing
import Chip8.Proofs.Translation
import Chip8.Proofs.Views
