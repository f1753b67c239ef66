import Chip8.Memory.Request
import Chip8.Proofs.Access

/-!
Memory as an array of 4096 bytes.

* `Image` — the array, and what each request does to it: one check of the range, and else reads and
  writes of single cells.
* `cell_put`, `cell_initial`, `extract_eq_slice` — what the cells of a memory are as an array.
* `apply_image`, `run_image` — a memory answers every request, and every history of requests, as its
  array does.
* `answer_eq_outOfRange_iff`, `apply_of_error` — which requests are refused for their range, and
  what a refused one leaves.
* `image_of_run` — all of this from a fresh memory.
-/

namespace Chip8.Memory

/-! ### The array -/

/-- The bytes of a memory by their addresses. Only those of the memory are ever touched. -/
abbrev Image := Nat → UInt8

namespace Image

/-- The glyphs, and zeros. -/
def fresh : Image := fun address => Font.glyphs[address]?.getD 0

/-- Replaces the cells from `address` on by the bytes of a block. -/
def put (image : Image) (address : Nat) (block : List UInt8) : Image := fun place =>
  if address ≤ place ∧ place < address + block.length then block[place - address]?.getD 0
  else image place

/-- The bytes of the `size` cells from `address` on. -/
def slice (image : Image) (address size : Nat) : List UInt8 :=
  (List.range size).map fun offset => image (address + offset)

/-- The high and the low byte of a word, in two's complement. -/
def wordBytes (word : Int) : List UInt8 := [UInt8.ofInt (word / 0x100), UInt8.ofInt word]

/-- What a request does that touches addresses of the memory only. -/
def access (image : Image) : Request → Image × Reply
  | .check _ _ => (image, { answer := .ok .done })
  | .read location => (image, { answer := .ok (.byte (image location.toNat)) })
  | .write location value =>
      if 0 ≤ value ∧ value ≤ 255 then
        (image.put location.toNat [UInt8.ofNat value.toNat], { answer := .ok .done })
      else (image, { answer := .error (.notAByte value) })
  | .readWord location =>
      let high := (image location.toNat).toNat
      let low := (image (location.toNat + 1)).toNat
      (image, { answer := .ok (.word (256 * high + low)) })
  | .writeWord location word =>
      (image.put location.toNat (wordBytes word), { answer := .ok .done })
  | .readBlock location size =>
      (image, { answer := .ok (.block (image.slice location.toNat size.toNat)) })
  | .writeBlock location block => (image.put location.toNat block, { answer := .ok .done })
  | .copyInto buffer location size =>
      if size ≤ buffer.length then
        (image, {
          answer := .ok .done
          buffer := image.slice location.toNat size.toNat ++ buffer.drop size.toNat })
      else (image, { answer := .error (.bufferTooSmall size buffer.length), buffer })
  | .loadProgram program => (image.put 0x200 program, { answer := .ok .done })

/-- A request beyond the memory is refused as a whole. -/
def apply (image : Image) (request : Request) : Image × Reply :=
  if request.location < 0 ∨ request.size < 0 ∨ 4096 < request.location + request.size then
    (image, {
      answer := .error (.outOfRange request.location request.size)
      buffer := request.buffer })
  else image.access request

def run (image : Image) : List Request → Image × List Reply
  | [] => (image, [])
  | request :: rest =>
      let (next, reply) := image.apply request
      let (last, replies) := next.run rest
      (last, reply :: replies)

/-- Of a word, the low 16 bits are written. -/
theorem value_wordBytes (word : Int) :
    ∃ high low, wordBytes word = [high, low] ∧
      (256 * high.toNat + low.toNat : Int) = word % 65536 := by
  refine ⟨_, _, rfl, ?_⟩
  simp only [UInt8.ofInt, UInt8.toNat_ofNat']
  omega

end Image

/-! ### Cells -/

/-- A block that ends within memory changes its cells and no others. -/
theorem cell_put (memory : Memory) {address : Nat} {block : List UInt8}
    (fits : address + block.length ≤ 0x1000) :
    (⟨store memory.cells address block⟩ : Memory).cell = Image.put memory.cell address block :=
  funext (memory.cell_store fits)

theorem cell_initial : initial.cell = Image.fresh := by
  have empty : ∀ address, (⟨Vector.replicate 4096 0⟩ : Memory).cell address = 0 := by
    intro address
    simp only [cell, Vector.getElem?_replicate]
    split <;> rfl
  have loaded := cell_put ⟨Vector.replicate 4096 0⟩
    (show Font.location + Font.glyphs.length ≤ 0x1000 by decide)
  funext address
  refine (congrFun loaded address).trans ?_
  simp only [Image.put, Image.fresh, Font.location, empty, Nat.zero_le, true_and, Nat.zero_add,
    Nat.sub_zero]
  split
  next => rfl
  next beyond => rw [List.getElem?_eq_none (Nat.not_lt.mp beyond)]; rfl

theorem extract_eq_slice (memory : Memory) {address size : Nat} (fits : address + size ≤ 0x1000) :
    (memory.cells.extract address (address + size)).toList =
      Image.slice memory.cell address size := by
  refine List.ext_getElem? fun offset => ?_
  rw [Vector.getElem?_toList, Vector.getElem?_extract, Image.slice, List.getElem?_map]
  by_cases inside : offset < size
  · rw [if_pos (by omega), List.getElem?_range inside, Vector.getElem?_eq_getElem (by omega)]
    simp only [Option.map_some, cell]
    rw [Vector.getElem?_eq_getElem (by omega)]
    rfl
  · rw [if_neg (by omega), List.getElem?_eq_none (by simpa using inside)]
    rfl

/-! ### Requests -/

variable {memory : Memory} {request : Request}

/-- The check of the array is the check of the memory. -/
theorem not_inRange_iff {location size : Int} :
    ¬ InRange location size ↔ location < 0 ∨ size < 0 ∨ 4096 < location + size := by
  simp only [InRange, Memory.size]
  omega

theorem Image.apply_eq (image : Image) (request : Request) :
    image.apply request =
      if InRange request.location request.size then image.access request
      else (image, {
        answer := .error (.outOfRange request.location request.size)
        buffer := request.buffer }) := by
  unfold Image.apply
  by_cases inside : InRange request.location request.size
  · rw [if_neg (mt not_inRange_iff.mpr (not_not_intro inside)), if_pos inside]
  · rw [if_pos (not_inRange_iff.mp inside), if_neg inside]

/-- Beyond the memory every request is refused, with its own location and size. -/
theorem apply_of_beyond (beyond : ¬ InRange request.location request.size) :
    memory.apply request = (memory, {
      answer := .error (.outOfRange request.location request.size)
      buffer := request.buffer }) := by
  cases request <;>
    simp only [Request.location, Request.size] at beyond <;>
    simp only [apply, check_eq, read_eq, write_eq, readWord_eq, writeWord_eq, readBlock_eq,
      writeBlock_eq, copyInto_eq, loadProgram_eq, if_neg beyond] <;>
    rfl

/-- A block that is in range changes its cells and no others. -/
theorem cell_put_of_inRange (memory : Memory) {location : Int} {block : List UInt8}
    (inside : InRange location block.length) :
    (⟨store memory.cells location.toNat block⟩ : Memory).cell =
      Image.put memory.cell location.toNat block :=
  memory.cell_put (end_le_of_inRange inside)

/-- The bytes of a block that is in range. -/
theorem extract_of_inRange (memory : Memory) {location size : Int}
    (inside : InRange location size) :
    (memory.cells.extract location.toNat (location + size).toNat).toList =
      Image.slice memory.cell location.toNat size.toNat := by
  rw [Int.toNat_add inside.1 inside.2.1]
  exact memory.extract_eq_slice (end_le_of_inRange inside)

@[simp] theorem Image.length_slice (image : Image) (address size : Nat) :
    (image.slice address size).length = size := by
  simp only [Image.slice, List.length_map, List.length_range]

/-- Within the memory a request does to the cells what it does to the array. -/
theorem apply_of_inRange (inside : InRange request.location request.size) :
    Image.access memory.cell request =
      ((memory.apply request).1.cell, (memory.apply request).2) := by
  cases request with
  | check location size =>
      change InRange location size at inside
      rw [apply, check_eq, if_pos inside]
      rfl
  | read location =>
      change InRange location 1 at inside
      rw [apply, read_eq, if_pos inside]
      rfl
  | readWord location =>
      change InRange location 2 at inside
      rw [apply, readWord_eq, if_pos inside]
      rfl
  | readBlock location size =>
      change InRange location size at inside
      rw [apply, readBlock_eq, if_pos inside, memory.extract_of_inRange inside]
      rfl
  | copyInto buffer location size =>
      change InRange location size at inside
      have sized : (size.toNat : Int) = size := Int.toNat_of_nonneg inside.2.1
      rw [apply, copyInto_eq, if_pos inside, memory.extract_of_inRange inside, Image.access]
      simp only [Image.length_slice]
      by_cases room : size ≤ buffer.length
      · rw [if_pos room, if_pos (by omega)]
        rfl
      · rw [if_neg room, if_neg (by omega)]
        rfl
  | write location value =>
      change InRange location 1 at inside
      rw [apply, write_eq, if_pos inside, Image.access]
      by_cases byte : 0 ≤ value ∧ value ≤ 255
      · rw [if_pos byte, if_pos byte, settle, memory.cell_put_of_inRange inside]
      · rw [if_neg byte, if_neg byte, settle]
  | writeWord location word =>
      change InRange location 2 at inside
      rw [apply, writeWord_eq, if_pos inside, settle, memory.cell_put_of_inRange inside]
      rfl
  | writeBlock location block =>
      change InRange location block.length at inside
      rw [apply, writeBlock_eq, if_pos inside, settle, memory.cell_put_of_inRange inside]
      rfl
  | loadProgram program =>
      change InRange programStart program.length at inside
      rw [apply, loadProgram_eq, writeBlock_eq, if_pos inside, settle,
        memory.cell_put_of_inRange inside]
      rfl

/-! ### Histories -/

/-- A memory answers a request as its array does. -/
theorem apply_image (memory : Memory) (request : Request) :
    Image.apply memory.cell request =
      ((memory.apply request).1.cell, (memory.apply request).2) := by
  rw [Image.apply_eq]
  by_cases inside : InRange request.location request.size
  · rw [if_pos inside]
    exact apply_of_inRange inside
  · rw [if_neg inside, apply_of_beyond inside]

theorem run_image (memory : Memory) (requests : List Request) :
    Image.run memory.cell requests =
      ((memory.run requests).1.cell, (memory.run requests).2) := by
  induction requests generalizing memory with
  | nil => rfl
  | cons request rest ih =>
      simp only [Image.run, run, memory.apply_image request, ih]

/-- A refused request leaves everything as it was. -/
theorem apply_of_error {fault : Fault}
    (refused : (memory.apply request).2.answer = .error fault) :
    (memory.apply request).1 = memory ∧ (memory.apply request).2.buffer = request.buffer := by
  by_cases inside : InRange request.location request.size
  · cases request with
    | check _ _ | read _ | readWord _ | readBlock _ _ => exact ⟨rfl, rfl⟩
    | write location value =>
        change InRange location 1 at inside
        rw [apply, write_eq, if_pos inside] at refused ⊢
        by_cases byte : 0 ≤ value ∧ value ≤ 0xFF
        · rw [if_pos byte] at refused
          cases refused
        · rw [if_neg byte]
          exact ⟨rfl, rfl⟩
    | writeWord location word =>
        change InRange location 2 at inside
        rw [apply, writeWord_eq, if_pos inside] at refused
        cases refused
    | writeBlock location block =>
        change InRange location block.length at inside
        rw [apply, writeBlock_eq, if_pos inside] at refused
        cases refused
    | loadProgram program =>
        change InRange programStart program.length at inside
        rw [apply, loadProgram_eq, writeBlock_eq, if_pos inside] at refused
        cases refused
    | copyInto buffer location size =>
        change InRange location size at inside
        rw [apply, copyInto_eq, if_pos inside] at refused ⊢
        refine ⟨rfl, ?_⟩
        by_cases room :
            (memory.cells.extract location.toNat (location + size).toNat).toList.length ≤
              buffer.length
        · simp only [if_pos room] at refused
          cases refused
        · simp only [if_neg room]
          rfl
  · rw [apply_of_beyond inside]
    exact ⟨rfl, rfl⟩

/-- Within the memory no request is refused for its range. -/
theorem Image.answer_access_ne (image : Image) (request : Request) (location size : Int) :
    (image.access request).2.answer ≠ .error (.outOfRange location size) := by
  cases request with
  | check _ _ | read _ | readWord _ | readBlock _ _ | writeWord _ _ | writeBlock _ _
  | loadProgram _ => exact nofun
  | write _ _ | copyInto _ _ _ =>
      rw [access]
      split <;> exact nofun

/-- The range of a request alone decides whether it is refused for it. -/
theorem answer_eq_outOfRange_iff (memory : Memory) (request : Request) (location size : Int) :
    (memory.apply request).2.answer = .error (.outOfRange location size) ↔
      (location = request.location ∧ size = request.size) ∧
        ¬ InRange request.location request.size := by
  by_cases inside : InRange request.location request.size
  · have answered : (memory.apply request).2 = (Image.access memory.cell request).2 := by
      rw [apply_of_inRange inside]
    rw [answered]
    exact iff_of_false (Image.answer_access_ne _ _ _ _) fun refused => refused.2 inside
  · rw [apply_of_beyond inside]
    constructor
    · rintro ⟨⟩
      exact ⟨⟨rfl, rfl⟩, inside⟩
    · rintro ⟨⟨rfl, rfl⟩, -⟩
      rfl

/-- A program is refused when it is too long for what is left of the memory. -/
theorem loadProgram_refused_iff (memory : Memory) (program : List UInt8) :
    (∃ fault, (memory.loadProgram program).2 = some fault) ↔ 3584 < program.length := by
  have fits : InRange programStart program.length ↔ program.length ≤ 3584 := by
    simp only [InRange, Memory.size, programStart]
    omega
  rw [loadProgram_eq, writeBlock_eq]
  by_cases inside : InRange programStart program.length
  · rw [if_pos inside]
    refine iff_of_false ?_ (Nat.not_lt.mpr (fits.mp inside))
    rintro ⟨fault, refused⟩
    cases refused
  · rw [if_neg inside]
    exact iff_of_true ⟨_, rfl⟩ (Nat.lt_of_not_le (mt fits.mpr inside))

/-- After every history of requests a fresh memory is an array of 4096 bytes: it has given every
answer, and holds every byte, that the array does under one check of the range and reads and writes
of single cells. A request that is refused changes nothing. -/
theorem image_of_run (requests : List Request) :
    let memory := (initial.run requests).1
    let image := (Image.fresh.run requests).1
    (initial.run requests).2 = (Image.fresh.run requests).2 ∧
      (∀ address, memory.cell address = image address) ∧
      (∀ request : Request,
        (∀ location size : Int,
          (memory.apply request).2.answer = .error (.outOfRange location size) ↔
            (location = request.location ∧ size = request.size) ∧
              (location < 0 ∨ size < 0 ∨ 4096 < location + size)) ∧
        ∀ fault, (memory.apply request).2.answer = .error fault →
          (memory.apply request).1 = memory ∧
            (memory.apply request).2.buffer = request.buffer) ∧
      (∀ program,
        memory.loadProgram program = memory.writeBlock 0x200 program ∧
          ((∃ fault, (memory.loadProgram program).2 = some fault) ↔ 3584 < program.length)) ∧
      ∀ word : Int, ∃ high low, Image.wordBytes word = [high, low] ∧
        (256 * high.toNat + low.toNat : Int) = word % 65536 := by
  intro memory image
  have history := initial.run_image requests
  rw [cell_initial] at history
  refine ⟨(congrArg Prod.snd history).symm, ?_, ?_, ?_, Image.value_wordBytes⟩
  · intro address
    exact congrFun (congrArg Prod.fst history).symm address
  · intro request
    constructor
    · intro location size
      rw [memory.answer_eq_outOfRange_iff request location size]
      refine and_congr_right ?_
      rintro ⟨rfl, rfl⟩
      exact not_inRange_iff
    · intro fault refused
      exact apply_of_error refused
  · intro program
    exact ⟨memory.loadProgram_eq program, memory.loadProgram_refused_iff program⟩

end Chip8.Memory
