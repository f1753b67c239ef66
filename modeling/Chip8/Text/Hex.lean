import Chip8.Text.Line

/-!
Hexadecimal text with lower-case digits, of integers of any size and sign. The width of a
padded number is a least width: a wider number is written in full.
-/

namespace Chip8.Text

/-- `value` in hexadecimal, filled up with zeros to `width` characters. A minus sign comes
before the zeros and counts as one of the characters. -/
def paddedHex (width : Nat) (value : Int) : String :=
  let sign := if value < 0 then ['-'] else []
  let digits := Nat.toDigits 16 value.natAbs
  String.ofList (sign ++ List.replicate (width - sign.length - digits.length) '0' ++ digits)

/-- The value of a hexadecimal digit of ASCII, in either case. -/
def hexDigitValue? (c : Char) : Option Nat :=
  if '0' ≤ c ∧ c ≤ '9' then some (c.toNat - '0'.toNat)
  else if 'a' ≤ c ∧ c ≤ 'f' then some (c.toNat - 'a'.toNat + 10)
  else if 'A' ≤ c ∧ c ≤ 'F' then some (c.toNat - 'A'.toNat + 10)
  else none

/-- The number that digits stand for, the first of them in the highest place. -/
def hexNumber? (digits : List Char) : Option Nat :=
  digits.foldlM (fun value c => (hexDigitValue? c).map (16 * value + ·)) 0

/-- The integer of digits, which a minus sign may precede. -/
def hexInt? : List Char → Option Int
  | '-' :: digits => (hexNumber? digits).map fun value : Nat => -(value : Int)
  | digits => (hexNumber? digits).map fun value : Nat => (value : Int)

/-! ### Characters -/

/-- A digit is read as the number that it is written for. -/
theorem hexDigitValue?_digitChar {digit : Nat} (small : digit < 16) :
    hexDigitValue? digit.digitChar = some digit := by
  revert digit
  decide

theorem digitChar_inj {digit other : Nat} (small : digit < 16) (otherSmall : other < 16)
    (same : digit.digitChar = other.digitChar) : digit = other := by
  have read := congrArg hexDigitValue? same
  rw [hexDigitValue?_digitChar small, hexDigitValue?_digitChar otherSmall] at read
  exact Option.some.inj read

/-! ### Numbers -/

theorem hexNumber?_concat (digits : List Char) (c : Char) :
    hexNumber? (digits ++ [c]) =
      (hexNumber? digits).bind fun value => (hexDigitValue? c).map (16 * value + ·) := by
  rw [hexNumber?, List.foldlM_append]
  refine congrArg (Option.bind _) (funext fun value => ?_)
  exact bind_pure _

theorem isSome_hexNumber?_iff {digits : List Char} :
    (hexNumber? digits).isSome = true ↔ ∀ c ∈ digits, (hexDigitValue? c).isSome = true := by
  unfold hexNumber?
  generalize 0 = start
  induction digits generalizing start with
  | nil => simp
  | cons c rest ih =>
      rw [List.foldlM_cons, List.forall_mem_cons]
      cases hexDigitValue? c with
      | none => simp
      | some digit => exact (ih (16 * start + digit)).trans (by simp)

theorem hexNumber?_zeros_append (count : Nat) (digits : List Char) :
    hexNumber? (List.replicate count '0' ++ digits) = hexNumber? digits := by
  induction count with
  | zero => rfl
  | succ count ih => exact ih

theorem hexNumber?_toDigits (number : Nat) : hexNumber? (Nat.toDigits 16 number) = some number := by
  induction number using Nat.strongRecOn with
  | ind number ih =>
    by_cases single : number < 16
    · rw [Nat.toDigits_of_lt_base single, ← List.nil_append [number.digitChar], hexNumber?_concat,
        hexDigitValue?_digitChar single]
      simp [hexNumber?]
    · rw [Nat.toDigits_of_base_le (by decide) (by omega), hexNumber?_concat,
        ih (number / 16) (by omega), hexDigitValue?_digitChar (Nat.mod_lt _ (by decide))]
      exact congrArg some (Nat.div_add_mod number 16)

theorem isSome_of_mem_toDigits {number : Nat} {c : Char} (member : c ∈ Nat.toDigits 16 number) :
    (hexDigitValue? c).isSome = true :=
  isSome_hexNumber?_iff.mp (Option.isSome_of_eq_some (hexNumber?_toDigits number)) c member

/-! ### Padded numbers -/

/-- A padded number is made of digits and at most a sign. -/
theorem isSome_of_mem_paddedHex {width : Nat} {value : Int} {c : Char}
    (member : c ∈ (paddedHex width value).toList) :
    c = '-' ∨ (hexDigitValue? c).isSome = true := by
  simp only [paddedHex, String.toList_ofList, List.mem_append] at member
  rcases member with (sign | zero) | digit
  · split at sign
    · exact .inl (List.mem_singleton.mp sign)
    · cases sign
  · rw [List.eq_of_mem_replicate zero]
    exact .inr rfl
  · exact .inr (isSome_of_mem_toDigits digit)

theorem isLine_paddedHex (width : Nat) (value : Int) : IsLine (paddedHex width value) := by
  intro broken
  rcases isSome_of_mem_paddedHex broken with sign | digit
  · cases sign
  · cases digit

/-! ### Places

A number that fits into its width has one digit a place, and the last one comes off the end. -/

theorem toList_paddedHex_of_lt {width value : Nat} (small : value < 16) :
    (paddedHex (width + 1) value).toList = List.replicate width '0' ++ [value.digitChar] := by
  have natural : ¬ (value : Int) < 0 := by omega
  simp [paddedHex, natural, Nat.toDigits_of_lt_base small]

theorem toList_paddedHex_succ (width value : Nat) :
    (paddedHex (width + 2) value).toList =
      (paddedHex (width + 1) (value / 16 : Nat)).toList ++ [(value % 16).digitChar] := by
  have natural (number : Nat) : ¬ (number : Int) < 0 := by omega
  by_cases single : value < 16
  · rw [toList_paddedHex_of_lt single, toList_paddedHex_of_lt (by omega),
      Nat.div_eq_of_lt single, Nat.mod_eq_of_lt single, List.replicate_succ']
    rfl
  · simp only [paddedHex, if_neg (natural _), Int.natAbs_natCast, String.toList_ofList,
      Nat.toDigits_of_base_le (by decide : 1 < 16) (by omega : 16 ≤ value)]
    simp

/-- A byte has two digits. -/
theorem toList_paddedHex_byte (byte : UInt8) :
    (paddedHex 2 (byte.toNat : Int)).toList =
      [(byte.toNat / 16).digitChar, (byte.toNat % 16).digitChar] := by
  have small := byte.toNat_lt
  rw [toList_paddedHex_succ, toList_paddedHex_of_lt (by omega)]
  rfl

/-! ### Reading -/

/-- A padded number is read as the number that it was written for, whatever its width. -/
theorem hexInt?_paddedHex (width : Nat) (value : Int) :
    hexInt? (paddedHex width value).toList = some value := by
  have read (count : Nat) :
      hexNumber? (List.replicate count '0' ++ Nat.toDigits 16 value.natAbs) =
        some value.natAbs := by
    rw [hexNumber?_zeros_append, hexNumber?_toDigits]
  rw [paddedHex, String.toList_ofList]
  by_cases negative : value < 0
  · rw [if_pos negative, List.append_assoc, List.singleton_append, hexInt?, read, Option.map_some,
      Option.some.injEq]
    omega
  · rw [if_neg negative, List.nil_append]
    -- A minus sign is no digit, so what starts with one is read as no number.
    unfold hexInt?
    split
    next rest signed =>
      have number := read (width - ([] : List Char).length - (Nat.toDigits 16 value.natAbs).length)
      rw [signed] at number
      cases number
    next =>
      rw [read, Option.map_some, Option.some.injEq]
      omega

/-- Numbers of one width are told apart by their texts. -/
theorem paddedHex_inj {width : Nat} {value other : Int} :
    paddedHex width value = paddedHex width other ↔ value = other := by
  constructor
  · intro same
    have read := congrArg (fun text => hexInt? text.toList) same
    simpa only [hexInt?_paddedHex, Option.some.injEq] using read
  · rintro rfl
    rfl

end Chip8.Text
