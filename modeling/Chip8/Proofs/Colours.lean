import Chip8.Proofs.Exits

/-!
Colours and the texts that they are read from.

* `marks`, `number`, `hexDigits` — what may stand in front of the digits, the number of a colour,
  and its digits as they are written.
* `ofDigits?_eq_some_iff` — six digits are read as the colour of their number.
* `withoutMark_of_digits` — nothing is taken off the digits together with a mark.
* `read?_eq_some_iff` — which texts are read, and as which colour.
* `colour_of_text` — the texts that are colours, colours that are written and read again, and that a
  display takes whatever the command line takes.
-/

namespace Chip8

namespace Text

/-! ### Characters -/

/-- The hexadecimal digits of ASCII. -/
def hexAlphabet : List Char := "0123456789abcdefABCDEF".toList

/-- A property of ASCII characters can be checked code by code. -/
theorem of_codes (holds : Char → Prop) (table : ∀ code < 128, holds (Char.ofNat code)) {c : Char}
    (ascii : c.toNat < 128) : holds c := by
  have found := table c.toNat ascii
  rwa [Char.ofNat_toNat] at found

theorem toNat_lt_of_isSome {c : Char} (digit : (hexDigitValue? c).isSome = true) :
    c.toNat < 128 := by
  have bound {last : Char} (low : last.toNat < 128) (below : c ≤ last) : c.toNat < 128 :=
    Nat.lt_of_le_of_lt (UInt32.le_iff_toNat_le.mp below) low
  unfold hexDigitValue? at digit
  split at digit
  next decimal => exact bound (by decide) decimal.2
  next =>
    split at digit
    next small => exact bound (by decide) small.2
    next =>
      split at digit
      next capital => exact bound (by decide) capital.2
      next => cases digit

theorem isSome_hexDigitValue?_iff {c : Char} :
    (hexDigitValue? c).isSome = true ↔ c ∈ hexAlphabet := by
  constructor
  · intro digit
    exact of_codes (fun c => (hexDigitValue? c).isSome = true → c ∈ hexAlphabet)
      (by decide) (toNat_lt_of_isSome digit) digit
  · have table : hexAlphabet.all (fun c => (hexDigitValue? c).isSome) = true := by decide
    exact List.all_eq_true.mp table c

theorem hexDigitValue?_lt {c : Char} {digit : Nat} (read : hexDigitValue? c = some digit) :
    digit < 16 := by
  have ascii := toNat_lt_of_isSome (Option.isSome_of_eq_some read)
  exact of_codes (fun c => ∀ value ∈ hexDigitValue? c, value < 16) (by decide) ascii digit
    read

/-- A digit has the same value in either case. -/
theorem hexDigitValue?_toLower (c : Char) : hexDigitValue? c.toLower = hexDigitValue? c := by
  by_cases ascii : c.toNat < 128
  · exact of_codes (fun c => hexDigitValue? c.toLower = hexDigitValue? c) (by decide) ascii
  · have same : c.toLower = c := by
      unfold Char.toLower
      split
      next capital =>
        have low : c.toNat ≤ 'Z'.toNat := UInt32.le_iff_toNat_le.mp capital.2
        exact absurd (Nat.lt_of_le_of_lt low (by decide)) ascii
      next => rfl
    rw [same]

theorem hexNumber?_map_toLower (digits : List Char) :
    hexNumber? (digits.map Char.toLower) = hexNumber? digits := by
  simp only [hexNumber?, List.foldlM_map, hexDigitValue?_toLower]

theorem isBlank_of_digit {c : Char} (digit : c ∈ hexAlphabet) : isBlank c = false := by
  have table : hexAlphabet.all (fun c => !isBlank c) = true := by decide
  simpa using List.all_eq_true.mp table c digit

end Text

namespace Colour

open Text (hexAlphabet hexNumber? isBlank trim)

variable {colour : Colour} {mark digits : List Char}

/-! ### Digits -/

/-- The components as one number, which has the digits of all three. -/
def number (colour : Colour) : Nat :=
  0x10000 * colour.red.toNat + 0x100 * colour.green.toNat + colour.blue.toNat

/-- The digits of the components, two for each. -/
def hexDigits (colour : Colour) : List Char :=
  colour.components.flatMap fun byte => (Text.paddedHex 2 (byte.toNat : Int)).toList

theorem number_inj {other : Colour} : colour.number = other.number ↔ colour = other := by
  constructor
  · intro same
    obtain ⟨red, green, blue⟩ := colour
    obtain ⟨red', green', blue'⟩ := other
    have greens := And.intro green.toNat_lt green'.toNat_lt
    have blues := And.intro blue.toNat_lt blue'.toNat_lt
    simp only [number] at same
    simp only [Colour.mk.injEq, ← UInt8.toNat_inj]
    omega
  · rintro rfl
    rfl

/-- Two digits more make the number 256 times as great, and add a byte. -/
theorem hexNumber?_append_pair (front : List Char) (high low : Char) :
    hexNumber? (front ++ [high, low]) = (hexNumber? front).bind fun value =>
      (byte? high low).map fun byte => 0x100 * value + byte.toNat := by
  rw [List.append_cons, Text.hexNumber?_concat, Text.hexNumber?_concat, byte?]
  cases hexNumber? front with
  | none => rfl
  | some value =>
      cases first : Text.hexDigitValue? high with
      | none => rfl
      | some h =>
          cases second : Text.hexDigitValue? low with
          | none => rfl
          | some l =>
              have highSmall := Text.hexDigitValue?_lt first
              have lowSmall := Text.hexDigitValue?_lt second
              simp
              omega

theorem map_number_ofDigits? (six : digits.length = 6) :
    (ofDigits? digits).map number = hexNumber? digits := by
  obtain ⟨r, r', g, g', b, b', rfl⟩ :
      ∃ r r' g g' b b', digits = [r, r', g, g', b, b'] := by
    rcases digits with _ | ⟨r, _ | ⟨r', _ | ⟨g, _ | ⟨g', _ | ⟨b, _ | ⟨b', _ | _⟩⟩⟩⟩⟩⟩ <;>
      simp at six ⊢
  have first : hexNumber? [r, r'] = _ := hexNumber?_append_pair [] r r'
  have second : hexNumber? [r, r', g, g'] = _ := hexNumber?_append_pair [r, r'] g g'
  have third : hexNumber? [r, r', g, g', b, b'] = _ := hexNumber?_append_pair [r, r', g, g'] b b'
  rw [third, second, first, ofDigits?]
  cases byte? r r' with
  | none => rfl
  | some red =>
      cases byte? g g' with
      | none => rfl
      | some green =>
          cases byte? b b' with
          | none => rfl
          | some blue =>
              refine congrArg some ?_
              simp only [number]
              omega

theorem ofDigits?_eq_some_iff :
    ofDigits? digits = some colour ↔
      digits.length = 6 ∧ hexNumber? digits = some colour.number := by
  constructor
  · intro read
    have six : digits.length = 6 := by
      unfold ofDigits? at read
      split at read
      next => rfl
      next => cases read
    exact ⟨six, by rw [← map_number_ofDigits? six, read, Option.map_some]⟩
  · rintro ⟨six, value⟩
    rw [← map_number_ofDigits? six, Option.map_eq_some_iff] at value
    obtain ⟨other, read, same⟩ := value
    rw [read, number_inj.mp same]

theorem isSome_ofDigits?_iff :
    (ofDigits? digits).isSome = true ↔ digits.length = 6 ∧ ∀ c ∈ digits, c ∈ hexAlphabet := by
  simp only [← Text.isSome_hexDigitValue?_iff]
  rw [← Text.isSome_hexNumber?_iff]
  constructor
  · intro read
    obtain ⟨colour, read⟩ := Option.isSome_iff_exists.mp read
    obtain ⟨six, value⟩ := ofDigits?_eq_some_iff.mp read
    exact ⟨six, Option.isSome_of_eq_some value⟩
  · rintro ⟨six, value⟩
    rwa [← map_number_ofDigits? six, Option.isSome_map] at value

/-- What has been written for a colour is read as that colour. -/
theorem ofDigits?_hexDigits (colour : Colour) : ofDigits? colour.hexDigits = some colour := by
  have read (byte : UInt8) :
      byte? (byte.toNat / 16).digitChar (byte.toNat % 16).digitChar = some byte := by
    have small := byte.toNat_lt
    rw [byte?, Text.hexDigitValue?_digitChar (by omega),
      Text.hexDigitValue?_digitChar (Nat.mod_lt _ (by decide))]
    refine congrArg some (UInt8.toNat_inj.mp ?_)
    rw [Nat.div_add_mod, UInt8.toNat_ofNat', Nat.mod_eq_of_lt small]
  simp [hexDigits, components, Text.toList_paddedHex_byte, ofDigits?, read]

/-! ### Marks -/

/-- What may stand in front of the digits. -/
def marks : List (List Char) := [[], ['#'], ['0', 'x'], ['0', 'X']]

theorem exists_mark (text : List Char) : ∃ mark ∈ marks, text = mark ++ withoutMark text := by
  unfold withoutMark
  split
  next => exact ⟨['#'], by decide, rfl⟩
  next => exact ⟨['0', 'x'], by decide, rfl⟩
  next => exact ⟨['0', 'X'], by decide, rfl⟩
  next => exact ⟨[], by decide, rfl⟩

/-- Nothing is taken off the digits together with a mark. -/
theorem withoutMark_of_digits (marked : mark ∈ marks) (hex : ∀ c ∈ digits, c ∈ hexAlphabet) :
    withoutMark (mark ++ digits) = digits := by
  simp only [marks, List.mem_cons, List.not_mem_nil, or_false] at marked
  rcases marked with rfl | rfl | rfl | rfl
  · -- Neither a number sign nor an x is a digit.
    unfold withoutMark
    rw [List.nil_append]
    split
    next => exact absurd (hex '#' (by simp)) (by decide)
    next => exact absurd (hex 'x' (by simp)) (by decide)
    next => exact absurd (hex 'X' (by simp)) (by decide)
    next => rfl
  · rfl
  · rfl
  · rfl

/-! ### Texts -/

theorem read?_eq_some_iff {text : String} :
    read? text = some colour ↔
      ∃ mark ∈ marks, ∃ digits, trim isBlank text.toList = mark ++ digits ∧
        ofDigits? digits = some colour := by
  unfold read?
  constructor
  · intro read
    obtain ⟨mark, marked, whole⟩ := exists_mark (trim isBlank text.toList)
    exact ⟨mark, marked, _, whole, read⟩
  · rintro ⟨mark, marked, digits, whole, read⟩
    have hex := (isSome_ofDigits?_iff.mp (Option.isSome_of_eq_some read)).2
    rw [whole, withoutMark_of_digits marked hex, read]

/-- A colour can be written in either case, behind any mark and between any blanks. -/
theorem read?_of_written {text : String} {before after : List Char} (marked : mark ∈ marks)
    (written : digits.map Char.toLower = colour.hexDigits)
    (front : ∀ c ∈ before, isBlank c = true) (behind : ∀ c ∈ after, isBlank c = true)
    (whole : text.toList = before ++ (mark ++ digits) ++ after) : read? text = some colour := by
  have lower := ofDigits?_eq_some_iff.mp (ofDigits?_hexDigits colour)
  rw [← written, List.length_map, Text.hexNumber?_map_toLower] at lower
  have read := ofDigits?_eq_some_iff.mpr lower
  have hex := (isSome_ofDigits?_iff.mp (Option.isSome_of_eq_some read)).2
  have kept : ∀ c ∈ mark ++ digits, isBlank c = false := by
    intro c member
    rcases List.mem_append.mp member with inMark | inDigits
    · have table : marks.flatten.all (fun c => !isBlank c) = true := by decide
      simpa using List.all_eq_true.mp table c (List.mem_flatten_of_mem marked inMark)
    · exact Text.isBlank_of_digit (hex c inDigits)
  refine read?_eq_some_iff.mpr ⟨mark, marked, digits, ?_, read⟩
  rw [whole, Text.trim_of_between front kept behind]

/-- Which texts are colours.

A text is a colour just when six hexadecimal digits are left of it between blanks, in either case
and behind at most one mark. Its components are then the bytes of the number that these digits stand
for. A colour that is written so is read again, whatever the mark, the case of its digits and the
blanks around them. The colours of every command line that is accepted are taken by a display. -/
theorem colour_of_text (text : String) :
    ((∃ colour, read? text = some colour) ↔
      ∃ mark ∈ marks, ∃ digits, trim isBlank text.toList = mark ++ digits ∧
        digits.length = 6 ∧ ∀ c ∈ digits, c ∈ hexAlphabet) ∧
      (∀ colour, read? text = some colour ↔
        ∃ mark ∈ marks, ∃ digits, trim isBlank text.toList = mark ++ digits ∧
          digits.length = 6 ∧ hexNumber? digits = some colour.number) ∧
      (∀ (colour : Colour) (before mark digits after : List Char), mark ∈ marks →
        digits.map Char.toLower = colour.hexDigits → (∀ c ∈ before, isBlank c = true) →
        (∀ c ∈ after, isBlank c = true) →
        text.toList = before ++ (mark ++ digits) ++ after → read? text = some colour) ∧
      ∀ arguments options, CommandLine.read arguments = .ok options →
        Canvas.checkColours (Session.settingsOf options).colours = .ok () := by
  refine ⟨⟨?_, ?_⟩, fun colour => ?_, ?_, fun _ options _ => ?_⟩
  · rintro ⟨colour, read⟩
    obtain ⟨mark, marked, digits, whole, read⟩ := read?_eq_some_iff.mp read
    have six := isSome_ofDigits?_iff.mp (Option.isSome_of_eq_some read)
    exact ⟨mark, marked, digits, whole, six⟩
  · rintro ⟨mark, marked, digits, whole, six⟩
    obtain ⟨colour, read⟩ := Option.isSome_iff_exists.mp (isSome_ofDigits?_iff.mpr six)
    exact ⟨colour, read?_eq_some_iff.mpr ⟨mark, marked, digits, whole, read⟩⟩
  · simp only [← ofDigits?_eq_some_iff]
    exact read?_eq_some_iff
  · intro colour before mark digits after marked written front behind whole
    exact read?_of_written marked written front behind whole
  · rw [Session.colours_settingsOf]
    simp only [Canvas.checkColours, Session.checkColour_entryOf]
    rfl

/-- A colour with digits of both cases behind a mark with a capital. -/
theorem colour_of_text_in_both_cases :
    Colour.hexDigits ⟨0x0A, 0xF9, 0xE1⟩ = "0af9e1".toList ∧
      read? "\t0X0aF9e1 \n" = some ⟨0x0A, 0xF9, 0xE1⟩ := by
  have written : Colour.hexDigits ⟨0x0A, 0xF9, 0xE1⟩ = "0af9e1".toList := by decide
  obtain ⟨-, -, read, -⟩ := colour_of_text "\t0X0aF9e1 \n"
  have front : ∀ c ∈ ['\t'], isBlank c = true := List.forall_mem_singleton.mpr rfl
  have behind : ∀ c ∈ [' ', '\n'], isBlank c = true :=
    List.forall_mem_cons.mpr ⟨rfl, List.forall_mem_singleton.mpr rfl⟩
  refine ⟨written, read _ ['\t'] ['0', 'X'] "0aF9e1".toList [' ', '\n'] (by decide) ?_ front behind
    (by decide)⟩
  rw [written]
  decide

/-- A zero and an x are a mark, so that only four digits are left. -/
example : read? "0x0aF9" = none := by decide

end Colour

end Chip8
