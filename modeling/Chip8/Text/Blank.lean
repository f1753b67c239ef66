/-!
Blank characters: the ASCII spaces, the information separators and the spaces of Unicode.
-/

namespace Chip8.Text

/-- One of the four ASCII information separators. -/
def isSeparator (c : Char) : Bool := 0x1C ≤ c.toNat && c.toNat ≤ 0x1F

/-- A space or line break, ASCII or other. -/
def isSpace (c : Char) : Bool :=
  let code := c.toNat
  (0x09 ≤ code && code ≤ 0x0D) || code == 0x20 || code == 0x85 || code == 0xA0 ||
    code == 0x1680 || (0x2000 ≤ code && code ≤ 0x200A) || code == 0x2028 || code == 0x2029 ||
    code == 0x202F || code == 0x205F || code == 0x3000

def isBlank (c : Char) : Bool := isSpace c || isSeparator c

/-- The text without the characters of a class at its ends. -/
def trim (drop : Char → Bool) (text : List Char) : List Char :=
  ((text.dropWhile drop).reverse.dropWhile drop).reverse

/-- Every whitespace character of ASCII is a space. -/
theorem isSpace_of_isWhitespace (c : Char) (whitespace : c.isWhitespace) : isSpace c := by
  simp only [Char.isWhitespace, Bool.or_eq_true, decide_eq_true_eq] at whitespace
  rcases whitespace with ((rfl | rfl) | rfl) | rfl <;> decide

/-- What stands between characters of a class is left, if it has none of them itself. -/
theorem trim_of_between {drop : Char → Bool} {before text after : List Char}
    (front : ∀ c ∈ before, drop c = true) (kept : ∀ c ∈ text, drop c = false)
    (behind : ∀ c ∈ after, drop c = true) : trim drop (before ++ text ++ after) = text := by
  have stays {chars : List Char} (kept : ∀ c ∈ chars, drop c = false) :
      chars.dropWhile drop = chars := by
    cases chars with
    | nil => rfl
    | cons c rest => exact List.dropWhile_cons_of_neg (by simp [kept c List.mem_cons_self])
  have dropped : (before ++ text ++ after).dropWhile drop = (text ++ after).dropWhile drop := by
    rw [List.append_assoc, List.dropWhile_append_of_pos front]
  have reversed : (after.reverse ++ text.reverse).dropWhile drop = text.reverse := by
    rw [List.dropWhile_append_of_pos fun c member => behind c (List.mem_reverse.mp member)]
    exact stays fun c member => kept c (List.mem_reverse.mp member)
  rw [trim, dropped]
  cases text with
  | nil =>
      have nothing : (after ++ []).dropWhile drop = [] := List.dropWhile_append_of_pos behind
      rw [List.append_nil] at nothing
      rw [List.nil_append, nothing]
      rfl
  | cons c rest =>
      have left : (c :: rest ++ after).dropWhile drop = c :: rest ++ after :=
        List.dropWhile_cons_of_neg (by simp [kept c List.mem_cons_self])
      rw [left, List.reverse_append, reversed, List.reverse_reverse]

end Chip8.Text
