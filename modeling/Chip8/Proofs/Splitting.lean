import Mathlib.Data.String.Basic

/-!
Texts split at a character.

* `extract_of_whole` — a part of a text, by where it begins and ends.
* `splitOnAux_of_single` — the fields of what is left of a text, behind those that were cut off.
* `splitOn_of_single` — the fields of a text are those of its characters.
* `splitOn_closed`, `append_cons_inj` — words with a separator behind each are found again.
-/

namespace Chip8.Text

open String (utf8Len)
open String.Pos (Raw)

theorem extract_of_whole {text : String} {before field rest : List Char}
    (whole : text = String.ofList (before ++ field ++ rest)) :
    Raw.extract text ⟨utf8Len before⟩ ⟨utf8Len (before ++ field)⟩ = String.ofList field := by
  rw [whole, String.utf8Len_append]
  exact String.extract_of_valid before field rest

/-- A splitting that has begun a field goes on with the rest of the text. A separator of a single
character is met as a whole or not at all. -/
theorem splitOnAux_of_single {text : String} (c : Char) (before field rest : List Char)
    (fields : List String) (whole : text = String.ofList (before ++ field ++ rest)) :
    String.splitOnAux text (String.singleton c) ⟨utf8Len before⟩ ⟨utf8Len (before ++ field)⟩ 0
        fields =
      fields.reverse ++ (List.splitOnPPrepend (· == c) rest field.reverse).map String.ofList := by
  have single : Raw.get (String.singleton c) 0 = c := String.get_of_valid [] [c]
  have behind : Raw.next (String.singleton c) 0 = ⟨c.utf8Size⟩ := by
    refine (String.next_of_valid [] c []).trans ?_
    rw [String.utf8Len_nil, Nat.zero_add]
  have passed : Raw.atEnd (String.singleton c) ⟨c.utf8Size⟩ = true := by
    have last := (String.atEnd_of_valid [c] []).mpr rfl
    rwa [String.utf8Len_cons, String.utf8Len_nil, Nat.zero_add] at last
  induction rest generalizing before field fields with
  | nil =>
      have ended : Raw.atEnd text ⟨utf8Len (before ++ field)⟩ = true := by
        rw [whole]
        exact (String.atEnd_of_valid _ _).mpr rfl
      rw [String.splitOnAux, if_pos ended, extract_of_whole whole]
      simp
  | cons next rest ih =>
      have inside : ¬ Raw.atEnd text ⟨utf8Len (before ++ field)⟩ = true := by
        rw [whole, String.atEnd_of_valid]
        exact nofun
      have found : Raw.get text ⟨utf8Len (before ++ field)⟩ = next := by
        rw [whole, String.get_of_valid]
        rfl
      have size : utf8Len (before ++ field ++ [next]) =
          utf8Len (before ++ field) + next.utf8Size := by
        rw [String.utf8Len_append, String.utf8Len_cons, String.utf8Len_nil, Nat.zero_add]
      have later : Raw.next text ⟨utf8Len (before ++ field)⟩ =
          ⟨utf8Len (before ++ field ++ [next])⟩ := by
        rw [whole, String.next_of_valid, size]
      rw [String.splitOnAux, if_neg inside, found, single, behind]
      dsimp only
      by_cases same : next = c
      · subst same
        have back : (⟨utf8Len (before ++ field ++ [next])⟩ : Raw).unoffsetBy ⟨next.utf8Size⟩ =
            ⟨utf8Len (before ++ field)⟩ := by
          rw [size]
          exact congrArg Raw.mk (Nat.add_sub_cancel ..)
        have cut := ih (before ++ field ++ [next]) [] (String.ofList field :: fields)
          (by simpa using whole)
        rw [List.append_nil] at cut
        rw [if_pos (beq_self_eq_true next), later, if_pos passed, back, extract_of_whole whole, cut,
          List.splitOnPPrepend_cons_eq_if]
        simp
      · have stays : (⟨utf8Len (before ++ field)⟩ : Raw).unoffsetBy 0 =
            ⟨utf8Len (before ++ field)⟩ := rfl
        have longer := ih before (field ++ [next]) fields (by simpa using whole)
        rw [if_neg (by simpa using same), stays, later, List.append_assoc, longer,
          List.splitOnPPrepend_cons_eq_if]
        simp [same]

/-- Splitting a text at a separator of one character splits its characters there. -/
theorem splitOn_of_single (text : String) (c : Char) :
    text.splitOn (String.singleton c) = (text.toList.splitOn c).map String.ofList := by
  have nonempty : ¬ (String.singleton c == "") = true := by simp
  rw [String.splitOn, if_neg nonempty]
  exact splitOnAux_of_single c [] [] text.toList [] (by simp)

/-- Words that have a separator behind them, and none inside, are the first fields of a text. -/
theorem splitOn_closed {c : Char} {words : List (List Char)} (plain : ∀ word ∈ words, c ∉ word)
    (rest : List Char) :
    (words.flatMap (· ++ [c]) ++ rest).splitOn c = words ++ rest.splitOn c := by
  induction words with
  | nil => rfl
  | cons word words ih =>
      obtain ⟨whole, plain⟩ := List.forall_mem_cons.mp plain
      have alone : ([c].intercalate [word]).splitOn c = [word] :=
        List.splitOn_intercalate c (List.forall_mem_singleton.mpr whole) (List.cons_ne_nil _ _)
      rw [List.intercalate_singleton] at alone
      have cut : (word ++ c :: (words.flatMap (· ++ [c]) ++ rest)).splitOn c =
          word.splitOn c ++ (words.flatMap (· ++ [c]) ++ rest).splitOn c :=
        List.splitOnP_append_cons word _ (beq_self_eq_true c)
      rw [List.flatMap_cons, List.append_assoc, List.append_assoc, List.singleton_append, cut,
        alone, ih plain, List.singleton_append, List.cons_append]

/-- A text is cut at its first separator in one way only. -/
theorem append_cons_inj {c : Char} {word word' rest rest' : List Char} (plain : c ∉ word)
    (plain' : c ∉ word') (same : word ++ c :: rest = word' ++ c :: rest') :
    word = word' ∧ rest = rest' := by
  have first {word rest : List Char} (plain : c ∉ word) :
      (word ++ c :: rest).splitOn c = word :: rest.splitOn c := by
    simpa using splitOn_closed (List.forall_mem_singleton.mpr plain) rest
  have fields := congrArg (List.splitOn c) same
  rw [first plain, first plain', List.cons.injEq] at fields
  obtain rfl := fields.1
  exact ⟨rfl, (List.cons.inj (List.append_cancel_left same)).2⟩

end Chip8.Text
