import Chip8.CallStack.Request
import Chip8.Proofs.Transcripts

/-!
The call stack as a bounded list.

* `BoundedList` — a list that never has more entries than its capacity, and what each request does
  to it.
* `Outcome`, `outcome_apply` — what can come of a request to a call stack.
* `simulates` — a call stack replies to each request as its list does.
* `itemsLeft`, `entries_stateAfter` — the entries by the history alone: the items of those pushes
  that no pop behind them has reached.
* `entries_of_requests` — all of this from an empty stack.
-/

namespace Chip8

/-- A list of at most `capacity` entries, oldest first. There are none if that is zero or less. -/
structure BoundedList (capacity : Int) where
  entries : List Int
  fits : entries.length ≤ capacity.toNat

namespace BoundedList

open CallStack (Request Reply)

variable {capacity : Int}

def empty (capacity : Int) : BoundedList capacity := ⟨[], Nat.zero_le _⟩

theorem fits_concat {entries : List Int} (item : Int) (room : entries.length < capacity) :
    (entries ++ [item]).length ≤ capacity.toNat := by
  rw [List.length_append, List.length_singleton]
  omega

theorem fits_dropLast (list : BoundedList capacity) :
    list.entries.dropLast.length ≤ capacity.toNat :=
  Nat.le_trans (List.dropLast_sublist list.entries).length_le list.fits

/-- Entries come and go at the end. -/
def apply (list : BoundedList capacity) : Request → BoundedList capacity × Reply
  | .push item =>
      if room : list.entries.length < capacity then
        (⟨list.entries ++ [item], fits_concat item room⟩, .ok .done)
      else (list, .error .overflow)
  | .pop =>
      match list.entries.getLast? with
      | some newest => (⟨list.entries.dropLast, list.fits_dropLast⟩, .ok (.item newest))
      | none => (list, .error .underflow)
  | .clear => (empty capacity, .ok .done)
  | .isEmpty => (list, .ok (.truth list.entries.isEmpty))

theorem apply_pop_of_nil {list : BoundedList capacity} (bare : list.entries = []) :
    list.apply .pop = (list, .error .underflow) := by
  simp only [apply, bare, List.getLast?_nil]

/-- The newest entry is the one at the end. -/
theorem apply_pop_of_concat {list : BoundedList capacity} {older : List Int} {newest : Int}
    (held : list.entries = older ++ [newest]) :
    (list.apply .pop).2 = .ok (.item newest) ∧ (list.apply .pop).1.entries = older := by
  simp only [apply, held, List.getLast?_concat, List.dropLast_concat, and_self]

/-- A stack and a list of one capacity hold the same entries. -/
structure Represents (stack : CallStack) (list : BoundedList capacity) : Prop where
  capacity_eq : stack.capacity = capacity
  entries_eq : stack.toList = list.entries

end BoundedList

namespace CallStack

variable {stack : CallStack}

/-! ### Requests -/

theorem length_toList (stack : CallStack) : stack.toList.length = stack.entries.length :=
  List.length_reverse

theorem toList_of_cons {newest : Int} {older : List Int} (held : stack.entries = newest :: older) :
    stack.toList = older.reverse ++ [newest] :=
  (congrArg List.reverse held).trans List.reverse_cons

/-- What can come of a request. -/
inductive Outcome (stack : CallStack) : Request → CallStack × Reply → Prop where
  | overflow {item : Int} (full : stack.capacity ≤ stack.toList.length) :
      Outcome stack (.push item) (stack, .error .overflow)
  | pushed {item : Int} (room : stack.toList.length < stack.capacity) :
      Outcome stack (.push item) ({ stack with entries := item :: stack.entries }, .ok .done)
  | underflow (bare : stack.entries = []) : Outcome stack .pop (stack, .error .underflow)
  | popped {newest : Int} {older : List Int} (held : stack.entries = newest :: older) :
      Outcome stack .pop ({ stack with entries := older }, .ok (.item newest))
  | cleared : Outcome stack .clear ({ stack with entries := [] }, .ok .done)
  | told : Outcome stack .isEmpty (stack, .ok (.truth stack.toList.isEmpty))

theorem outcome_apply (stack : CallStack) (request : Request) :
    stack.Outcome request (stack.apply request) := by
  cases request with
  | push item =>
      simp only [apply, push, ← length_toList]
      by_cases full : stack.capacity ≤ stack.toList.length
      · rw [if_pos full]
        exact .overflow full
      · rw [if_neg full]
        exact .pushed (Int.not_le.mp full)
  | pop =>
      simp only [apply, pop]
      cases held : stack.entries with
      | nil => exact .underflow held
      | cons newest older => exact .popped held
  | clear => exact .cleared
  | isEmpty =>
      simp only [apply, isEmpty, ← stack.entries.isEmpty_reverse]
      exact .told

/-- A request that is refused leaves the stack alone. -/
theorem apply_of_error {request : Request} {fault : Fault}
    (refused : (stack.apply request).2 = .error fault) : (stack.apply request).1 = stack := by
  have outcome := stack.outcome_apply request
  generalize stack.apply request = ended at refused outcome ⊢
  cases outcome with
  | overflow _ | underflow _ | told => rfl
  | pushed _ | popped _ | cleared => cases refused

theorem reply_push_iff (stack : CallStack) (item : Int) :
    (stack.apply (.push item)).2 = .error .overflow ↔ stack.capacity ≤ stack.toList.length := by
  have outcome := stack.outcome_apply (.push item)
  generalize stack.apply (.push item) = ended at outcome ⊢
  cases outcome with
  | overflow full => exact iff_of_true rfl full
  | pushed room => exact iff_of_false nofun (Int.not_le.mpr room)

theorem apply_push_of_room (item : Int) (room : stack.toList.length < stack.capacity) :
    (stack.apply (.push item)).2 = .ok .done ∧
      (stack.apply (.push item)).1.toList = stack.toList ++ [item] := by
  have outcome := stack.outcome_apply (.push item)
  generalize stack.apply (.push item) = ended at outcome ⊢
  cases outcome with
  | overflow full => exact absurd room (Int.not_lt.mpr full)
  | pushed _ => exact ⟨rfl, List.reverse_cons⟩

theorem reply_pop_iff (stack : CallStack) :
    (stack.apply .pop).2 = .error .underflow ↔ stack.toList = [] := by
  have outcome := stack.outcome_apply .pop
  generalize stack.apply .pop = ended at outcome ⊢
  cases outcome with
  | underflow bare => exact iff_of_true rfl (congrArg List.reverse bare)
  | popped held =>
      rw [toList_of_cons held]
      exact iff_of_false nofun (List.concat_ne_nil _ _)

theorem apply_pop_of_concat {older : List Int} {newest : Int}
    (concat : stack.toList = older ++ [newest]) :
    (stack.apply .pop).2 = .ok (.item newest) ∧ (stack.apply .pop).1.toList = older := by
  have outcome := stack.outcome_apply .pop
  generalize stack.apply .pop = ended at outcome ⊢
  cases outcome with
  | underflow bare =>
      rw [toList, bare] at concat
      exact absurd concat.symm (List.concat_ne_nil newest older)
  | popped held =>
      rw [toList_of_cons held] at concat
      obtain ⟨rest, ⟨⟩⟩ := List.append_inj' concat rfl
      exact ⟨rfl, rest⟩

/-! ### The list of a stack -/

/-- A stack replies to each request as its list does. -/
theorem simulates (capacity : Int) :
    Simulates apply (@BoundedList.apply capacity) BoundedList.Represents := by
  rintro stack ⟨entries, fits⟩ ⟨rfl, rfl⟩ request
  have outcome := stack.outcome_apply request
  generalize stack.apply request = ended at outcome ⊢
  cases outcome with
  | overflow full =>
      rw [BoundedList.apply, dif_neg (Int.not_lt.mpr full)]
      exact ⟨rfl, rfl, rfl⟩
  | pushed room =>
      rw [BoundedList.apply, dif_pos room]
      exact ⟨rfl, rfl, List.reverse_cons⟩
  | underflow bare =>
      rw [BoundedList.apply_pop_of_nil (congrArg List.reverse bare)]
      exact ⟨rfl, rfl, rfl⟩
  | @popped newest older held =>
      have concat : BoundedList.entries ⟨stack.toList, fits⟩ = older.reverse ++ [newest] :=
        toList_of_cons held
      obtain ⟨reply, rest⟩ := BoundedList.apply_pop_of_concat concat
      exact ⟨reply.symm, rfl, rest.symm⟩
  | cleared | told => exact ⟨rfl, rfl, rfl⟩

/-! ### Entries by the history alone -/

/-- Of the items that a history has pushed, those that are left, newest first, without the newest
`taken` of them. The requests are given newest first: a pop takes one item more of those that were
pushed before it, and a push that was accepted is the next to be taken. -/
def itemsLeft : Nat → List (Request × Reply) → List Int
  | _, [] => []
  | taken, (request, reply) :: earlier =>
      match request, reply, taken with
      | .push item, .ok _, 0 => item :: itemsLeft 0 earlier
      | .push _, .ok _, taken + 1 => itemsLeft taken earlier
      | .pop, .ok _, taken => itemsLeft (taken + 1) earlier
      | .clear, _, _ => []
      | _, _, taken => itemsLeft taken earlier

/-- One request more. -/
theorem drop_apply {earlier : List (Request × Reply)}
    (known : ∀ taken, stack.entries.drop taken = itemsLeft taken earlier) (request : Request)
    (taken : Nat) :
    (stack.apply request).1.entries.drop taken =
      itemsLeft taken ((request, (stack.apply request).2) :: earlier) := by
  have outcome := stack.outcome_apply request
  generalize stack.apply request = ended at outcome ⊢
  cases outcome with
  | pushed room =>
      cases taken with
      | zero => exact congrArg (_ :: ·) (known 0)
      | succ taken => exact known taken
  | popped held =>
      have behind := known (taken + 1)
      rw [held] at behind
      exact behind
  | cleared => exact List.drop_nil
  | overflow _ | underflow _ | told => exact known taken

/-- The entries behind a history, by the entries before it. -/
theorem drop_stateAfter {earlier : List (Request × Reply)}
    (known : ∀ taken, stack.entries.drop taken = itemsLeft taken earlier)
    (requests : List Request) (taken : Nat) :
    (stateAfter apply stack requests).entries.drop taken =
      itemsLeft taken ((transcript apply stack requests).reverse ++ earlier) := by
  induction requests generalizing stack earlier with
  | nil => exact known taken
  | cons request rest ih =>
      -- Newest first, the first request stands between the others and all that is earlier.
      rw [transcript, List.reverse_cons, List.append_assoc]
      exact ih (drop_apply known request)

/-- From an empty stack on, the history alone tells the entries. -/
theorem entries_stateAfter (capacity : Int) (requests : List Request) :
    (stateAfter apply { capacity } requests).entries =
      itemsLeft 0 (transcript apply { capacity } requests).reverse := by
  have start : ∀ taken, (CallStack.mk capacity []).entries.drop taken = itemsLeft taken [] :=
    fun _ => List.drop_nil
  have behind := drop_stateAfter start requests 0
  rw [List.append_nil] at behind
  exact behind

/-- After every history of requests an empty stack is a list of at most `capacity` entries: it has
given every reply, and holds every entry, that the list does. A push is refused when there is no
room, and always if the capacity is zero or less; a pop is refused when there is no entry, and else
takes the newest of the items that the history leaves. A request that is refused changes nothing. -/
theorem entries_of_requests (capacity : Int) (requests : List Request) :
    let stack := stateAfter apply { capacity } requests
    let replies := transcript apply { capacity } requests
    let list := stateAfter BoundedList.apply (BoundedList.empty capacity) requests
    (replies = transcript BoundedList.apply (BoundedList.empty capacity) requests ∧
        stack.toList = list.entries) ∧
      stack.toList.length ≤ capacity.toNat ∧
      stack.toList = (itemsLeft 0 replies.reverse).reverse ∧
      (∀ item,
        ((stack.apply (.push item)).2 = .error .overflow ↔ capacity ≤ stack.toList.length) ∧
        (capacity ≤ 0 → (stack.apply (.push item)).2 = .error .overflow) ∧
        (stack.toList.length < capacity →
          (stack.apply (.push item)).2 = .ok .done ∧
            (stack.apply (.push item)).1.toList = stack.toList ++ [item])) ∧
      ((stack.apply .pop).2 = .error .underflow ↔ stack.toList = []) ∧
      (∀ older newest, stack.toList = older ++ [newest] →
        (stack.apply .pop).2 = .ok (.item newest) ∧ (stack.apply .pop).1.toList = older) ∧
      (∃ truth, (stack.apply .isEmpty).2 = .ok (.truth truth) ∧
        (truth = true ↔ stack.toList = [])) ∧
      (∀ request fault, (stack.apply request).2 = .error fault →
        (stack.apply request).1 = stack) ∧
      Fault.message .overflow = "Stack overflow" ∧
      Fault.message .underflow = "Stack underflow" := by
  intro stack replies list
  have start : BoundedList.Represents { capacity } (BoundedList.empty capacity) := ⟨rfl, rfl⟩
  obtain ⟨alike, represented⟩ := (simulates capacity).history start requests
  have sized : stack.capacity = capacity := represented.capacity_eq
  have held : stack.toList = list.entries := represented.entries_eq
  have full : ∀ item,
      (stack.apply (.push item)).2 = .error .overflow ↔ capacity ≤ stack.toList.length := by
    intro item
    rw [reply_push_iff, sized]
  refine ⟨⟨alike, held⟩, ?_, ?_, ?_, reply_pop_iff stack, ?_, ?_, ?_, rfl, rfl⟩
  · exact Nat.le_trans (Nat.le_of_eq (congrArg List.length held)) list.fits
  · exact congrArg List.reverse (entries_stateAfter capacity requests)
  · intro item
    refine ⟨full item, fun never => (full item).mpr (by omega), ?_⟩
    intro room
    rw [← sized] at room
    exact apply_push_of_room item room
  · intro older newest concat
    exact apply_pop_of_concat concat
  · have outcome := stack.outcome_apply .isEmpty
    generalize stack.apply .isEmpty = ended at outcome ⊢
    cases outcome with
    | told => exact ⟨_, rfl, List.isEmpty_iff⟩
  · intro request fault refused
    exact apply_of_error refused

/-- A third push is refused and leaves nothing behind. -/
example :
    (stateAfter apply { capacity := 2 } [.push 1, .push 2, .push 3, .pop, .push 4]).toList =
      [1, 4] := by
  decide

end CallStack

end Chip8
