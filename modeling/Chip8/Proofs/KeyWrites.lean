import Chip8.Keypad.Request
import Chip8.Proofs.LastWrites
import Chip8.Proofs.Transcripts

/-!
What a history of requests leaves of the keys of a keypad.

* `Request.fault?` — which requests are refused, whatever the keys are.
* `apply_of_fault`, `exists_answer` — a refused request changes nothing, and every other is
  answered.
* `write?` — what a request sets a key to.
* `get_apply`, `get_stateAfter` — one request, and a history of requests, leave each key as it was
  set last.
* `keys_of_requests` — all of this from a keypad with no key down.
-/

namespace Chip8.Keypad

variable {keypad : Keypad}

/-- Why a request is refused: its key does not exist, or it has not one state a key. -/
def Request.fault? : Request → Option Fault
  | .setDown key _ | .isDown key =>
      if 0 ≤ key ∧ key ≤ 15 then none else some (.noSuchKey key)
  | .setAll states =>
      if states.length = 16 then none else some (.wrongCount states.length)
  | .firstDown | .releaseAll => none

/-- What a request sets a key to, if it covers the key and is not refused. -/
def write? (key : Fin 16) : Request × Reply → Option Bool
  | (.setDown number down, .ok _) => if number = key.val then some down else none
  | (.setAll states, .ok _) => states[key.val]?
  | (.releaseAll, .ok _) => some false
  | _ => none

/-! ### Single requests -/

theorem key?_of_beyond {number : Int} (beyond : ¬ (0 ≤ number ∧ number ≤ 15)) :
    key? number = .error (.noSuchKey number) := by
  unfold key?
  rw [KeyStates.key?_eq_none_iff.mpr (by omega)]

/-- A request that is not refused is for one of the sixteen keys. -/
theorem exists_key {number : Int} (accepted : (Request.isDown number).fault? = none) :
    ∃ key : Fin 16, number = key.val := by
  have inside : 0 ≤ number ∧ number ≤ 15 := by simpa [Request.fault?] using accepted
  exact ⟨⟨number.toNat, by omega⟩, (Int.toNat_of_nonneg inside.1).symm⟩

theorem apply_setDown (keypad : Keypad) (key : Fin 16) (down : Bool) :
    keypad.apply (.setDown key.val down) = (⟨keypad.keys.put key down⟩, .ok .done) := by
  rw [apply, setDown, key?_val]
  rfl

theorem apply_isDown (keypad : Keypad) (key : Fin 16) :
    keypad.apply (.isDown key.val) = (keypad, .ok (.truth (keypad.keys.get key))) := by
  rw [apply, isDown, key?_val]
  rfl

theorem apply_setAll (keypad : Keypad) {states : List Bool}
    (accepted : (Request.setAll states).fault? = none) :
    ∃ keys : KeyStates, keys.toList = states ∧
      keypad.apply (.setAll states) = (⟨keys⟩, .ok .done) := by
  have complete : states.length = 16 := by simpa [Request.fault?] using accepted
  rw [apply, setAll, dif_pos complete]
  exact ⟨_, rfl, rfl⟩

/-- A request that is refused changes no key. -/
theorem apply_of_fault {request : Request} {fault : Fault} (refused : request.fault? = some fault) :
    keypad.apply request = (keypad, .error fault) := by
  cases request with
  | setDown number down =>
      obtain ⟨beyond, ⟨⟩⟩ := Option.ite_none_left_eq_some.mp refused
      rw [apply, setDown, key?_of_beyond beyond]
      rfl
  | isDown number =>
      obtain ⟨beyond, ⟨⟩⟩ := Option.ite_none_left_eq_some.mp refused
      rw [apply, isDown, key?_of_beyond beyond]
      rfl
  | setAll states =>
      obtain ⟨incomplete, ⟨⟩⟩ := Option.ite_none_left_eq_some.mp refused
      rw [apply, setAll, dif_neg incomplete]
      rfl
  | firstDown | releaseAll => cases refused

/-- Every other request is answered. -/
theorem exists_answer (keypad : Keypad) {request : Request} (accepted : request.fault? = none) :
    ∃ answer, (keypad.apply request).2 = .ok answer := by
  cases request with
  | setDown number down =>
      obtain ⟨key, rfl⟩ := exists_key accepted
      exact ⟨.done, congrArg Prod.snd (keypad.apply_setDown key down)⟩
  | isDown number =>
      obtain ⟨key, rfl⟩ := exists_key accepted
      exact ⟨_, congrArg Prod.snd (keypad.apply_isDown key)⟩
  | setAll states =>
      obtain ⟨keys, -, applied⟩ := keypad.apply_setAll accepted
      exact ⟨.done, congrArg Prod.snd applied⟩
  | firstDown | releaseAll => exact ⟨_, rfl⟩

/-- The request alone decides whether it is refused. -/
theorem reply_eq_error_iff {request : Request} {fault : Fault} :
    (keypad.apply request).2 = .error fault ↔ request.fault? = some fault := by
  constructor
  · intro refused
    cases expected : request.fault? with
    | none =>
        obtain ⟨answer, answered⟩ := keypad.exists_answer expected
        rw [answered] at refused
        cases refused
    | some other =>
        rw [apply_of_fault expected] at refused
        cases refused
        rfl
  · intro expected
    rw [apply_of_fault expected]

/-! ### Keys -/

theorem get_released (key : Fin 16) : released.keys.get key = false :=
  Vector.getElem_replicate key.isLt

theorem write?_error (key : Fin 16) (request : Request) (fault : Fault) :
    write? key (request, .error fault) = none := by
  cases request <;> rfl

/-- A request leaves each key as it sets it, or else as it was. -/
theorem get_apply (keypad : Keypad) (request : Request) (key : Fin 16) :
    (keypad.apply request).1.keys.get key =
      (write? key (request, (keypad.apply request).2)).getD (keypad.keys.get key) := by
  cases expected : request.fault? with
  | some fault =>
      rw [apply_of_fault expected, write?_error]
      rfl
  | none =>
      cases request with
      | setDown number down =>
          obtain ⟨other, rfl⟩ := exists_key expected
          rw [apply_setDown, KeyStates.get_put]
          simp only [write?]
          by_cases same : key = other
          · subst same
            rw [if_pos rfl, if_pos rfl]
            rfl
          · rw [if_neg same, if_neg (by omega)]
            rfl
      | setAll states =>
          obtain ⟨keys, rfl, applied⟩ := keypad.apply_setAll expected
          rw [applied]
          simp only [write?]
          rw [Vector.getElem?_toList, Vector.getElem?_eq_getElem key.isLt]
          rfl
      | releaseAll => exact get_released key
      | isDown _ | firstDown => rfl

/-- Of the requests that set a key, the last one counts. -/
theorem get_stateAfter (keypad : Keypad) (requests : List Request) (key : Fin 16) :
    (stateAfter apply keypad requests).keys.get key =
      (lastWrite? (write? key) (transcript apply keypad requests)).getD (keypad.keys.get key) := by
  induction requests generalizing keypad with
  | nil => rfl
  | cons request rest ih =>
      rw [transcript, lastWrite?_cons, Option.getD_or, ← get_apply]
      exact ih _

/-- After every history of requests a keypad on which no key was down has those keys down that the
last request to cover them, of those that were not refused, has set down. Requests for a key that
does not exist, and for a wrong number of states, are refused and change no key; all others are
answered. The first key that is down is the lowest one, and none if no key is down. -/
theorem keys_of_requests (requests : List Request) :
    let keypad := stateAfter apply released requests
    let replies := transcript apply released requests
    (∀ key, keypad.keys.get key = true ↔ lastWrite? (write? key) replies = some true) ∧
      (∀ request : Request,
        (∀ fault, (keypad.apply request).2 = .error fault ↔ request.fault? = some fault) ∧
        ∀ fault, (keypad.apply request).2 = .error fault → (keypad.apply request).1 = keypad) ∧
      (∀ key : Fin 16, (keypad.apply (.isDown key.val)).2 = .ok (.truth (keypad.keys.get key))) ∧
      ∃ found, (keypad.apply .firstDown).2 = .ok (.key found) ∧
        (∀ key, found = some key ↔
          keypad.keys.get key = true ∧ ∀ lower < key, keypad.keys.get lower = false) ∧
        (found = none ↔ ∀ key, keypad.keys.get key = false) := by
  intro keypad replies
  refine ⟨?_, ?_, ?_, keypad.firstDown, rfl, ?_, firstDown_eq_none_iff⟩
  · intro key
    rw [show keypad.keys.get key = _ from get_stateAfter released requests key, get_released]
    cases lastWrite? (write? key) replies with
    | none => exact iff_of_false Bool.false_ne_true nofun
    | some down => exact Option.some_inj.symm
  · intro request
    refine ⟨fun fault => reply_eq_error_iff, ?_⟩
    intro fault refused
    rw [apply_of_fault (reply_eq_error_iff.mp refused)]
  · intro key
    rw [apply_isDown]
  · intro key
    exact firstDown_eq_some_iff

end Chip8.Keypad
