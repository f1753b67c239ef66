import Chip8.Keyboard
import Chip8.Opcode
import Chip8.Proofs.Keymaps
import Chip8.Proofs.LastWrites
import Chip8.Proofs.Splitting

/-!
What events do to the keys of a keyboard.

* `setting?` — what an event sets the key of a code to.
* `handleAll_append` — events that are handled at once or in two lists.
* `quit_handleAll`, `get_handleAll` — after any events, whether one of them asks to quit, and where
  they leave each key.
* `keys_of_poll` — the same for a poll, and for two polls instead of one.
-/

namespace Chip8.Keyboard

variable {keymap : Keymap} {states : KeyStates} {events : List Event}

/-- What an event sets the key of a code to. A release of the escape key sets none. -/
def setting? (code : Int) : Event → Option Bool
  | .press pressed => if pressed = code then some true else none
  | .release released => if released = code ∧ released ≠ escape then some false else none
  | .quit | .other => none

/-! ### One event -/

theorem get_setKey (distinct : Function.Injective keymap.codes.get) (code : Int) (down : Bool)
    (key : Fin 16) :
    (setKey keymap states code down).get key =
      if code = keymap.codes.get key then down else states.get key := by
  unfold setKey
  cases found : keymap.keyOf? code with
  | none =>
      refine (if_neg ?_).symm
      rintro rfl
      rw [(Keymap.keyOf?_eq_some_iff distinct).mpr rfl] at found
      cases found
  | some other =>
      obtain rfl := (Keymap.keyOf?_eq_some_iff distinct).mp found
      rw [KeyStates.get_put]
      by_cases same : key = other
      · rw [if_pos same, if_pos (congrArg _ same.symm)]
      · rw [if_neg same, if_neg fun codes => same (distinct codes).symm]

/-- One event sets the key that is meant, and leaves all others. -/
theorem get_handle (distinct : Function.Injective keymap.codes.get) (event : Event) (key : Fin 16) :
    (handle keymap states event).2.get key =
      (setting? (keymap.codes.get key) event).getD (states.get key) := by
  cases event with
  | press code =>
      refine (get_setKey distinct code true key).trans ?_
      rw [setting?, apply_ite (Option.getD · (states.get key))]
      rfl
  | release code =>
      simp only [handle, setting?]
      by_cases escapes : code = escape
      · rw [if_pos escapes, if_neg fun released => released.2 escapes]
        rfl
      · rw [if_neg escapes, get_setKey distinct]
        by_cases meant : code = keymap.codes.get key
        · rw [if_pos meant, if_pos ⟨meant, escapes⟩]
          rfl
        · rw [if_neg meant, if_neg fun released => meant released.1]
          rfl
  | quit | other => rfl

theorem quit_handle (event : Event) :
    (handle keymap states event).1 = true ↔ event = .quit ∨ event = .release escape := by
  cases event with
  | press code => exact iff_of_false nofun nofun
  | release code =>
      by_cases escapes : code = escape
      · simp [handle, escapes]
      · simp [handle, escapes]
  | quit => exact iff_of_true rfl (.inl rfl)
  | other => exact iff_of_false nofun nofun

/-! ### Many events -/

/-- The answer so far is kept, whatever comes. -/
theorem foldl_handle (events : List Event) (asked : Bool) :
    events.foldl
        (fun (quit, states) event =>
          let (quits, states) := handle keymap states event
          (quit || quits, states))
        (asked, states) =
      (asked || (handleAll keymap states events).1, (handleAll keymap states events).2) := by
  unfold handleAll
  induction events generalizing asked states with
  | nil => simp
  | cons event rest ih =>
      rw [List.foldl_cons, List.foldl_cons, ih, ih (false || _)]
      simp [Bool.or_assoc]

theorem handleAll_append (first second : List Event) :
    handleAll keymap states (first ++ second) =
      ((handleAll keymap states first).1 ||
          (handleAll keymap (handleAll keymap states first).2 second).1,
        (handleAll keymap (handleAll keymap states first).2 second).2) := by
  rw [handleAll, List.foldl_append, foldl_handle, foldl_handle, Bool.false_or]

theorem handleAll_cons (event : Event) (rest : List Event) :
    handleAll keymap states (event :: rest) =
      ((handle keymap states event).1 ||
          (handleAll keymap (handle keymap states event).2 rest).1,
        (handleAll keymap (handle keymap states event).2 rest).2) :=
  foldl_handle rest _

/-- The answer is that of any event among them. -/
theorem quit_handleAll (events : List Event) :
    (handleAll keymap states events).1 = true ↔ .quit ∈ events ∨ .release escape ∈ events := by
  induction events generalizing states with
  | nil => exact iff_of_false Bool.false_ne_true (by simp)
  | cons event rest ih =>
      rw [handleAll_cons, Bool.or_eq_true, quit_handle, ih, List.mem_cons, List.mem_cons,
        eq_comm (a := event), eq_comm (a := event)]
      exact or_or_or_comm

/-- Of the events that set a key, the last one counts. -/
theorem get_handleAll (distinct : Function.Injective keymap.codes.get) (events : List Event)
    (key : Fin 16) :
    (handleAll keymap states events).2.get key =
      (lastWrite? (setting? (keymap.codes.get key)) events).getD (states.get key) := by
  induction events generalizing states with
  | nil => rfl
  | cons event rest ih =>
      rw [handleAll_cons, ih, get_handle distinct, lastWrite?_cons, Option.getD_or]

/-- An event that sets no key can be left out. -/
theorem states_handleAll_of_idle (distinct : Function.Injective keymap.codes.get)
    (before after : List Event) {event : Event}
    (idle : ∀ key, setting? (keymap.codes.get key) event = none) :
    (handleAll keymap states (before ++ event :: after)).2 =
      (handleAll keymap states (before ++ after)).2 := by
  refine Vector.ext fun index inside => ?_
  show Vector.get _ ⟨index, inside⟩ = Vector.get _ ⟨index, inside⟩
  rw [get_handleAll distinct, get_handleAll distinct, lastWrite?_append, lastWrite?_cons, idle,
    Option.or_none, lastWrite?_append]

/-! ### Polls -/

theorem foldl_post (keyboard : Keyboard) (events : List Event) :
    events.foldl post keyboard = { keyboard with queue := keyboard.queue ++ events } := by
  induction events generalizing keyboard with
  | nil => rw [List.foldl_nil, List.append_nil]
  | cons event rest ih => rw [List.foldl_cons, ih, post, List.append_cons keyboard.queue event rest]

theorem poll_eq (keyboard : Keyboard) :
    keyboard.poll =
      ((handleAll keyboard.keymap keyboard.states keyboard.queue).1,
        { keyboard with
          states := (handleAll keyboard.keymap keyboard.states keyboard.queue).2
          queue := [] }) :=
  rfl

/-- What a poll leaves of the events that wait.

A poll asks to quit just when an event among them does: the closing of the window or a release of
the escape key. Each key is left as the last event has set it that presses its code or releases it,
whatever else there is, and stays as it was if there is no such event; a release of the escape key
is none, and an event that sets no key can be left out. No event is left over, so events that are
polled in two parts leave the same keys as when they are polled at once, and the answer is then that
of either part. -/
theorem keys_of_poll {text : String} {keyboard : Keyboard}
    (accepted : Keymap.read text = .ok keyboard.keymap) :
    let polled := keyboard.poll
    (polled.1 = true ↔ .quit ∈ keyboard.queue ∨ .release escape ∈ keyboard.queue) ∧
      (∀ key, polled.2.states.get key =
        (lastWrite? (setting? (keyboard.keymap.codes.get key)) keyboard.queue).getD
          (keyboard.states.get key)) ∧
      (∀ before event after, keyboard.queue = before ++ event :: after →
        (∀ key, setting? (keyboard.keymap.codes.get key) event = none) →
          polled.2 = { keyboard with queue := before ++ after }.poll.2) ∧
      polled.2.keymap = keyboard.keymap ∧ polled.2.queue = [] ∧
      ∀ later : List Event,
        let twice := (later.foldl post polled.2).poll
        let once := (later.foldl post keyboard).poll
        once.2 = twice.2 ∧ once.1 = (polled.1 || twice.1) := by
  intro polled
  have distinct : Function.Injective keyboard.keymap.codes.get :=
    Keymap.injective_of_nodup (Keymap.read_eq_ok_iff.mp accepted).2
  refine ⟨quit_handleAll _, fun key => get_handleAll distinct _ key, ?_, rfl, rfl, ?_⟩
  · intro before event after whole idle
    simp only [polled, poll_eq, whole, states_handleAll_of_idle distinct before after idle]
  · intro later
    simp only [polled, foldl_post, poll_eq, handleAll_append, List.nil_append, and_self]

/-- Key 0 has the code of the escape key: it can be pressed and never released. Events behind the
closing of the window count, and a code without a key does not. -/
theorem keys_of_poll_of_escape :
    let text := "27,1,2,3,4,5,6,7,8,9,10,11,12,13,14,15"
    let keyboard : Keyboard := {
      keymap := ⟨#v[27, 1, 2, 3, 4, 5, 6, 7, 8, 9, 10, 11, 12, 13, 14, 15]⟩
      queue := [.press 27, .press 1, .quit, .release 27, .release 1, .press 99, .press 2, .other] }
    let polled := keyboard.poll
    Keymap.read text = .ok keyboard.keymap ∧ polled.1 = true ∧ polled.2.states.get 0 = true ∧
      polled.2.states.get 1 = false ∧ polled.2.states.get 2 = true := by
  intro text keyboard polled
  have accepted : Keymap.read text = .ok keyboard.keymap := by
    have split : text.splitOn "," = (text.toList.splitOn ',').map String.ofList :=
      Text.splitOn_of_single text ','
    rw [Keymap.read_eq_ok_iff, split]
    decide +kernel
  obtain ⟨asks, left, -⟩ := keys_of_poll accepted
  exact ⟨accepted, asks.mpr (by decide), left 0, left 1, left 2⟩

end Chip8.Keyboard
