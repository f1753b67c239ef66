import Chip8.Session

/-!
The end of a session.

A session that has made a display owes it to be closed. It does close it in whatever way its host
ends, but it reads the keymap when the display is already there and nothing sees to its closing yet.

* `Course`, `course_of_run` — the stages at which a session can end, with what has become of display
  and keys.
* `Unfit`, `prepare_of_unfit` — what keeps a session from making a display.
* `leavesWindow_iff` — a window is left open if it was opened and no keys came to it.
* `closed_of_run` — a display is closed, once and after the keys, if and only if the keymap can be
  read; an unfit session makes none.
-/

namespace Chip8.Session

variable {settings : Settings} {around : Surroundings}

/-! ### Courses -/

/-- What has happened when a display of a kind is there. -/
def opening : Display.Kind → List Milestone
  | .window => [.windowOpened, .displayMade]
  | .headless => [.displayMade]

/-- The stages at which a session can end. -/
inductive Course (settings : Settings) (around : Surroundings) : Outcome → Prop where
  | unprepared {fault : Fault} : Course settings around (.early [] fault)
  | displayless {prepared : Prepared} {fault : Fault} {milestones : List Milestone}
      (ready : prepare settings around = .ok prepared)
      (opened : milestones = [] ∨ milestones = [.windowOpened]) :
      Course settings around (.early milestones fault)
  | keyless {prepared : Prepared} {fault : Fault} (kind : Display.Kind)
      (ready : prepare settings around = .ok prepared)
      (unread : readKeymap settings.keymapText = .error fault) :
      Course settings around (.early (opening kind) fault)
  | played {prepared : Prepared} {keymap : Keymap} {outcome : Outcome} (kind : Display.Kind)
      (ready : prepare settings around = .ok prepared)
      (read : readKeymap settings.keymapText = .ok keymap)
      (made : outcome.milestones = opening kind ++ [.keysMade]) :
      Course settings around outcome.close

/-- However a host ends, it leaves display and keys to be closed. -/
theorem milestones_play {δ σ : Type} [Display δ] [KeySource σ] (prepared : Prepared)
    (clock : Clock) (arrive : Nat → σ → σ) (left : Host δ σ → Left) (milestones : List Milestone)
    (display : δ) (keys : σ) :
    (play prepared clock arrive left milestones display keys).milestones = milestones := by
  unfold play
  cases Host.build prepared.machine keys display prepared.clockSpeed with
  | error fault => rfl
  | ok host => rfl

theorem course_of_run (settings : Settings) (around : Surroundings) :
    Course settings around (run settings around) := by
  unfold run
  cases ready : prepare settings around with
  | error fault => exact .unprepared
  | ok prepared =>
      dsimp only
      cases prepared.means with
      | headless =>
          dsimp only [playHeadless, equipHeadless]
          cases Canvas.create (settings.scale.bind Entry.value?) (some settings.colours) with
          | error fault => exact .displayless ready (.inl rfl)
          | ok canvas =>
              dsimp only
              cases read : readKeymap settings.keymapText with
              | error fault => exact .keyless .headless ready read
              | ok keymap => exact .played .headless ready read (milestones_play ..)
      | window system =>
          dsimp only [playWindow]
          cases Window.create system settings.scale (some settings.colours) with
          | error refusal =>
              refine .displayless ready ?_
              cases refusal.opened with
              | false => exact .inl rfl
              | true => exact .inr rfl
          | ok window =>
              dsimp only
              cases read : readKeymap settings.keymapText with
              | error fault => exact .keyless .window ready read
              | ok keymap => exact .played .window ready read (milestones_play ..)

/-! ### Preparations -/

/-- A display whose name is unknown is refused. -/
theorem meansOf_of_unknown {name : String} (windows : Option WindowSystem)
    (unknown : Display.Kind.named? name = none) :
    meansOf (some name) windows = .error (.unknownRenderer name) := by
  simp only [meansOf, Option.getD_some, unknown]

theorem clockSpeed_of_not_positive {speed : ClockSpeed} (idle : speed.isPositive = false) :
    clockSpeed (some (.value speed)) = .error .clockSpeedNotPositive := by
  simp only [clockSpeed, idle, Bool.false_eq_true, if_false]

/-- A program that is too long is refused. -/
theorem machineWith_of_long {program : List UInt8} (random : RandomSource) (tracing : Bool)
    (long : Memory.maxProgramSize < program.length) :
    machineWith program random tracing =
      .error (.machine (.memory (.outOfRange Memory.programStart program.length))) := by
  simp only [machineWith, Machine.loadProgram, Memory.loadProgram, if_pos long]
  rfl

/-- What makes a session end before there is a display: a program that cannot be read or is too
long, a display that is not known, or a clock speed that is not positive. -/
inductive Unfit (settings : Settings) (around : Surroundings) : Prop where
  | unreadable {fault : Fault} (failed : readFile around.folder settings.filename = .error fault)
  | long {program : List UInt8} (read : readFile around.folder settings.filename = .ok program)
      (long : Memory.maxProgramSize < program.length)
  | unknown {name : String} (named : settings.renderer = some name)
      (unknown : Display.Kind.named? name = none)
  | idle {speed : ClockSpeed} (wanted : settings.clockSpeed = some (.value speed))
      (idle : speed.isPositive = false)

private theorem bind_eq_ok {α β : Type} {first : Except Fault α} {next : α → Except Fault β}
    {result : β} (succeeded : first >>= next = .ok result) :
    ∃ value, first = .ok value ∧ next value = .ok result := by
  cases first with
  | error fault => cases succeeded
  | ok value => exact ⟨value, rfl, succeeded⟩

/-- Such a session is not prepared. -/
theorem prepare_of_unfit (unfit : Unfit settings around) (prepared : Prepared) :
    prepare settings around ≠ .ok prepared := by
  intro ready
  obtain ⟨means, found, ready⟩ := bind_eq_ok ready
  obtain ⟨speed, timed, ready⟩ := bind_eq_ok ready
  obtain ⟨program, content, ready⟩ := bind_eq_ok ready
  obtain ⟨machine, loaded, -⟩ := bind_eq_ok ready
  cases unfit with
  | unreadable failed =>
      rw [failed] at content
      cases content
  | long read long =>
      obtain rfl := Except.ok.inj (content.symm.trans read)
      rw [machineWith_of_long _ _ long] at loaded
      cases loaded
  | unknown named unknown =>
      rw [named, meansOf_of_unknown _ unknown] at found
      cases found
  | idle wanted idle =>
      rw [wanted, clockSpeed_of_not_positive idle] at timed
      cases timed

/-! ### Closing -/

/-- Closing leaves no window open. -/
theorem isOpen_of_close {left : Left} {host : Host Window Keyboard}
    (closed : left.close = .window host) : host.display.isOpen = false := by
  cases left with
  | window before =>
      obtain rfl := Left.window.inj closed
      simp [Window.isOpen, Window.close]
  | headless _ | nothing => cases closed

/-- While a session opens its display, it has no keys and closes nothing. -/
theorem keyless_opening (kind : Display.Kind) :
    .keysMade ∉ opening kind ∧ .displayClosed ∉ opening kind := by
  cases kind <;> decide

/-- Closing follows the keys, and happens once. -/
theorem closed_opening (kind : Display.Kind) :
    let milestones := opening kind ++ [.keysMade] ++ [.keysClosed, .displayClosed]
    milestones.count .keysClosed = 1 ∧ milestones.count .displayClosed = 1 ∧
      [.keysMade, .keysClosed, .displayClosed].Sublist milestones := by
  cases kind <;> decide

/-- A window is left open if there are no keys yet. -/
theorem leavesWindow_iff {outcome : Outcome} (course : Course settings around outcome) :
    outcome.leavesWindow = true ↔
      .windowOpened ∈ outcome.milestones ∧ .keysMade ∉ outcome.milestones := by
  cases course with
  | unprepared => simp [Outcome.leavesWindow, Outcome.early]
  | displayless _ opened =>
      rcases opened with rfl | rfl
      · simp [Outcome.leavesWindow, Outcome.early]
      · simp [Outcome.leavesWindow, Outcome.early]
  | keyless kind _ _ =>
      cases kind with
      | window => simp [Outcome.leavesWindow, Outcome.early, opening]
      | headless => simp [Outcome.leavesWindow, Outcome.early, opening]
  | played _ _ _ made => simp [Outcome.leavesWindow, Outcome.close, made]

/-- In whatever way a session ends, it has closed its display once and after its keys if it has
keys, and it has left no window that is open with a host. A session that has a display, but a
keymap that cannot be read, has no keys and ends with the display open, and only a session without
keys leaves a window. Without a program that can be read and fits, a display that is known and a
clock speed that is positive, there is no display at all. -/
theorem closed_of_run (settings : Settings) (around : Surroundings) :
    let outcome := run settings around
    (.displayMade ∈ outcome.milestones →
        outcome.milestones.count .displayClosed =
          if (readKeymap settings.keymapText).isOk then 1 else 0) ∧
      (.keysMade ∈ outcome.milestones →
        outcome.milestones.count .keysClosed = 1 ∧ outcome.milestones.count .displayClosed = 1 ∧
          [.keysMade, .keysClosed, .displayClosed].Sublist outcome.milestones) ∧
      (outcome.leavesWindow = true ↔
        .windowOpened ∈ outcome.milestones ∧ .keysMade ∉ outcome.milestones) ∧
      (∀ host, outcome.left = .window host → host.display.isOpen = false) ∧
      (Unfit settings around → outcome.milestones = []) := by
  intro outcome
  have course : Course settings around outcome := course_of_run settings around
  have window := leavesWindow_iff course
  clear_value outcome
  cases course with
  | unprepared =>
      refine ⟨?_, ?_, window, ?_, fun _ => rfl⟩
      · intro made
        cases made
      · intro made
        cases made
      · intro _ left
        cases left
  | @displayless _ _ milestones ready opened =>
      have displayless : .displayMade ∉ milestones ∧ .keysMade ∉ milestones := by
        rcases opened with rfl | rfl <;> decide
      refine ⟨?_, ?_, window, ?_, fun unfit => absurd ready (prepare_of_unfit unfit _)⟩
      · exact fun made => absurd made displayless.1
      · exact fun made => absurd made displayless.2
      · intro _ left
        cases left
  | keyless kind ready unread =>
      refine ⟨?_, ?_, window, ?_, fun unfit => absurd ready (prepare_of_unfit unfit _)⟩
      · intro _
        rw [unread]
        exact List.count_eq_zero.mpr (keyless_opening kind).2
      · exact fun made => absurd made (keyless_opening kind).1
      · intro _ left
        cases left
  | played kind ready read made =>
      have closed := closed_opening kind
      rw [← made] at closed
      refine ⟨?_, ?_, window, ?_, fun unfit => absurd ready (prepare_of_unfit unfit _)⟩
      · intro _
        rw [read]
        exact closed.2.1
      · exact fun _ => closed
      · exact fun _ => isOpen_of_close

/-- A keymap with another number of keys than sixteen cannot be read. -/
theorem readKeymap_of_count {text : String} (count : (text.splitOn ",").length ≠ 16) :
    readKeymap (.value text) = .error (.keymap .wrongCount) := by
  have refused : Keymap.read text = .error .wrongCount := dif_neg count
  dsimp only [readKeymap]
  rw [refused]
  rfl

/-- The texts of a single character below are not split. -/
private theorem splitOn_single {text separator : String}
    (known : text = "a" ∧ separator = "/" ∨ text = "1" ∧ separator = ",") :
    text.splitOn separator = [text] := by
  rcases known with ⟨rfl, rfl⟩ | ⟨rfl, rfl⟩
  all_goals
    rw [String.splitOn, if_neg (by decide), String.splitOnAux, if_neg (by decide),
      if_neg (by decide), String.splitOnAux, if_pos (by decide)]
    decide

/-- A keymap of a single key leaves the window open. -/
theorem leavesWindow_of_short_keymap :
    let settings : Settings := { filename := .value "a", keymap := some (.value "1") }
    let around : Surroundings := {
      folder := ⟨[("a", [0x12, 0x00])]⟩
      random := .cycling []
      clock := .steady 0 2000 500
      windows := some .obliging }
    let outcome := run settings around
    .displayMade ∈ outcome.milestones ∧ .displayClosed ∉ outcome.milestones ∧
      outcome.leavesWindow = true := by
  intro settings around outcome
  have content : readFile around.folder settings.filename = .ok [0x12, 0x00] := by
    dsimp only [readFile, settings]
    unfold Folder.read
    rw [splitOn_single (.inl ⟨rfl, rfl⟩)]
    rfl
  have unread : readKeymap settings.keymapText = .error (.keymap .wrongCount) := by
    apply readKeymap_of_count
    rw [splitOn_single (.inr ⟨rfl, rfl⟩)]
    decide
  have ready :
      ∃ machine, prepare settings around = .ok ⟨.window .obliging, .whole 500, machine⟩ := by
    unfold prepare
    rw [content]
    exact ⟨_, rfl⟩
  obtain ⟨machine, ready⟩ := ready
  have ended : outcome = .early [.windowOpened, .displayMade] (.keymap .wrongCount) := by
    show run settings around = _
    unfold run
    rw [ready]
    dsimp only [playWindow]
    rw [unread]
    rfl
  rw [ended]
  decide

end Chip8.Session
