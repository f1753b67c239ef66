import Chip8.Proofs.Closing
import Chip8.Proofs.Crashes
import Chip8.Proofs.Doubles
import Chip8.Proofs.Splitting
import Chip8.Session.Launch

/-!
How a launch without a window explains its end.

What can keep a session from running its program is explained, and so is a crash of the program.
Only the clock speed may escape that: the command line takes whole numbers of any size, and one that
lies beyond all doubles is refused by the host, where nothing sees to a text.

* `obstacle?` — what keeps a session from running its program, in the order of the checks.
* `Ends`, `ends_run` — a session fails with its obstacle, or else ends with the run of a host.
* `Exit`, `exit_of_launch` — the text with which each failure ends the launch.
* `exit_of_launch_too_fast` — a clock speed that leaves the launch without a text.
-/

namespace Chip8

/-! ### Command lines -/

theorem ClockSpeed.read_of_positive {text : String} {speed : Int}
    (whole : Text.readInt? text = some speed) (positive : 0 < speed) :
    ClockSpeed.read text = .ok speed := by
  unfold ClockSpeed.read
  rw [whole]
  exact if_neg (Int.not_le.mpr positive)

namespace CommandLine

/-- A clock speed is accepted from the command line as it is read. -/
theorem read_of_clockSpeed {text : String} {speed : Int} (plain : text.toList.head? ≠ some '-')
    (read : ClockSpeed.read text = .ok speed) :
    CommandLine.read ["a", "-r", "null", "-c", text] = .ok {
      filename := some "a"
      renderer := some (.value .headless)
      clockSpeed := .value speed } := by
  have value : text ≠ "--" := by
    rintro rfl
    exact plain (by decide +kernel)
  have words : wordsOf ["a", "-r", "null", "-c", text] = .ok ([.plain "a",
      .option .renderer true none, .plain "null", .option .clockSpeed true none] ++
        [.plain text]) := by
    have word : wordOf text = .ok (.plain text) := if_pos plain
    have others : wordOf "a" = .ok (.plain "a") ∧
        wordOf "-r" = .ok (.option .renderer true none) ∧ wordOf "null" = .ok (.plain "null") ∧
        wordOf "-c" = .ok (.option .clockSpeed true none) := by
      decide +kernel
    simp only [wordsOf, others, word, value, if_false, String.reduceEq]
    rfl
  have before : [.plain "a", .option .renderer true none, .plain "null",
      .option .clockSpeed true none].foldlM readWord {} = .ok {
        options := { filename := some "a", renderer := some (.value .headless) }
        stance := .awaits { flags := [], last := .clockSpeed, attached := none } } := by
    decide +kernel
  have entered : enter text ((ClockSpeed.read text).mapError Fault.clockSpeed) =
      .ok (.value speed) := by
    simp only [enter, value, if_false, read]
    rfl
  unfold CommandLine.read
  rw [words]
  dsimp only [Except.mapError, bind, Except.bind]
  rw [List.foldlM_append, before]
  dsimp only [bind, Except.bind, List.foldlM, readWord, Progress.give, pure, Except.pure,
    Options.give]
  rw [entered]
  rfl

end CommandLine

end Chip8

namespace Chip8.Session

open CommandLine (Options)

/-- What keeps a session without a window from running its program: the first check that fails. The
last is whether the clock speed has a double. -/
def obstacle? (options : Options) (program : List UInt8) : Option Fault :=
  match options.clockSpeed with
  | .unusable => some .clockSpeedUnusable
  | .value speed =>
      if speed ≤ 0 then some .clockSpeedNotPositive
      else if Memory.maxProgramSize < program.length then
        some (.machine (.memory (.outOfRange Memory.programStart program.length)))
      else
        match readKeymap (settingsOf options).keymapText with
        | .error fault => some fault
        | .ok _ => if Time.overflow ≤ speed then some (.build (.host .beyondDoubles)) else none

/-- The clock speed is to blame, though the command line was accepted with it. -/
def Fault.blamesClockSpeed : Fault → Bool
  | .clockSpeedUnusable | .build (.host .beyondDoubles) => true
  | _ => false

/-- Where everything else is in order, a clock speed without a double is in the way. -/
theorem obstacle?_of_overflow {options : Options} {program : List UInt8} {speed : Int}
    {keymap : Keymap} (entered : options.clockSpeed = .value speed)
    (fits : ¬ Memory.maxProgramSize < program.length)
    (read : readKeymap (settingsOf options).keymapText = .ok keymap)
    (beyond : Time.overflow ≤ speed) :
    obstacle? options program = some (.build (.host .beyondDoubles)) := by
  have low : 0 < Time.overflow := by decide +kernel
  have positive : ¬ speed ≤ 0 := by omega
  simp only [obstacle?, entered, if_neg positive, if_neg fits, read, if_pos beyond]

/-! ### Preparing -/

/-- A program that fits is loaded, and not yet run. -/
theorem exists_machineWith {program : List UInt8} (random : RandomSource) (tracing : Bool)
    (fits : ¬ Memory.maxProgramSize < program.length) :
    ∃ machine, machineWith program random tracing = .ok machine ∧ machine.cpu.Bounded := by
  have inside : Memory.InRange Memory.programStart program.length := by
    simp only [Memory.maxProgramSize, Memory.size, Memory.programStart] at fits
    simp only [Memory.InRange, Memory.size, Memory.programStart]
    omega
  let fresh := Machine.fresh random tracing
  refine ⟨{ fresh with memory :=
    ⟨Memory.store fresh.memory.cells (Memory.programStart : Int).toNat program⟩ }, ?_, ?_⟩
  · simp only [machineWith, Machine.loadProgram, Memory.loadProgram_eq, Memory.writeBlock_eq,
      if_pos inside]
    rfl
  · exact Cpu.bounded_initial

/-- A colour of the command line is one that a canvas takes. -/
theorem checkColour_entryOf (colour : Colour) :
    Canvas.checkColour (Settings.entryOf colour) = .ok () := by
  have taken (byte : UInt8) :
      Canvas.checkComponent (.value (.whole (byte.toNat : Int))) = .ok () := by
    have small := byte.toNat_lt
    refine if_pos ?_
    simp only [Number.isWithin, Bool.and_eq_true, decide_eq_true_eq]
    omega
  simp only [Settings.entryOf, Colour.toComponents, Colour.components, List.map, Canvas.checkColour,
    taken]
  rfl

theorem colours_settingsOf (options : Options) :
    (settingsOf options).colours = [
      Settings.entryOf ((options.colour1.bind Entry.value?).getD Palette.standard.off),
      Settings.entryOf ((options.colour2.bind Entry.value?).getD Palette.standard.on)] := by
  simp only [settingsOf, Settings.colours]
  cases options.colour1.bind Entry.value? with
  | none => cases options.colour2.bind Entry.value? <;> rfl
  | some off => cases options.colour2.bind Entry.value? <;> rfl

theorem exists_create (options : Options) (scale : Option Number) :
    ∃ canvas, Canvas.create scale (some (settingsOf options).colours) = .ok canvas := by
  refine ⟨{ scale := scale.getD Canvas.standard.scale }, ?_⟩
  rw [colours_settingsOf]
  simp only [Canvas.create, Canvas.checkColours, checkColour_entryOf]
  rfl

/-- The keymap of a command line is a text, so that nothing but its content is refused. -/
theorem readKeymap_settingsOf (options : Options) {fault : Fault}
    (unread : readKeymap (settingsOf options).keymapText = .error fault) :
    ∃ trouble, fault = .keymap trouble := by
  obtain ⟨text, entered⟩ : ∃ text, (settingsOf options).keymapText = .value text := by
    simp only [settingsOf, Settings.keymapText]
    cases options.keymap with
    | unusable => exact ⟨_, rfl⟩
    | value text =>
        simp only [Entry.value?, Option.map_some]
        split
        next => exact ⟨_, rfl⟩
        next => exact ⟨_, rfl⟩
        next same => exact ⟨text, (Option.some.inj same).symm⟩
  rw [entered] at unread
  simp only [readKeymap] at unread
  cases read : Keymap.read text with
  | error trouble =>
      rw [read] at unread
      exact ⟨trouble, (Except.error.inj unread).symm⟩
  | ok keymap =>
      rw [read] at unread
      cases unread

/-! ### Ending -/

/-- A session without a window ends with what keeps it from running its program, and else with the
run of a host. -/
inductive Ends (clock : Clock) (outcome : Outcome) : Option Fault → Prop where
  | stopped {fault : Fault} (ending : outcome.ending = .failed fault) :
      Ends clock outcome (some fault)
  | ran {host : Host Canvas HandKeys} {ended : Host.Run Canvas HandKeys} (sound : host.Sound)
      (run : host.run clock (fun _ keys => keys) = ended)
      (ending : outcome.ending = endingOf ended.ending) (left : outcome.left = .headless ended.host)
      (readings : outcome.readings = ended.readings) : Ends clock outcome none

/-- With a keymap and a clock speed that can be used, a host runs the program. -/
theorem ends_playHeadless {options : Options} {machine : Machine} {speed : Int} (clock : Clock)
    (bounded : machine.cpu.Bounded) (positive : 0 < speed) :
    Ends clock
      (playHeadless (settingsOf options) { means := .headless, clockSpeed := .whole speed, machine }
        clock)
      (match readKeymap (settingsOf options).keymapText with
        | .error fault => some fault
        | .ok _ =>
            if Time.overflow ≤ speed then some (.build (.host .beyondDoubles)) else none) := by
  obtain ⟨canvas, created⟩ :=
    exists_create options ((settingsOf options).scale.bind Entry.value?)
  unfold playHeadless equipHeadless
  rw [created]
  dsimp only
  cases readKeymap (settingsOf options).keymapText with
  | error fault => exact .stopped rfl
  | ok keymap =>
      have built := Host.build_eq machine ({} : HandKeys) canvas (.whole speed)
      dsimp only [play]
      by_cases beyond : Time.overflow ≤ speed
      · rw [built, Host.intervalOf_of_overflow beyond, if_pos beyond]
        exact .stopped rfl
      · obtain ⟨interval, paced⟩ := Host.exists_intervalOf positive (Int.not_le.mp beyond)
        rw [paced] at built
        rw [built, if_neg beyond]
        exact .ran ⟨bounded, Host.follows_of_build built⟩ rfl rfl rfl rfl

/-- A session that knows its display and can read its program checks the clock speed, the size of
the program, the keymap, and whether the clock speed has a double, in this order. -/
theorem ends_run {options : Options} {around : Surroundings} {program : List UInt8}
    (headless : options.renderer = some (.value .headless))
    (readable : around.folder.read (options.filename.getD "") = .ok program) :
    Ends around.clock (run (settingsOf options) around) (obstacle? options program) := by
  have means : meansOf (settingsOf options).renderer around.windows = .ok .headless := by
    simp only [settingsOf, headless]
    rfl
  have content : readFile around.folder (settingsOf options).filename = .ok program := by
    simp only [settingsOf, readFile, readable]
    rfl
  have wanted : (settingsOf options).clockSpeed = some (options.clockSpeed.map .whole) := rfl
  unfold run prepare prepareWith obstacle?
  rw [means, content, wanted]
  cases options.clockSpeed with
  | unusable => exact .stopped rfl
  | value speed =>
      dsimp only [Entry.map]
      by_cases idle : speed ≤ 0
      · have unfit : ClockSpeed.isPositive (.whole speed) = false :=
          decide_eq_false (Int.not_lt.mpr idle)
        rw [clockSpeed_of_not_positive unfit, if_pos idle]
        exact .stopped rfl
      have positive : 0 < speed := Int.not_le.mp idle
      have accepted : clockSpeed (some (.value (.whole speed))) = .ok (.whole speed) :=
        if_pos (decide_eq_true positive)
      rw [accepted, if_neg idle]
      by_cases long : Memory.maxProgramSize < program.length
      · rw [if_pos long]
        dsimp only [bind, Except.bind]
        rw [machineWith_of_long _ _ long]
        exact .stopped rfl
      · obtain ⟨machine, loaded, bounded⟩ := exists_machineWith around.random options.debug long
        have loaded :
            machineWith program around.random (settingsOf options).tracing = .ok machine := loaded
        rw [if_neg long]
        dsimp only [bind, Except.bind]
        rw [loaded]
        exact ends_playHeadless around.clock bounded positive

/-! ### Texts -/

/-- The failures of a session without a window, each with the text that ends the launch. -/
inductive Exit (options : Options) (program : List UInt8) (clock : Clock) (outcome : Outcome) :
    Fault → Option String → Prop where
  /-- The program has crashed, and its crash is reported. -/
  | crashed {host : Host Canvas HandKeys} {failure : Machine.Failure} (instruction : String)
      (unopposed : obstacle? options program = none) (left : outcome.left = .headless host)
      (crash : failure.fault.isCrash = true) :
      Exit options program clock outcome (.host (.machine failure))
        (some (host.machine.cpu.crashReport instruction ++ "\n\n" ++ failure.fault.message))
  /-- The program was not run, which is explained. -/
  | refused {fault : Fault} (obstacle : obstacle? options program = some fault)
      (fair : fault.blamesClockSpeed = false) :
      Exit options program clock outcome fault (some ("Error: " ++ fault.message))
  /-- The program was not run for its clock speed, which nothing explains. -/
  | escaped {fault : Fault} (obstacle : obstacle? options program = some fault)
      (unfair : fault.blamesClockSpeed = true) : Exit options program clock outcome fault none
  /-- The clock has failed. -/
  | clockFailed (unopposed : obstacle? options program = none)
      (fails : Host.FailsAfter clock.time? outcome.readings) :
      Exit options program clock outcome (.host .beyondDoubles) none

/-- Every obstacle but the clock speed is explained. -/
theorem exitText_of_obstacle {options : Options} {program : List UInt8} {fault : Fault}
    (obstacle : obstacle? options program = some fault) :
    fault.exitText =
      if fault.blamesClockSpeed then none else some ("Error: " ++ fault.message) := by
  unfold obstacle? at obstacle
  cases entered : options.clockSpeed with
  | unusable =>
      rw [entered] at obstacle
      cases obstacle
      rfl
  | value speed =>
      simp only [entered] at obstacle
      split at obstacle
      · cases obstacle
        rfl
      split at obstacle
      · cases obstacle
        rfl
      split at obstacle
      next unread =>
        obtain rfl := Option.some.inj obstacle
        obtain ⟨trouble, rfl⟩ := readKeymap_settingsOf options unread
        rfl
      next =>
        split at obstacle
        · cases obstacle
          rfl
        · cases obstacle

theorem exitText_of_crash {failure : Machine.Failure} {report : String}
    (crash : failure.fault.isCrash = true) (reported : failure.report = some report) :
    Fault.exitText (.host (.machine failure)) =
      some (report ++ "\n\n" ++ failure.fault.message) := by
  have expected : Fault.isExpected (.host (.machine failure)) = true := crash
  simp only [Fault.exitText, expected, if_true, Fault.report?, reported]
  rfl

/-- Every failure of a session that was launched without a window is explained, unless the clock or
the clock speed is to blame.

The program and the options are arbitrary, as long as the command line is accepted and the program
can be read. If the program crashes, then its crash report and the message are the text that ends
the launch, and behind an error it is the message alone. What is in the way of the program is
always noticed; a clock speed that is unusable or beyond all doubles is the only such thing that is
not explained. -/
theorem exit_of_launch {arguments : List String} {around : Surroundings} {options : Options}
    {program : List UInt8} (accepted : CommandLine.read arguments = .ok options)
    (headless : options.renderer = some (.value .headless))
    (readable : around.folder.read (options.filename.getD "") = .ok program) :
    ∃ outcome, launch arguments around = .played outcome ∧
      (∀ fault, obstacle? options program = some fault → outcome.ending = .failed fault) ∧
      ∀ fault, outcome.ending = .failed fault →
        Exit options program around.clock outcome fault fault.exitText := by
  have ends := ends_run headless readable
  refine ⟨run (settingsOf options) around, by rw [launch, accepted], ?_⟩
  generalize run (settingsOf options) around = outcome at ends ⊢
  generalize met : obstacle? options program = obstacle at ends
  cases ends with
  | @stopped fault ending =>
      refine ⟨fun other found => Option.some.inj found ▸ ending, fun other failed => ?_⟩
      obtain rfl := Ending.failed.inj (ending.symm.trans failed)
      rw [exitText_of_obstacle met]
      cases blamed : fault.blamesClockSpeed with
      | true => exact .escaped met blamed
      | false => exact .refused met blamed
  | @ran host ended sound run ending left readings =>
      refine ⟨nofun, fun fault failed => ?_⟩
      rw [ending] at failed
      cases ended' : ended.ending with
      | quit | clockStopped =>
          rw [ended'] at failed
          cases failed
      | failed trouble =>
          rw [ended'] at failed
          obtain rfl := Ending.failed.inj failed
          subst run
          rcases Host.fault_runFrom sound ended' with
            ⟨failure, instruction, rfl, crash, reported⟩ | ⟨fails, rfl⟩
          · rw [exitText_of_crash crash reported]
            exact .crashed instruction met left crash
          · exact .clockFailed met (readings ▸ fails)

/-! ### Launches -/

/-- The only file of a folder is read by its name. -/
theorem read_single (program : List UInt8) :
    (⟨[("a", program)]⟩ : Folder).read "a" = .ok program := by
  have names : "a".splitOn "/" = ["a"] := by
    rw [show "/" = String.singleton '/' from rfl, Text.splitOn_of_single]
    decide +kernel
  unfold Folder.read
  rw [names]
  rfl

/-- The keymap that is used where no other is given can be read. -/
theorem exists_read_standard : ∃ keymap, readKeymap (.value Keymap.standard) = .ok keymap := by
  have split : Keymap.standard.splitOn "," =
      (Keymap.standard.toList.splitOn ',').map String.ofList :=
    Text.splitOn_of_single Keymap.standard ','
  have count : (Keymap.standard.splitOn ",").length = 16 := by
    rw [split]
    decide +kernel
  have fine : (Keymap.readCodes [] (Keymap.standard.splitOn ",")).isOk = true := by
    rw [split]
    decide +kernel
  simp only [readKeymap, Keymap.read, dif_pos count]
  cases codes : Keymap.readCodes [] (Keymap.standard.splitOn ",") with
  | error trouble =>
      rw [codes] at fine
      cases fine
  | ok codes => exact ⟨_, rfl⟩

/-- A program of one byte too many, without a window. -/
theorem exit_of_launch_too_long :
    let program : List UInt8 := List.replicate 3585 0
    let around : Surroundings := {
      folder := ⟨[("a", program)]⟩
      random := .cycling []
      clock := .steady 0 2000 500 }
    ∃ outcome fault, launch ["a", "-r", "null"] around = .played outcome ∧
      outcome.ending = .failed fault ∧
      fault.exitText = some "Error: Illegal memory access at address 0x200 for 3585 byte(s)" := by
  intro program around
  have accepted : CommandLine.read ["a", "-r", "null"] =
      .ok { filename := some "a", renderer := some (.value .headless) } := by
    decide +kernel
  obtain ⟨outcome, launched, stopped, -⟩ := exit_of_launch accepted rfl
    (show around.folder.read "a" = .ok program from read_single program)
  have obstacle : obstacle? { filename := some "a", renderer := some (.value .headless) } program =
      some (.machine (.memory (.outOfRange 0x200 3585))) := by
    decide +kernel
  refine ⟨outcome, _, launched, stopped _ obstacle, ?_⟩
  decide +kernel

/-- A clock speed of four hundred digits is accepted, and ends the launch without a text. -/
theorem exit_of_launch_too_fast :
    let arguments := ["a", "-r", "null", "-c", String.ofList ('1' :: List.replicate 399 '0')]
    let around : Surroundings := {
      folder := ⟨[("a", [0x12, 0x00])]⟩
      random := .cycling []
      clock := .steady 0 2000 500 }
    ∃ outcome fault, launch arguments around = .played outcome ∧
      outcome.ending = .failed fault ∧ fault.exitText = none := by
  have digits : (String.ofList ('1' :: List.replicate 399 '0')).toList =
      '1' :: List.replicate 399 '0' := String.toList_ofList
  generalize String.ofList ('1' :: List.replicate 399 '0') = text at digits ⊢
  intro arguments around
  obtain ⟨speed, positive, beyond, whole⟩ : ∃ speed : Int, 0 < speed ∧ Time.overflow ≤ speed ∧
      Text.readInt? text = some speed := by
    refine ⟨(Nat.pow 10 399 : Nat), by decide +kernel, by decide +kernel, ?_⟩
    unfold Text.readInt?
    rw [digits]
    decide +kernel
  let options : Options := {
    filename := some "a"
    renderer := some (.value .headless)
    clockSpeed := .value speed }
  have accepted : CommandLine.read arguments = .ok options :=
    CommandLine.read_of_clockSpeed (by rw [digits]; exact nofun)
      (ClockSpeed.read_of_positive whole positive)
  have obstacle : obstacle? options [0x12, 0x00] = some (.build (.host .beyondDoubles)) := by
    obtain ⟨keymap, read⟩ := exists_read_standard
    exact obstacle?_of_overflow rfl (by decide) read beyond
  have ends : Ends around.clock (run (settingsOf options) around) _ :=
    ends_run rfl (read_single [0x12, 0x00])
  rw [obstacle] at ends
  cases ends with
  | stopped ending =>
      exact ⟨run (settingsOf options) around, _, by rw [launch, accepted], ending, rfl⟩

end Chip8.Session
