import Chip8.Display.Canvas
import Chip8.Proofs.Driving
import Chip8.Proofs.Execution

/-!
The picture on the display of a host.

* `Repainted` — an operation of the machine leaves the picture alone or marks it as newer than what
  was shown.
* `follows_after` — every event keeps the display in step with the screen, up to that mark.
* `frame_of_build` — the display never holds an old picture that passes for the current one.
-/

namespace Chip8

/-! ### Canvas and screen -/

/-- The canvas has the size of the screen, and holds its picture unless that is marked as newer. -/
structure Canvas.Follows {width height : Int} (canvas : Canvas) (screen : Screen width height) :
    Prop where
  width : canvas.width = width
  height : canvas.height = height
  frame : screen.mark.stale = false → canvas.frame = some screen.dump

/-- The canvas holds the picture of the screen, and that is marked as shown. -/
structure Canvas.Shows {width height : Int} (canvas : Canvas) (screen : Screen width height) :
    Prop where
  frame : canvas.frame = some screen.dump
  shown : screen.mark.stale = false

/-! ### Machine -/

namespace Machine

/-- From one machine to the next, the picture and its mark stayed or the picture was marked as newer
than what was shown. -/
def Repainted (before next : Machine) : Prop :=
  next.screen = before.screen ∨ next.screen.mark.stale = true

theorem repainted_execute {machine next : Machine} {instruction : Instruction}
    (succeeded : machine.execute instruction = (next, none)) : Repainted machine next := by
  rcases frame_execute succeeded with ⟨cpu, random, rfl⟩ | ⟨memory, rfl⟩ | ⟨cpu, cells, rfl⟩
  · exact .inl rfl
  · exact .inl rfl
  · exact .inr rfl

/-- A cycle repaints in its instruction, if at all. -/
theorem repainted_cycle (machine : Machine) : Repainted machine machine.cycle.1 := by
  have outcome := machine.outcome_cycle
  generalize machine.cycle = ended at outcome ⊢
  cases outcome with
  | paused _ | unfetched _ _ | undecoded _ _ _ | refused _ _ _ _ => exact .inl rfl
  | executed _ _ _ succeeded =>
      have repainted : machine.fetched.Repainted _ := repainted_execute succeeded
      exact repainted

theorem repainted_tick (machine : Machine) : Repainted machine machine.tick := by
  unfold tick
  split <;> exact .inl rfl

theorem repainted_apply (machine : Machine) (operation : Operation) :
    Repainted machine (machine.apply operation).1 := by
  rcases machine.frame_apply operation with rfl | rfl | rfl | ⟨_, _, _, framed⟩
  · exact machine.repainted_cycle
  · exact machine.repainted_tick
  · exact .inr rfl
  · rw [framed]
    exact .inl rfl

end Machine

theorem Canvas.Follows.repaint {canvas : Canvas} {machine next : Machine}
    (follows : canvas.Follows machine.screen) (repainted : machine.Repainted next) :
    canvas.Follows next.screen := by
  cases repainted with
  | inl same => rw [same]; exact follows
  | inr stale => exact { follows with frame := fun fresh => by rw [stale] at fresh; cases fresh }

/-! ### Host -/

namespace Host

variable {σ : Type}

/-- The canvas of the host follows the screen of its machine. -/
def Follows (host : Host Canvas σ) : Prop := host.display.Follows host.machine.screen

/-- The canvas of the host shows the screen of its machine. -/
def Shows (host : Host Canvas σ) : Prop := host.display.Shows host.machine.screen

/-- Hands the picture over to a display that takes it. -/
def withFrame (host : Host Canvas σ) : Host Canvas σ :=
  { host with
    display := { host.display with frame := some host.machine.screen.dump }
    machine := { host.machine with screen := host.machine.screen.setMark .shown } }

/-- A canvas takes any picture of its size, so no refresh fails. -/
theorem refresh_eq {host : Host Canvas σ} (wide : host.display.width = Machine.screenWidth)
    (high : host.display.height = Machine.screenHeight) (force : Bool) :
    host.refresh force =
      (if force || host.machine.screen.mark.stale then host.withFrame else host, none) := by
  have fits : (host.machine.screen.dump.length : Int) =
      host.display.width * host.display.height := by
    rw [wide, high, Screen.length_dump]
    rfl
  unfold refresh
  by_cases due : (force || host.machine.screen.mark.stale) = true
  · rw [if_pos due, if_pos due]
    simp only [Display.drawFrame, Canvas.drawFrame, if_pos fits]
    rfl
  · rw [if_neg due, if_neg due]

/-- After a refresh, the canvas shows what is on the screen. -/
theorem shows_refresh {host : Host Canvas σ} (follows : host.Follows) (force : Bool) :
    (host.refresh force).2 = none ∧ (host.refresh force).1.Follows ∧
      (host.refresh force).1.Shows := by
  rw [refresh_eq follows.width follows.height]
  refine ⟨rfl, ?_⟩
  by_cases due : (force || host.machine.screen.mark.stale) = true
  · simp only [if_pos due]
    exact ⟨⟨follows.width, follows.height, fun _ => rfl⟩, ⟨rfl, rfl⟩⟩
  · have fresh : host.machine.screen.mark.stale = false := by
      cases stale : host.machine.screen.mark.stale with
      | false => rfl
      | true => rw [stale, Bool.or_true] at due; exact absurd rfl due
    simp only [if_neg due]
    exact ⟨follows, follows.frame fresh, fresh⟩

/-- A host is built with its picture on the canvas, whatever was on it before. -/
theorem build_eq (machine : Machine) (keys : σ) (canvas : Canvas) (clockSpeed : ClockSpeed) :
    build machine keys canvas clockSpeed = (intervalOf clockSpeed).map fun interval =>
      withFrame {
        machine, keys, interval
        display := canvas.setResolution Machine.screenWidth Machine.screenHeight } := by
  unfold build
  cases intervalOf clockSpeed with
  | error fault => rfl
  | ok interval =>
      have sized : Display.setResolution canvas Machine.screenWidth Machine.screenHeight =
          (canvas.setResolution Machine.screenWidth Machine.screenHeight, none) := rfl
      dsimp only [bind, Except.bind]
      rw [sized]
      dsimp only
      rw [refresh_eq rfl rfl]
      rfl

/-- A host with the picture of its machine on a standard canvas. -/
def headless (machine : Machine) (keys : σ) (interval : Float) : Host Canvas σ :=
  withFrame {
    machine, keys, interval
    display := Canvas.standard.setResolution Machine.screenWidth Machine.screenHeight }

theorem build_headless (machine : Machine) (keys : σ) {clockSpeed : ClockSpeed} {interval : Float}
    (speed : intervalOf clockSpeed = .ok interval) :
    build machine keys .standard clockSpeed = .ok (headless machine keys interval) := by
  rw [build_eq, speed]
  rfl

/-- A host is built on the canvas as it is, paced by the clock speed. -/
theorem eq_of_build {machine : Machine} {keys : σ} {canvas : Canvas} {clockSpeed : ClockSpeed}
    {host : Host Canvas σ} (built : build machine keys canvas clockSpeed = .ok host) :
    intervalOf clockSpeed = .ok host.interval ∧
      host = withFrame {
        machine, keys, interval := host.interval
        display := canvas.setResolution Machine.screenWidth Machine.screenHeight } := by
  rw [build_eq] at built
  cases speed : intervalOf clockSpeed with
  | error fault => rw [speed] at built; cases built
  | ok interval => rw [speed] at built; cases built; exact ⟨rfl, rfl⟩

theorem follows_of_build {machine : Machine} {keys : σ} {canvas : Canvas} {clockSpeed : ClockSpeed}
    {host : Host Canvas σ} (built : build machine keys canvas clockSpeed = .ok host) :
    host.Follows := by
  rw [(eq_of_build built).2]
  exact ⟨rfl, rfl, fun _ => rfl⟩

/-- A host is built with everything due and nothing counted. -/
theorem fresh_of_build {machine : Machine} {keys : σ} {canvas : Canvas} {clockSpeed : ClockSpeed}
    {host : Host Canvas σ} (built : build machine keys canvas clockSpeed = .ok host) :
    host.deadlines = {} ∧ host.updates = 0 ∧ host.cycles = 0 := by
  rw [(eq_of_build built).2]
  exact ⟨rfl, rfl, rfl⟩

/-! ### Histories -/

theorem follows_reportStage {host : Host Canvas σ} (follows : host.Follows) (time : Float) :
    (host.reportStage time).1.Follows := by
  unfold reportStage
  split
  · split
    · exact follows
    · exact { follows with }
  · exact follows

theorem follows_tickStage {host : Host Canvas σ} (follows : host.Follows) (time : Float) :
    (host.tickStage time).Follows := by
  unfold tickStage
  split
  · exact follows.repaint host.machine.repainted_tick
  · exact follows

variable [KeySource σ]

/-- An update that is due asks to quit, or ends with the picture on the canvas. -/
theorem shows_updateStage {host : Host Canvas σ} (follows : host.Follows) {time : Float}
    (due : host.deadlines.update ≤ time) :
    (host.updateStage time).1.Follows ∧
      ((host.updateStage time).2 = .quit ∨
        (host.updateStage time).2 = .done ∧ (host.updateStage time).1.Shows) := by
  unfold updateStage
  rw [if_pos due]
  obtain ⟨asked, keys⟩ := KeySource.poll host.keys
  cases asked with
  | true => exact ⟨follows, .inl rfl⟩
  | false =>
      dsimp only
      have polled : Follows { host with
          keys, deadlines := { host.deadlines with update := time + Time.refreshInterval } } :=
        follows
      have refreshed := shows_refresh polled false
      generalize refresh (δ := Canvas) (σ := σ) _ false = ended at refreshed ⊢
      obtain ⟨next, fault⟩ := ended
      obtain ⟨rfl, follows, shows⟩ := refreshed
      exact ⟨follows, .inr ⟨rfl, shows⟩⟩

theorem follows_updateStage {host : Host Canvas σ} (follows : host.Follows) (time : Float) :
    (host.updateStage time).1.Follows := by
  by_cases due : host.deadlines.update ≤ time
  · exact (shows_updateStage follows due).1
  · unfold updateStage
    rw [if_neg due]
    exact follows

/-- A cycle may draw and may fail, and the display hears of neither. -/
theorem follows_cycleStage {host : Host Canvas σ} (follows : host.Follows) (time : Float) :
    (host.cycleStage time).1.Follows := by
  unfold cycleStage
  split
  · have started : host.display.Follows
        { host.machine with keypad := ⟨KeySource.states host.keys⟩ : Machine }.screen := follows
    have cycled := started.repaint (Machine.repainted_cycle _)
    dsimp only
    rw [host.machine.setKeys_toList]
    dsimp only
    generalize Machine.cycle _ = ended at cycled ⊢
    obtain ⟨machine, failure, trace⟩ := ended
    cases failure with
    | none => exact cycled
    | some failure => exact cycled
  · exact follows

theorem follows_step {host : Host Canvas σ} (follows : host.Follows) (time : Float) :
    (host.step time).1.Follows :=
  step_induction (motive := Follows)
    (fun _ follows => follows_reportStage follows time)
    (fun _ follows => follows_updateStage follows time)
    (fun _ follows => follows_tickStage follows time)
    (fun _ follows => follows_cycleStage follows time) follows

theorem follows_after {host : Host Canvas σ} (follows : host.Follows) (event : Event σ) :
    (host.after event).Follows := by
  cases event with
  | step time => exact follows_step follows time
  | refresh force => exact (shows_refresh follows force).2.1
  | operation operation => exact follows.repaint (host.machine.repainted_apply operation)
  | keys change => exact follows

theorem follows_afterAll {host : Host Canvas σ} (follows : host.Follows)
    (events : List (Event σ)) : (host.afterAll events).Follows :=
  afterAll_induction (motive := Follows) (fun _ event follows => follows_after follows event)
    follows events

/-- A host never holds an old picture and takes it for the current one.

However it was built, and whatever happens to it: a picture that is not marked as newer is the one
on the canvas. Every refresh, every update in a step that does not ask to quit and every run that
was asked to quit therefore end with the canvas showing the screen. -/
theorem frame_of_build {machine : Machine} {keys : σ} {canvas : Canvas} {clockSpeed : ClockSpeed}
    {host : Host Canvas σ} (built : build machine keys canvas clockSpeed = .ok host)
    (events : List (Event σ)) :
    let now := host.afterAll events
    (now.machine.screen.mark.stale = false →
      now.display.frame = some now.machine.screen.dump) ∧
    (∀ force, (now.refresh force).2 = none ∧ (now.refresh force).1.Shows) ∧
    (∀ time, (now.reportStage time).2 = none →
      let reported := (now.reportStage time).1
      reported.deadlines.update ≤ time →
        (reported.updateStage time).2 = .quit ∨
          (reported.updateStage time).2 = .done ∧ (reported.updateStage time).1.Shows) ∧
    (∀ clock arrive, (now.run clock arrive).ending = .quit →
      (now.run clock arrive).host.Shows) := by
  intro now
  have follows : now.Follows := follows_afterAll (follows_of_build built) events
  refine ⟨follows.frame, fun force => ?_, fun time _ due => ?_, fun clock arrive quit => ?_⟩
  · have refreshed := shows_refresh follows force
    exact ⟨refreshed.1, refreshed.2.2⟩
  · exact (shows_updateStage (follows_reportStage follows time) due).2
  · obtain ⟨last, follows, shown⟩ := refresh_of_quit (motive := Follows)
      (fun _ _ follows => follows) (fun _ time follows => follows_step follows time) follows quit
    have shows := (shows_refresh follows false).2.2
    rw [shown] at shows
    exact shows

/-- What a cycle past the host has drawn is on the canvas after the next refresh:
`DRW V0, V1, 0x5`. -/
theorem frame_of_build_after_drawing :
    ∃ host : Host Canvas HandKeys,
      build (.fresh (.cycling []) false) {} .standard (.whole defaultClockSpeed) = .ok host ∧
      let drawn := host.afterAll [.operation (.loadProgram [0xD0, 0x15]), .operation .cycle]
      drawn.machine.screen.mark.stale = true ∧ (drawn.refresh false).1.Shows := by
  obtain ⟨interval, known⟩ : ∃ interval, intervalOf (.whole defaultClockSpeed) = .ok interval :=
    ⟨_, rfl⟩
  refine ⟨_, by rw [build_eq, known]; rfl, ?_, ?_⟩
  · simp only [afterAll, List.foldl, after, withFrame]
    decide +kernel
  · exact ((frame_of_build (by rw [build_eq, known]; rfl) _).2.1 false).2

end Host

end Chip8
