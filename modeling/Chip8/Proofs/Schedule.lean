import Chip8.Proofs.Activities

/-!
When a host does what, told by its log alone.

* `dueTime` — an activity falls due at time zero, and then its interval after it was last done.
* `OnSchedule` — the deadlines of a host are the due times of its log. A step keeps it, and so does
  anything else.
* `activities_of_build` — the display, the timers and the cycles of a host are on schedule, whatever
  happens to it.
-/

namespace Chip8

namespace Host

variable {σ : Type} [KeySource σ]

/-! ### Due times -/

/-- When an activity was last done. -/
def lastTime (activity : Activity) (log : List Pass) : Option Float :=
  ((log.filter fun pass => decide (activity ∈ pass.activities)).getLast?).map Pass.time

/-- When an activity falls due that was last done at a time, or never. -/
def dueTime (interval : Float) : Option Float → Float
  | none => 0.0
  | some last => last + interval

theorem lastTime_concat (activity : Activity) (log : List Pass) (pass : Pass) :
    lastTime activity (log ++ [pass]) =
      if activity ∈ pass.activities then some pass.time else lastTime activity log := by
  unfold lastTime
  by_cases done : activity ∈ pass.activities
  · rw [if_pos done, List.filter_append, List.filter_cons_of_pos (by simpa using done),
      List.filter_nil, List.getLast?_concat, Option.map_some]
  · rw [if_neg done, List.filter_append, List.filter_cons_of_neg (by simpa using done),
      List.filter_nil, List.append_nil]

/-- What a pass does falls due again from its time on, and nothing else moves. -/
theorem dueTime_lastTime_concat (interval : Float) (activity : Activity) (log : List Pass)
    (pass : Pass) :
    dueTime interval (lastTime activity (log ++ [pass])) =
      if activity ∈ pass.activities then pass.time + interval
      else dueTime interval (lastTime activity log) := by
  rw [lastTime_concat]
  split <;> rfl

/-! ### Schedule -/

/-- The host has the interval, and its deadlines are the due times of a log. -/
structure OnSchedule (host : Host Canvas σ) (interval : Float) (log : List Pass) : Prop where
  follows : host.Follows
  paced : host.interval = interval
  update : host.deadlines.update = dueTime Time.refreshInterval (lastTime .update log)
  tick : host.deadlines.tick = dueTime Time.tickInterval (lastTime .tick log)
  cycle : host.deadlines.cycle = dueTime interval (lastTime .cycle log)

namespace OnSchedule

variable {host : Host Canvas σ} {interval : Float} {past : List Pass}

/-- What a step does falls due again an interval behind the step. -/
theorem step (onSchedule : OnSchedule host interval past) (time : Float) :
    OnSchedule (host.step time).1 interval (past ++ [⟨time, host.activities time⟩]) := by
  obtain ⟨kept, moved⟩ := deadlines_step onSchedule.follows time
  exact {
    follows := follows_step onSchedule.follows time
    paced := kept.trans onSchedule.paced
    update := by rw [moved, dueTime_lastTime_concat, ← onSchedule.update]
    tick := by rw [moved, dueTime_lastTime_concat, ← onSchedule.tick]
    cycle := by rw [moved, dueTime_lastTime_concat, ← onSchedule.cycle, onSchedule.paced] }

theorem after (onSchedule : OnSchedule host interval past) (event : Event σ) :
    OnSchedule (host.after event) interval (past ++ host.passes event) := by
  have follows := follows_after onSchedule.follows event
  cases known : event.time? with
  | none =>
      obtain ⟨unmoved, kept, silent⟩ := host.deadlines_after known
      rw [silent, List.append_nil]
      exact {
        follows
        paced := kept.trans onSchedule.paced
        update := by rw [unmoved, onSchedule.update]
        tick := by rw [unmoved, onSchedule.tick]
        cycle := by rw [unmoved, onSchedule.cycle] }
  | some time =>
      cases event with
      | step => exact onSchedule.step _
      | refresh | operation | keys => cases known

theorem afterAll (onSchedule : OnSchedule host interval past) (events : List (Event σ)) :
    OnSchedule (host.afterAll events) interval (past ++ host.log events) := by
  induction events generalizing host past with
  | nil => rwa [log, List.append_nil]
  | cons event rest ih =>
      rw [log, ← List.append_assoc]
      exact ih (onSchedule.after event)

end OnSchedule

omit [KeySource σ] in
/-- A fresh host has done nothing, and everything falls due at time zero. -/
theorem onSchedule_of_build {machine : Machine} {keys : σ} {canvas : Canvas}
    {clockSpeed : ClockSpeed} {host : Host Canvas σ}
    (built : build machine keys canvas clockSpeed = .ok host) :
    OnSchedule host host.interval [] := by
  have fresh := (fresh_of_build built).1
  exact {
    follows := follows_of_build built
    paced := rfl
    update := by rw [fresh]; rfl
    tick := by rw [fresh]; rfl
    cycle := by rw [fresh]; rfl }

/-- A host does each thing at once and then no sooner than an interval after it was last done.

However it was built, and whatever has happened to it: a step does nothing twice, and everything in
one order. Unless it quits or fails to report the rates, it updates the display, ticks the timers
and runs a cycle just when each of them is due by the log. A cycle that fails counts like any
other. -/
theorem activities_of_build {machine : Machine} {keys : σ} {canvas : Canvas}
    {clockSpeed : ClockSpeed} {start : Host Canvas σ}
    (built : build machine keys canvas clockSpeed = .ok start) (events : List (Event σ))
    (time : Float) :
    let host := start.afterAll events
    let log := start.log events
    let done := host.activities time
    intervalOf clockSpeed = .ok start.interval ∧
    host.step time = host.performAll time done ∧
    done.Sublist [.refuse, .report, .quit, .update, .tick, .cycle] ∧
    ((host.reportStage time).2 = none → (host.step time).2.quit = false →
      (.update ∈ done ↔ dueTime (1.0 / 60.0) (lastTime .update log) ≤ time) ∧
      (.tick ∈ done ↔ dueTime (1.0 / 60.0) (lastTime .tick log) ≤ time) ∧
      (.cycle ∈ done ↔ dueTime start.interval (lastTime .cycle log) ≤ time)) := by
  intro host log done
  have now : OnSchedule host start.interval log := (onSchedule_of_build built).afterAll events
  refine ⟨(eq_of_build built).1, step_eq_performAll now.follows time,
    host.activities_sublist time, ?_⟩
  intro reports proceeds
  have stays : .quit ∉ done := fun quits => by
    rw [(quit_step now.follows time).mpr quits] at proceeds
    cases proceeds
  have due := activities_eq reports stays
  have updates : dueTime (1.0 / 60.0) (lastTime .update log) = host.deadlines.update :=
    now.update.symm
  have ticks : dueTime (1.0 / 60.0) (lastTime .tick log) = host.deadlines.tick := now.tick.symm
  rw [updates, ticks, ← now.cycle]
  refine ⟨?_, ?_, ?_⟩ <;> simp [done, due, mem_whenDue]

/-- Two milliseconds after its first step, a host at the default speed runs a cycle and does neither
of the slower things. -/
theorem activities_of_build_two_milliseconds_later :
    let start : Host Canvas HandKeys := headless (.fresh (.cycling []) false) {} (1.0 / 500.0)
    let done := (start.afterAll [.step 0.0]).activities 0.002
    build (.fresh (.cycling []) false) {} .standard (.whole defaultClockSpeed) = .ok start ∧
      .cycle ∈ done ∧ .tick ∉ done ∧ .update ∉ done := by
  intro start done
  have built := build_headless (.fresh (.cycling []) false) ({} : HandKeys)
    (show intervalOf (.whole defaultClockSpeed) = .ok (1.0 / 500.0) from rfl)
  have stays : (KeySource.poll (start.afterAll [.step 0.0]).keys).1 = false := by decide +kernel
  have first : start.log [.step 0.0] = [⟨0.0, [.report, .update, .tick, .cycle]⟩] := by
    have everything : start.activities 0.0 = [.report, .update, .tick, .cycle] := by
      decide +kernel
    rw [log, log, passes, everything, List.append_nil]
  have follows := ((onSchedule_of_build built).afterAll [.step 0.0]).follows
  obtain ⟨-, -, -, due⟩ := activities_of_build built [.step 0.0] 0.002
  rw [first] at due
  refine ⟨built, ?_⟩
  simp only [done]
  generalize start.afterAll [.step 0.0] = host at stays follows due ⊢
  have reports : (host.reportStage 0.002).2 = none := by
    have finite : ¬(0.002 : Float).isInf = true := by decide
    rw [reportStage_eq, if_neg finite]
    split <;> rfl
  obtain ⟨update, tick, cycle⟩ := due reports (quit_step_of_poll follows 0.002 stays)
  exact ⟨cycle.mpr (by decide +kernel), mt tick.mp (by decide +kernel),
    mt update.mp (by decide +kernel)⟩

end Host

end Chip8
