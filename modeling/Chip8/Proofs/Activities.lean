import Chip8.Proofs.Picture
import Mathlib.Tactic.SplitIfs

/-!
What a step of the host does, as a list of activities.

A step looks at four deadlines in turn. What it does for one of them moves no other, so that the
list can be told beforehand, from the deadlines, the time and the answer that a poll would give.

* `activities` — the list of a step.
* `perform` — one activity, whether or not it is due.
* `step_eq_performAll` — a step does its list in order, and nothing else.
* `deadlines_step` — a step moves the deadlines of what it does.
* `log` — the lists of all the steps of a history.
-/

namespace Chip8

namespace Host

variable {δ σ : Type} [Display δ] [KeySource σ]

/-! ### Activities -/

inductive Activity where
  /-- The rates cannot be reported at an infinite time. -/
  | refuse
  /-- The rates are reported. -/
  | report
  /-- The keys are polled, and ask to quit. -/
  | quit
  /-- The keys are polled, and the display is updated. -/
  | update
  /-- The timers are ticked. -/
  | tick
  /-- A cycle is run, successful or not. -/
  | cycle
  deriving DecidableEq, Repr

/-- The activity, if it is due. -/
def whenDue (deadline time : Float) (activity : Activity) : List Activity :=
  if deadline ≤ time then [activity] else []

/-- What is due behind a report of the rates, if a poll would ask to quit, or would not. -/
def pending (deadlines : Deadlines) (quits : Bool) (time : Float) : List Activity :=
  if deadlines.update ≤ time ∧ quits = true then [.quit]
  else
    whenDue deadlines.update time .update ++
      (whenDue deadlines.tick time .tick ++ whenDue deadlines.cycle time .cycle)

/-- What is due, with the report of the rates. -/
def agenda (deadlines : Deadlines) (quits : Bool) (time : Float) : List Activity :=
  if deadlines.report ≤ time ∧ time.isInf = true then [.refuse]
  else whenDue deadlines.report time .report ++ pending deadlines quits time

/-- What a step at a time does, in order. -/
def activities (host : Host δ σ) (time : Float) : List Activity :=
  agenda host.deadlines (KeySource.poll host.keys).1 time

/-- A host that has polled its keys at a time and is about to refresh its display. -/
def polled (host : Host δ σ) (time : Float) : Host δ σ :=
  { host with
    keys := (KeySource.poll host.keys).2
    deadlines := { host.deadlines with update := time + Time.refreshInterval } }

/-- Does one thing at a time, whether or not it is due. -/
def perform (time : Float) (host : Host δ σ) : Activity → Host δ σ × Reply
  | .refuse => (host, { fault := some .beyondDoubles })
  | .report =>
      let report := Time.wholeSeconds time + 1.0
      let host := { host with deadlines := { host.deadlines with report } }
      match host.reportRates host.updates host.cycles with
      | (host, some fault) => (host, { fault := some fault })
      | (host, none) => ({ host with updates := 0, cycles := 0 }, {})
  | .quit => ({ host with keys := (KeySource.poll host.keys).2 }, { quit := true })
  | .update =>
      match (host.polled time).refresh false with
      | (host, some fault) => (host, { fault := some fault })
      | (host, none) => ({ host with updates := host.updates + 1 }, {})
  | .tick =>
      let tick := time + Time.tickInterval
      ({ host with deadlines := { host.deadlines with tick }, machine := host.machine.tick }, {})
  | .cycle =>
      let cycle := time + host.interval
      let started := { host.machine with keypad := ⟨KeySource.states host.keys⟩ }
      let (machine, reply) := started.cycle
      let host := { host with machine, deadlines := { host.deadlines with cycle } }
      match reply.failure with
      | some failure => (host, { fault := some (.machine failure), trace := reply.trace })
      | none => ({ host with cycles := host.cycles + 1 }, { trace := reply.trace })

/-- Does one thing after the other. The reply is that of the last. -/
def performAll (time : Float) (host : Host δ σ) (activities : List Activity) :
    Host δ σ × Reply :=
  activities.foldl (fun ended activity => perform time ended.1 activity) (host, {})

/-! ### Single activities -/

omit [KeySource σ] in
/-- A refresh concerns the display and the mark of the picture alone. -/
theorem refresh_frame (host : Host δ σ) (force : Bool) :
    (host.refresh force).1 = { host with
      machine := (host.refresh force).1.machine, display := (host.refresh force).1.display } := by
  unfold refresh
  split
  · split <;> rfl
  · rfl

/-- The counts start again if the display takes the title. -/
theorem perform_report (host : Host δ σ) (time : Float) :
    let shown := Display.setTitle host.display
      (rateTitle (toString host.updates) (toString host.cycles))
    host.perform time .report =
      ({ host with
          display := shown.1
          deadlines := { host.deadlines with report := Time.wholeSeconds time + 1.0 }
          updates := if shown.2 = none then 0 else host.updates
          cycles := if shown.2 = none then 0 else host.cycles },
        { fault := shown.2.map .display }) := by
  unfold perform reportRates showTitle
  dsimp only
  generalize Display.setTitle host.display _ = shown
  obtain ⟨display, fault⟩ := shown
  cases fault <;> rfl

/-- An update counts if the display takes the picture. -/
theorem perform_update (host : Host δ σ) (time : Float) :
    let shown := (host.polled time).refresh false
    host.perform time .update =
      ({ shown.1 with updates := host.updates + if shown.2 = none then 1 else 0 },
        { fault := shown.2 }) := by
  have counted : ((host.polled time).refresh false).1.updates = host.updates := by
    rw [refresh_frame]
    rfl
  unfold perform
  dsimp only
  rw [← counted]
  generalize (host.polled time).refresh false = shown
  obtain ⟨next, fault⟩ := shown
  cases fault <;> rfl

/-- A cycle counts if it does not fail. -/
theorem perform_cycle (host : Host δ σ) (time : Float) :
    let ended := { host.machine with keypad := ⟨KeySource.states host.keys⟩ : Machine }.cycle
    host.perform time .cycle =
      ({ host with
          machine := ended.1
          deadlines := { host.deadlines with cycle := time + host.interval }
          cycles := host.cycles + if ended.2.failure = none then 1 else 0 },
        { fault := ended.2.failure.map .machine, trace := ended.2.trace }) := by
  unfold perform
  dsimp only
  generalize Machine.cycle _ = ended
  obtain ⟨machine, failure, trace⟩ := ended
  cases failure <;> rfl

theorem performAll_cons (host : Host δ σ) (time : Float) (first : Activity)
    (rest : List Activity) :
    (host.performAll time (first :: rest)).1 =
      ((host.perform time first).1.performAll time rest).1 := by
  cases rest with
  | nil => rfl
  | cons second rest => rfl

/-- The last activity is done by the host that the others leave, and has the last word. -/
theorem performAll_concat (host : Host δ σ) (time : Float) (before : List Activity)
    (last : Activity) :
    host.performAll time (before ++ [last]) =
      (host.performAll time before).1.perform time last :=
  List.foldl_append

/-! ### Deadlines -/

/-- The deadlines after one activity at a time. -/
def moveDeadlines (interval time : Float) (deadlines : Deadlines) : Activity → Deadlines
  | .refuse | .quit => deadlines
  | .report => { deadlines with report := Time.wholeSeconds time + 1.0 }
  | .update => { deadlines with update := time + Time.refreshInterval }
  | .tick => { deadlines with tick := time + Time.tickInterval }
  | .cycle => { deadlines with cycle := time + interval }

theorem deadlines_perform (host : Host δ σ) (time : Float) (activity : Activity) :
    (host.perform time activity).1.deadlines =
        moveDeadlines host.interval time host.deadlines activity ∧
      (host.perform time activity).1.interval = host.interval := by
  cases activity with
  | refuse | quit | tick => exact ⟨rfl, rfl⟩
  | report =>
      rw [perform_report]
      exact ⟨rfl, rfl⟩
  | update =>
      rw [perform_update, refresh_frame]
      exact ⟨rfl, rfl⟩
  | cycle =>
      rw [perform_cycle]
      exact ⟨rfl, rfl⟩

theorem deadlines_performAll (host : Host δ σ) (time : Float) (activities : List Activity) :
    (host.performAll time activities).1.deadlines =
        activities.foldl (moveDeadlines host.interval time) host.deadlines ∧
      (host.performAll time activities).1.interval = host.interval := by
  induction activities generalizing host with
  | nil => exact ⟨rfl, rfl⟩
  | cons activity rest ih =>
      obtain ⟨moved, kept⟩ := host.deadlines_perform time activity
      have later := ih (host.perform time activity).1
      rw [moved, kept] at later
      rw [performAll_cons]
      exact later

/-- Each deadline has an activity that moves it, however often and among whatever others. -/
theorem foldl_moveDeadlines (interval time : Float) (activities : List Activity)
    (deadlines : Deadlines) :
    activities.foldl (moveDeadlines interval time) deadlines = {
      report := if .report ∈ activities then Time.wholeSeconds time + 1.0 else deadlines.report
      update := if .update ∈ activities then time + Time.refreshInterval else deadlines.update
      tick := if .tick ∈ activities then time + Time.tickInterval else deadlines.tick
      cycle := if .cycle ∈ activities then time + interval else deadlines.cycle } := by
  induction activities generalizing deadlines with
  | nil => rfl
  | cons activity rest ih =>
      rw [List.foldl_cons, ih]
      cases activity <;> simp [moveDeadlines]

/-! ### Stages -/

theorem tickStage_eq (host : Host δ σ) (time : Float) :
    host.tickStage time =
      if host.deadlines.tick ≤ time then (host.perform time .tick).1 else host :=
  rfl

theorem cycleStage_eq (host : Host δ σ) (time : Float) :
    host.cycleStage time =
      if host.deadlines.cycle ≤ time then host.perform time .cycle else (host, {}) := by
  unfold cycleStage perform
  dsimp only
  rewrite [host.machine.setKeys_toList]
  rfl

variable {host : Host Canvas σ}

/-- A canvas takes every title. -/
theorem reportStage_eq (host : Host Canvas σ) (time : Float) :
    host.reportStage time =
      if host.deadlines.report ≤ time then
        if time.isInf then (host, some .beyondDoubles) else ((host.perform time .report).1, none)
      else (host, none) :=
  rfl

/-- A canvas takes the picture of every update. -/
theorem refresh_polled (follows : host.Follows) (time : Float) :
    ((host.polled time).refresh false).2 = none :=
  (shows_refresh (show (host.polled time).Follows from follows) false).1

theorem silent_update (follows : host.Follows) (time : Float) :
    (host.perform time .update).2 = {} := by
  rw [perform_update, refresh_polled follows time]

theorem updateStage_eq (follows : host.Follows) (time : Float) :
    host.updateStage time =
      if host.deadlines.update ≤ time then
        if (KeySource.poll host.keys).1 = true then ((host.perform time .quit).1, .quit)
        else ((host.perform time .update).1, .done)
      else (host, .done) := by
  have taken := refresh_polled follows time
  unfold updateStage perform polled at *
  generalize KeySource.poll host.keys = polled at taken ⊢
  obtain ⟨asked, keys⟩ := polled
  cases asked with
  | true => rfl
  | false =>
      dsimp only at taken ⊢
      generalize refresh (δ := Canvas) (σ := σ) _ false = ended at taken ⊢
      obtain ⟨next, fault⟩ := ended
      obtain rfl : fault = none := taken
      rfl

/-! ### Steps -/

theorem mem_whenDue {deadline time : Float} {activity other : Activity} :
    other ∈ whenDue deadline time activity ↔ other = activity ∧ deadline ≤ time := by
  unfold whenDue
  split <;> simp [*]

theorem performAll_append {time : Float} {first second : List Activity}
    (silent : (host.performAll time first).2 = {}) :
    host.performAll time (first ++ second) =
      (host.performAll time first).1.performAll time second := by
  unfold performAll at silent ⊢
  rw [List.foldl_append]
  congr 1
  exact Prod.ext rfl silent

theorem performAll_whenDue (host : Host Canvas σ) (deadline time : Float) (activity : Activity) :
    host.performAll time (whenDue deadline time activity) =
      if deadline ≤ time then host.perform time activity else (host, {}) := by
  unfold whenDue
  split <;> rfl

/-- What is left of a step behind the display. -/
theorem cycleStage_tickStage (host : Host Canvas σ) (time : Float) :
    (host.tickStage time).cycleStage time =
      host.performAll time (whenDue host.deadlines.tick time .tick ++
        whenDue host.deadlines.cycle time .cycle) := by
  have ticked : host.performAll time (whenDue host.deadlines.tick time .tick) =
      (host.tickStage time, {}) := by
    rw [performAll_whenDue, tickStage_eq]
    split <;> rfl
  have kept : (host.tickStage time).deadlines.cycle = host.deadlines.cycle := by
    rw [tickStage_eq]
    split <;> rfl
  rw [performAll_append (congrArg Prod.snd ticked), ticked, performAll_whenDue, cycleStage_eq, kept]

/-- Once the rates are reported, a step does what is due behind that. -/
theorem step_of_reportStage {reported : Host Canvas σ} {time : Float}
    (reports : host.reportStage time = (reported, none)) (follows : reported.Follows) :
    host.step time = reported.performAll time
      (pending reported.deadlines (KeySource.poll reported.keys).1 time) := by
  have updates := reported.performAll_whenDue reported.deadlines.update time .update
  unfold step pending
  rw [reports]
  dsimp only
  rw [updateStage_eq follows]
  by_cases due : reported.deadlines.update ≤ time
  · by_cases asks : (KeySource.poll reported.keys).1 = true
    · rw [if_pos due, if_pos asks, if_pos ⟨due, asks⟩]
      rfl
    · have moved := (reported.deadlines_perform time .update).1
      rw [if_pos due] at updates
      rw [if_pos due, if_neg asks, if_neg (fun both => asks both.2),
        performAll_append (by rw [updates, silent_update follows]), updates]
      dsimp only
      rw [cycleStage_tickStage, moved]
      rfl
  · rw [if_neg due] at updates
    rw [if_neg due, if_neg (fun both => due both.1), performAll_append (by rw [updates]), updates]
    dsimp only
    rw [cycleStage_tickStage]

/-- A step does what is on its list, in order, and nothing else. -/
theorem step_eq_performAll (follows : host.Follows) (time : Float) :
    host.step time = host.performAll time (host.activities time) := by
  have reports := host.performAll_whenDue host.deadlines.report time .report
  unfold activities agenda
  by_cases due : host.deadlines.report ≤ time
  · by_cases infinite : time.isInf = true
    · rw [if_pos ⟨due, infinite⟩]
      unfold step
      rw [reportStage_eq, if_pos due, if_pos infinite]
      rfl
    · have reported : host.reportStage time = ((host.perform time .report).1, none) := by
        rw [reportStage_eq, if_pos due, if_neg infinite]
      rw [if_pos due] at reports
      rw [if_neg (fun both => infinite both.2), performAll_append (by rw [reports]; rfl), reports]
      exact step_of_reportStage reported { follows with }
  · have reported : host.reportStage time = (host, none) := by
      rw [reportStage_eq, if_neg due]
    rw [if_neg due] at reports
    rw [if_neg (fun both => due both.1), performAll_append (by rw [reports]), reports]
    exact step_of_reportStage reported follows

/-- A step moves the deadlines of what it does, counting from its time. -/
theorem deadlines_step (follows : host.Follows) (time : Float) :
    (host.step time).1.interval = host.interval ∧
    (host.step time).1.deadlines = {
      report :=
        if .report ∈ host.activities time then Time.wholeSeconds time + 1.0
        else host.deadlines.report
      update :=
        if .update ∈ host.activities time then time + Time.refreshInterval
        else host.deadlines.update
      tick :=
        if .tick ∈ host.activities time then time + Time.tickInterval else host.deadlines.tick
      cycle :=
        if .cycle ∈ host.activities time then time + host.interval else host.deadlines.cycle } := by
  obtain ⟨moved, kept⟩ := host.deadlines_performAll time (host.activities time)
  rw [step_eq_performAll follows]
  exact ⟨kept, moved.trans (foldl_moveDeadlines _ _ _ _)⟩

/-! ### Answers to quit -/

theorem quit_perform (host : Host δ σ) (time : Float) (activity : Activity) :
    (host.perform time activity).2.quit = decide (activity = .quit) := by
  cases activity with
  | refuse | quit | tick => rfl
  | report =>
      rw [perform_report]
      rfl
  | update =>
      rw [perform_update]
      rfl
  | cycle =>
      rw [perform_cycle]
      rfl

theorem quit_performAll (host : Host δ σ) (time : Float) (activities : List Activity) :
    (host.performAll time activities).2.quit = true ↔ activities.getLast? = some .quit := by
  rcases List.eq_nil_or_concat activities with rfl | ⟨before, last, rfl⟩
  · simp [performAll]
  · rw [List.concat_eq_append, performAll_concat, List.getLast?_concat, Option.some_inj,
      quit_perform, decide_eq_true_eq]

/-- An answer to quit is the last that is heard of in a step. -/
theorem quit_step (follows : host.Follows) (time : Float) :
    (host.step time).2.quit = true ↔ .quit ∈ host.activities time := by
  rw [step_eq_performAll follows, quit_performAll]
  unfold activities agenda pending whenDue
  split_ifs <;> decide

theorem quit_mem_pending {deadlines : Deadlines} {quits : Bool} {time : Float} :
    .quit ∈ pending deadlines quits time ↔ deadlines.update ≤ time ∧ quits = true := by
  unfold pending
  split
  · simp [*]
  · simp [*, mem_whenDue]

/-- A step quits only if the keys ask for it. -/
theorem quit_step_of_poll (follows : host.Follows) (time : Float)
    (stays : (KeySource.poll host.keys).1 = false) : (host.step time).2.quit = false := by
  rw [Bool.eq_false_iff, Ne, quit_step follows]
  unfold activities agenda
  rw [stays]
  split
  · decide
  · rw [List.mem_append, mem_whenDue, quit_mem_pending]
    simp

/-- A step does nothing twice, and everything in one order. -/
theorem activities_sublist (host : Host Canvas σ) (time : Float) :
    (host.activities time).Sublist [.refuse, .report, .quit, .update, .tick, .cycle] := by
  unfold activities agenda pending whenDue
  split_ifs <;> decide

/-- A step that neither quits nor fails to report the rates does everything that is due. -/
theorem activities_eq {time : Float} (reports : (host.reportStage time).2 = none)
    (stays : .quit ∉ host.activities time) :
    host.activities time =
      whenDue host.deadlines.report time .report ++
        (whenDue host.deadlines.update time .update ++
          (whenDue host.deadlines.tick time .tick ++
            whenDue host.deadlines.cycle time .cycle)) := by
  have finite : ¬(host.deadlines.report ≤ time ∧ time.isInf = true) := by
    rintro ⟨due, infinite⟩
    rw [reportStage_eq, if_pos due, if_pos infinite] at reports
    cases reports
  unfold activities agenda at stays ⊢
  rw [if_neg finite] at stays ⊢
  have unasked := mt quit_mem_pending.mpr (fun asked => stays (List.mem_append_right _ asked))
  rw [pending, if_neg unasked]

/-! ### Logs -/

/-- The time of a step, with what the step did. -/
structure Pass where
  time : Float
  activities : List Activity

/-- The time of an event that is a step. -/
def Event.time? : Event σ → Option Float
  | .step time => some time
  | _ => none

/-- What an event adds to a log. -/
def passes (host : Host δ σ) : Event σ → List Pass
  | .step time => [⟨time, host.activities time⟩]
  | _ => []

/-- The steps of a history. -/
def log (host : Host δ σ) : List (Event σ) → List Pass
  | [] => []
  | event :: rest => host.passes event ++ (host.after event).log rest

/-- Whatever happens between two steps, the deadlines do not hear of it. -/
theorem deadlines_after (host : Host δ σ) {event : Event σ} (quiet : event.time? = none) :
    (host.after event).deadlines = host.deadlines ∧
      (host.after event).interval = host.interval ∧ host.passes event = [] := by
  cases event with
  | step time => cases quiet
  | refresh force =>
      rw [after, refresh_frame]
      exact ⟨rfl, rfl, rfl⟩
  | operation | keys => exact ⟨rfl, rfl, rfl⟩

theorem log_append (host : Host δ σ) (first second : List (Event σ)) :
    host.log (first ++ second) = host.log first ++ (host.afterAll first).log second := by
  induction first generalizing host with
  | nil => rfl
  | cons event rest ih =>
      simp only [List.cons_append, log, ih, List.append_assoc]
      rfl

end Host

end Chip8
