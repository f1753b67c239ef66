import Chip8.Proofs.Activities

/-!
The keys that a cycle of a host starts with, and what a step that quits leaves alone.

* `keys_step` — a step polls the keys at most once, and changes them in no other way.
* `eq_append_of_cycle` — a cycle is the last thing that a step does, and there is only one.
* `keypad_of_cycle` — a cycle finds the keypad as the keys are, whatever it held before.
* `activities_of_quit` — a step that quits does nothing but report the rates before.
* `handover_of_build` — all of this in every step of a history.
-/

namespace Chip8

namespace Host

variable {δ σ : Type} [Display δ] [KeySource σ]

/-! ### Keys -/

/-- The keys after one activity. -/
def moveKeys (keys : σ) : Activity → σ
  | .quit | .update => (KeySource.poll keys).2
  | .refuse | .report | .tick | .cycle => keys

theorem keys_perform (host : Host δ σ) (time : Float) (activity : Activity) :
    (host.perform time activity).1.keys = moveKeys host.keys activity := by
  cases activity with
  | refuse | quit | tick => rfl
  | report =>
      rw [perform_report]
      rfl
  | update =>
      rw [perform_update, refresh_frame]
      rfl
  | cycle =>
      rw [perform_cycle]
      rfl

theorem keys_performAll (host : Host δ σ) (time : Float) (activities : List Activity) :
    (host.performAll time activities).1.keys = activities.foldl moveKeys host.keys := by
  induction activities generalizing host with
  | nil => rfl
  | cons activity rest ih => rw [performAll_cons, ih, keys_perform, List.foldl_cons]

variable {host : Host Canvas σ}

/-- A step polls the keys once if it polls them, and nothing else in it changes them. -/
theorem keys_step (follows : host.Follows) (time : Float) :
    (host.step time).1.keys =
      if .update ∈ host.activities time ∨ .quit ∈ host.activities time then
        (KeySource.poll host.keys).2
      else host.keys := by
  rw [step_eq_performAll follows, keys_performAll]
  unfold activities agenda pending whenDue
  split_ifs <;> simp_all [moveKeys]

/-! ### Cycles -/

/-- A cycle is the last thing that a step does, and there is only one. -/
theorem eq_append_of_cycle {time : Float} (cycles : .cycle ∈ host.activities time) :
    ∃ before, host.activities time = before ++ [.cycle] ∧ .cycle ∉ before := by
  have ordered : (host.activities time).Sublist
      ([.refuse, .report, .quit, .update, .tick] ++ [.cycle]) := host.activities_sublist time
  obtain ⟨before, last, split, early, late⟩ := List.sublist_append_iff.mp ordered
  have absent : Activity.cycle ∉ before := fun member => by
    have among := early.subset member
    revert among
    decide
  rw [split, List.mem_append, or_iff_right absent] at cycles
  rw [split, late.eq_of_length_le (List.length_pos_of_mem cycles)]
  exact ⟨before, rfl, absent⟩

/-- A cycle finds the keypad as the keys are, whatever it held before. -/
theorem keypad_of_cycle (host : Host Canvas σ) (time : Float) :
    ∃ ready, host.machine.setKeys (KeySource.states host.keys).toList = (ready, none) ∧
      ready.keypad.keys = KeySource.states host.keys ∧
      (host.perform time .cycle).1.machine = ready.cycle.1 ∧
      (host.perform time .cycle).2.trace = ready.cycle.2.trace ∧
      (host.perform time .cycle).2.fault = ready.cycle.2.failure.map .machine := by
  rw [perform_cycle]
  exact ⟨_, host.machine.setKeys_toList _, rfl, rfl, rfl, rfl⟩

/-! ### Quitting -/

/-- A step that quits does nothing but report the rates before. -/
theorem activities_of_quit {time : Float} (quits : .quit ∈ host.activities time) :
    host.activities time = whenDue host.deadlines.report time .report ++ [.quit] := by
  unfold activities agenda at quits ⊢
  split at quits
  next => cases quits with | tail _ later => cases later
  next proceeds =>
    have asked : .quit ∈ pending host.deadlines (KeySource.poll host.keys).1 time := by
      rcases List.mem_append.mp quits with reported | asked
      · cases (mem_whenDue.mp reported).1
      · exact asked
    rw [if_neg proceeds, pending, if_pos (quit_mem_pending.mp asked)]

/-- A step that quits has polled the keys, and perhaps told the rates. -/
theorem step_of_quit (follows : host.Follows) {time : Float}
    (quits : (host.step time).2.quit = true) :
    (host.step time).1.machine = host.machine ∧
      (host.step time).1.display =
        { host.display with title := (host.step time).1.display.title } ∧
      (host.step time).1.deadlines =
        { host.deadlines with report := (host.step time).1.deadlines.report } := by
  have done := activities_of_quit ((quit_step follows time).mp quits)
  rw [step_eq_performAll follows, done, performAll_concat, performAll_whenDue]
  split <;> exact ⟨rfl, rfl, rfl⟩

/-! ### Histories -/

/-- A cycle of a host starts with the keys as they are, and a step that quits leaves all else alone.

However the host was built, and whatever has happened to it: a step polls the keys at most once, and
its cycle comes last. What the machine has on its keypad before, the keys are written over it, and
that never fails; the cycle and what the step answers then are those of the machine. A step that
quits has changed neither the machine nor the picture nor any deadline but that of the report. -/
theorem handover_of_build {machine : Machine} {keys : σ} {canvas : Canvas}
    {clockSpeed : ClockSpeed} {start : Host Canvas σ}
    (built : build machine keys canvas clockSpeed = .ok start) (events : List (Event σ))
    (time : Float) :
    let host := start.afterAll events
    let done := host.activities time
    let ended := host.step time
    ended = host.performAll time done ∧
    ended.1.keys =
      (if .update ∈ done ∨ .quit ∈ done then (KeySource.poll host.keys).2 else host.keys) ∧
    (.cycle ∈ done → ∃ before ready, done = before ++ [.cycle] ∧ .cycle ∉ before ∧
      (host.performAll time before).1.machine.setKeys (KeySource.states ended.1.keys).toList =
        (ready, none) ∧
      ready.keypad.keys = KeySource.states ended.1.keys ∧
      ended.1.machine = ready.cycle.1 ∧ ended.2.trace = ready.cycle.2.trace ∧
      ended.2.fault = ready.cycle.2.failure.map .machine) ∧
    (ended.2.quit = true →
      ended.1.machine = host.machine ∧
      ended.1.display = { host.display with title := ended.1.display.title } ∧
      ended.1.deadlines = { host.deadlines with report := ended.1.deadlines.report }) := by
  intro host done ended
  have follows : host.Follows := follows_afterAll (follows_of_build built) events
  have performed : ended = host.performAll time done := step_eq_performAll follows time
  refine ⟨performed, keys_step follows time, fun cycles => ?_, step_of_quit follows⟩
  obtain ⟨before, split, first⟩ := eq_append_of_cycle cycles
  have last : ended = (host.performAll time before).1.perform time .cycle := by
    rw [performed, show done = before ++ [.cycle] from split, performAll_concat]
  have kept : ended.1.keys = (host.performAll time before).1.keys := by
    rw [last, keys_perform]
    rfl
  obtain ⟨ready, taken, written, cycled⟩ := (host.performAll time before).1.keypad_of_cycle time
  rw [← kept] at taken written
  rw [← last] at cycled
  exact ⟨before, ready, split, first, taken, written, cycled⟩

/-- Key 3 is down on the keypad and key 5 on the host. A machine that waits for a key is handed
key 5, unless the step quits: `LD V0, K`. -/
theorem handover_of_build_over_another_key :
    let keys (patience : Option Nat) : HandKeys :=
      { states := KeyStates.released.put 5 true, patience }
    let start (patience : Option Nat) : Host Canvas HandKeys :=
      headless (.fresh (.cycling []) false) (keys patience) (1.0 / 500.0)
    let events : List (Event HandKeys) :=
      [.operation (.loadProgram [0xF0, 0x0A]), .operation (.setKey 3 true)]
    let patient := (start none).afterAll events
    let impatient := (start (some 0)).afterAll events
    (∀ patience, build (.fresh (.cycling []) false) (keys patience) .standard
      (.whole defaultClockSpeed) = .ok (start patience)) ∧
    patient.machine.keypad.firstDown = some 3 ∧
    (∃ ready : Machine, ready.keypad.keys = (keys none).states ∧
      (patient.step 0.0).1.machine = ready.cycle.1) ∧
    (impatient.step 0.0).2.quit = true ∧ (impatient.step 0.0).1.machine = impatient.machine := by
  intro keys start events patient impatient
  have built (patience : Option Nat) : build (.fresh (.cycling []) false) (keys patience) .standard
      (.whole defaultClockSpeed) = .ok (start patience) :=
    build_headless _ _ (show intervalOf (.whole defaultClockSpeed) = .ok (1.0 / 500.0) from rfl)
  have facts : patient.machine.keypad.firstDown = some 3 ∧
      patient.activities 0.0 = [.report, .update, .tick, .cycle] ∧
      (impatient.step 0.0).2.quit = true := by
    decide +kernel
  obtain ⟨down, done, quits⟩ := facts
  refine ⟨built, down, ?_, quits, ?_⟩
  · obtain ⟨-, polled, cycles, -⟩ := handover_of_build (built none) events 0.0
    obtain ⟨-, ready, -, -, -, written, cycled, -⟩ := cycles (by rw [done]; decide)
    have unmoved : (KeySource.poll patient.keys).2 = keys none := rfl
    rw [polled, if_pos (.inl (by rw [done]; decide)), unmoved] at written
    exact ⟨ready, written, cycled⟩
  · obtain ⟨-, -, -, kept⟩ := handover_of_build (built (some 0)) events 0.0
    exact (kept quits).1

end Host

end Chip8
