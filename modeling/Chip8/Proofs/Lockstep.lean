import Chip8.Proofs.Activities

/-!
Two hosts that take steps at the same times and get the same answers to their polls.

* `Aligned` — two histories with the same steps, and anything else in between.
* `InStep` — two hosts with the same deadlines, up to those of the cycles.
* `lockstep_of_build` — such hosts do the same in every step, up to the cycles. What the machines do
  has no part in it.
-/

namespace Chip8

namespace Host

variable {σ ρ : Type}

/-! ### Histories with the same steps -/

/-- Two histories with steps at the same times. Whatever else happens, happens to one of them. -/
inductive Aligned : List (Event σ) → List (Event ρ) → Prop where
  | nil : Aligned [] []
  | step {first : List (Event σ)} {second : List (Event ρ)} (time : Float) :
      Aligned first second → Aligned (.step time :: first) (.step time :: second)
  | first {event : Event σ} {first : List (Event σ)} {second : List (Event ρ)} :
      event.time? = none → Aligned first second → Aligned (event :: first) second
  | second {event : Event ρ} {first : List (Event σ)} {second : List (Event ρ)} :
      event.time? = none → Aligned first second → Aligned first (event :: second)

theorem Event.eq_step_of_time? {event : Event σ} {time : Float} (known : event.time? = some time) :
    event = .step time := by
  cases event with
  | step => cases known; rfl
  | refresh | operation | keys => cases known

theorem aligned_of_times {first : List (Event σ)} {second : List (Event ρ)}
    (together : first.filterMap Event.time? = second.filterMap Event.time?) :
    Aligned first second := by
  induction first generalizing second with
  | nil =>
      induction second with
      | nil => exact .nil
      | cons other tail tailIH =>
          cases known : other.time? with
          | none =>
              rw [List.filterMap_cons_none known] at together
              exact .second known (tailIH together)
          | some time =>
              rw [List.filterMap_cons_some known] at together
              cases together
  | cons event rest ih =>
      cases known : event.time? with
      | none =>
          rw [List.filterMap_cons_none known] at together
          exact .first known (ih together)
      | some time =>
          rw [List.filterMap_cons_some known] at together
          obtain rfl := Event.eq_step_of_time? known
          -- The step of the other history is behind whatever else happens there.
          induction second with
          | nil => cases together
          | cons other tail tailIH =>
              cases met : other.time? with
              | none =>
                  rw [List.filterMap_cons_none met] at together
                  exact .second met (tailIH together)
              | some _ =>
                  rw [List.filterMap_cons_some met] at together
                  obtain ⟨rfl, later⟩ := List.cons.inj together
                  obtain rfl := Event.eq_step_of_time? met
                  exact .step _ (ih later)

/-! ### Answers -/

/-- What a poll has answered, if this took one. -/
def Activity.answer? : Activity → Option Bool
  | .quit => some true
  | .update => some false
  | _ => none

/-- The answers to the polls of some activities. -/
def heard (activities : List Activity) : List Bool := activities.filterMap Activity.answer?

/-- The answers to all the polls of a log, in order. -/
def answers (log : List Pass) : List Bool := log.flatMap fun pass => heard pass.activities

/-- The answers are the same as far as both go. -/
def Agree (first second : List Bool) : Prop :=
  first.IsPrefix second ∨ second.IsPrefix first

theorem agree_cons {first second : List Bool} {one other : Bool} :
    Agree (one :: first) (other :: second) ↔ one = other ∧ Agree first second := by
  unfold Agree
  rw [List.cons_prefix_cons, List.cons_prefix_cons, eq_comm (a := other), ← and_or_left]

theorem heard_append (first second : List Activity) :
    heard (first ++ second) = heard first ++ heard second :=
  List.filterMap_append

theorem heard_whenDue (deadline time : Float) (activity : Activity) :
    heard (whenDue deadline time activity) =
      if deadline ≤ time then activity.answer?.toList else [] := by
  unfold whenDue
  split
  · cases activity <;> rfl
  · rfl

theorem answers_cons (pass : Pass) (rest : List Pass) :
    answers (pass :: rest) = heard pass.activities ++ answers rest :=
  List.flatMap_cons

theorem answers_append (first second : List Pass) :
    answers (first ++ second) = answers first ++ answers second :=
  List.flatMap_append

/-- The display is due, and nothing keeps a step from it. -/
def Polls (deadlines : Deadlines) (time : Float) : Prop :=
  ¬(deadlines.report ≤ time ∧ time.isInf = true) ∧ deadlines.update ≤ time

/-- A step that polls has its answer among its activities. -/
theorem heard_of_polls {deadlines : Deadlines} {time : Float} (polls : Polls deadlines time)
    (quits : Bool) : heard (agenda deadlines quits time) = [quits] := by
  obtain ⟨finite, due⟩ := polls
  unfold agenda pending
  rw [if_neg finite]
  cases quits with
  | true =>
      rw [if_pos ⟨due, rfl⟩]
      simp only [heard_append, heard_whenDue, Activity.answer?, Option.toList_none, ite_self]
      rfl
  | false =>
      rw [if_neg (fun both => Bool.false_ne_true both.2)]
      simp only [heard_append, heard_whenDue, Activity.answer?, Option.toList_none, ite_self,
        if_pos due]
      rfl

/-- A poll of keys that have no patience left asks to quit. -/
theorem heard_of_impatient {host : Host Canvas HandKeys} {time : Float}
    (finite : ¬time.isInf = true) (due : host.deadlines.update ≤ time)
    (impatient : host.keys.patience = some 0) : heard (host.activities time) = [true] := by
  have answer : (KeySource.poll host.keys).1 = true := by
    show (HandKeys.poll host.keys).1 = true
    rw [HandKeys.poll, impatient]
  rw [activities, answer]
  exact heard_of_polls ⟨fun both => finite both.2, due⟩ true

/-- A step that takes no poll does the same whatever the answer would be. -/
theorem agenda_of_not_polls {deadlines : Deadlines} {time : Float}
    (polls : ¬Polls deadlines time) (quits : Bool) :
    heard (agenda deadlines quits time) = [] ∧
      agenda deadlines quits time = agenda deadlines false time := by
  unfold agenda pending
  by_cases refuses : deadlines.report ≤ time ∧ time.isInf = true
  · rw [if_pos refuses, if_pos refuses]
    exact ⟨rfl, rfl⟩
  · have early : ¬deadlines.update ≤ time := fun due => polls ⟨refuses, due⟩
    rw [if_neg refuses, if_neg refuses, if_neg (fun both => early both.1),
      if_neg (fun both => early both.1)]
    refine ⟨?_, rfl⟩
    simp only [heard_append, heard_whenDue, Activity.answer?, Option.toList_none, ite_self,
      if_neg early, List.append_nil]

/-! ### Lockstep -/

/-- The same activities up to the cycles, and with them where the hosts have one pace. -/
structure Alike (paced : Prop) (first second : List Activity) : Prop where
  mem : ∀ activity, activity ≠ .cycle → (activity ∈ first ↔ activity ∈ second)
  paced : paced → first = second

/-- Where the cycles are due has a part in nothing but the cycles. -/
theorem alike_agenda {paced : Prop} {first second : Deadlines}
    (report : first.report = second.report) (update : first.update = second.update)
    (tick : first.tick = second.tick) (cycle : paced → first.cycle = second.cycle) (quits : Bool)
    (time : Float) : Alike paced (agenda first quits time) (agenda second quits time) where
  mem activity other := by
    unfold agenda pending
    rw [report, update, tick]
    split
    · exact Iff.rfl
    · split
      · exact Iff.rfl
      · simp only [List.mem_append, mem_whenDue, other, false_and]
  paced one := by
    unfold agenda pending
    rw [report, update, tick, cycle one]

/-- Two hosts on canvases with the same deadlines, up to those of the cycles, and with those and the
same interval where they have one pace. -/
structure InStep (paced : Prop) (first : Host Canvas σ) (second : Host Canvas ρ) : Prop where
  followsFirst : first.Follows
  followsSecond : second.Follows
  report : first.deadlines.report = second.deadlines.report
  update : first.deadlines.update = second.deadlines.update
  tick : first.deadlines.tick = second.deadlines.tick
  cycle : paced → first.deadlines.cycle = second.deadlines.cycle
  interval : paced → first.interval = second.interval

namespace InStep

variable [KeySource σ] [KeySource ρ]
variable {paced : Prop} {first : Host Canvas σ} {second : Host Canvas ρ}

/-- Hosts in step that get the same answer, if they poll, do alike. -/
theorem alike (inStep : InStep paced first second) {time : Float} {firstRest secondRest : List Bool}
    (agree : Agree (heard (first.activities time) ++ firstRest)
      (heard (second.activities time) ++ secondRest)) :
    Alike paced (first.activities time) (second.activities time) ∧
      Agree firstRest secondRest := by
  have alike := fun quits =>
    alike_agenda inStep.report inStep.update inStep.tick inStep.cycle quits time
  have same : Polls first.deadlines time ↔ Polls second.deadlines time := by
    unfold Polls
    rw [inStep.report, inStep.update]
  unfold activities at agree ⊢
  by_cases polls : Polls first.deadlines time
  · rw [heard_of_polls polls, heard_of_polls (same.mp polls)] at agree
    obtain ⟨answer, rest⟩ := agree_cons.mp agree
    rw [answer]
    exact ⟨alike _, rest⟩
  · obtain ⟨silent, firstDoes⟩ := agenda_of_not_polls polls (KeySource.poll first.keys).1
    obtain ⟨quiet, secondDoes⟩ :=
      agenda_of_not_polls (mt same.mpr polls) (KeySource.poll second.keys).1
    rw [silent, quiet] at agree
    rw [firstDoes, secondDoes]
    exact ⟨alike false, agree⟩

/-- Hosts that do alike stay in step. -/
theorem step (inStep : InStep paced first second) {time : Float}
    (alike : Alike paced (first.activities time) (second.activities time)) :
    InStep paced (first.step time).1 (second.step time).1 := by
  obtain ⟨firstKept, firstMoved⟩ := deadlines_step inStep.followsFirst time
  obtain ⟨secondKept, secondMoved⟩ := deadlines_step inStep.followsSecond time
  have reports := alike.mem .report (by decide)
  have updates := alike.mem .update (by decide)
  have ticks := alike.mem .tick (by decide)
  exact {
    followsFirst := follows_step inStep.followsFirst time
    followsSecond := follows_step inStep.followsSecond time
    report := by simp only [firstMoved, secondMoved, reports, inStep.report]
    update := by simp only [firstMoved, secondMoved, updates, inStep.update]
    tick := by simp only [firstMoved, secondMoved, ticks, inStep.tick]
    cycle := fun one => by
      simp only [firstMoved, secondMoved, alike.paced one, inStep.interval one, inStep.cycle one]
    interval := fun one => by rw [firstKept, secondKept, inStep.interval one] }

omit [KeySource ρ] in
/-- What happens between two steps of the first host. -/
theorem afterFirst (inStep : InStep paced first second) {event : Event σ}
    (quiet : event.time? = none) : InStep paced (first.after event) second := by
  obtain ⟨unmoved, kept, -⟩ := first.deadlines_after quiet
  exact {
    followsFirst := follows_after inStep.followsFirst event
    followsSecond := inStep.followsSecond
    report := by rw [unmoved, inStep.report]
    update := by rw [unmoved, inStep.update]
    tick := by rw [unmoved, inStep.tick]
    cycle := fun one => by rw [unmoved, inStep.cycle one]
    interval := fun one => by rw [kept, inStep.interval one] }

omit [KeySource σ] [KeySource ρ] in
theorem symm (inStep : InStep paced first second) : InStep paced second first where
  followsFirst := inStep.followsSecond
  followsSecond := inStep.followsFirst
  report := inStep.report.symm
  update := inStep.update.symm
  tick := inStep.tick.symm
  cycle one := (inStep.cycle one).symm
  interval one := (inStep.interval one).symm

/-- Hosts stay in step through histories with the same steps, as long as the answers agree. -/
theorem afterAll (inStep : InStep paced first second) {firstEvents : List (Event σ)}
    {secondEvents : List (Event ρ)} (aligned : Aligned firstEvents secondEvents)
    {firstRest secondRest : List Bool}
    (agree : Agree (answers (first.log firstEvents) ++ firstRest)
      (answers (second.log secondEvents) ++ secondRest)) :
    InStep paced (first.afterAll firstEvents) (second.afterAll secondEvents) ∧
      Agree firstRest secondRest := by
  induction aligned generalizing first second with
  | nil => exact ⟨inStep, agree⟩
  | step time _ ih =>
      simp only [log, passes, List.cons_append, List.nil_append, answers_cons,
        List.append_assoc] at agree
      obtain ⟨alike, later⟩ := inStep.alike agree
      exact ih (inStep.step alike) later
  | first quiet _ ih =>
      obtain ⟨-, -, silent⟩ := first.deadlines_after quiet
      rw [log, silent] at agree
      exact ih (inStep.afterFirst quiet) agree
  | second quiet _ ih =>
      obtain ⟨-, -, silent⟩ := second.deadlines_after quiet
      rw [log, silent] at agree
      exact ih (inStep.symm.afterFirst quiet).symm agree

end InStep

/-- Fresh hosts are in step, and have one pace if their clock speeds have one interval. -/
theorem inStep_of_build {firstMachine secondMachine : Machine} {firstKeys : σ} {secondKeys : ρ}
    {firstCanvas secondCanvas : Canvas} {firstSpeed secondSpeed : ClockSpeed}
    {first : Host Canvas σ} {second : Host Canvas ρ}
    (firstBuilt : build firstMachine firstKeys firstCanvas firstSpeed = .ok first)
    (secondBuilt : build secondMachine secondKeys secondCanvas secondSpeed = .ok second) :
    InStep (intervalOf firstSpeed = intervalOf secondSpeed) first second := by
  have followsFirst := follows_of_build firstBuilt
  have followsSecond := follows_of_build secondBuilt
  have firstFresh := (fresh_of_build firstBuilt).1
  have secondFresh := (fresh_of_build secondBuilt).1
  exact {
    followsFirst, followsSecond
    report := by rw [firstFresh, secondFresh]
    update := by rw [firstFresh, secondFresh]
    tick := by rw [firstFresh, secondFresh]
    cycle := fun _ => by rw [firstFresh, secondFresh]
    interval := fun one => by
      rw [(eq_of_build firstBuilt).1, (eq_of_build secondBuilt).1] at one
      exact Except.ok.inj one }

/-- What the machines do has no part in when their hosts do what.

However the two hosts were built, and whatever has happened to each between steps at the same times:
as long as their polls have got the same answers, the next step reports the rates, quits, updates
the display and ticks the timers for both or for neither. It runs a cycle for both or for neither if
the clock speeds are equal. -/
theorem lockstep_of_build [KeySource σ] [KeySource ρ] {firstMachine secondMachine : Machine}
    {firstKeys : σ} {secondKeys : ρ} {firstCanvas secondCanvas : Canvas}
    {firstSpeed secondSpeed : ClockSpeed} {first : Host Canvas σ} {second : Host Canvas ρ}
    (firstBuilt : build firstMachine firstKeys firstCanvas firstSpeed = .ok first)
    (secondBuilt : build secondMachine secondKeys secondCanvas secondSpeed = .ok second)
    {firstEvents : List (Event σ)} {secondEvents : List (Event ρ)} {time : Float}
    (together : firstEvents.filterMap Event.time? = secondEvents.filterMap Event.time?)
    (agree : Agree (answers (first.log (firstEvents ++ [.step time])))
      (answers (second.log (secondEvents ++ [.step time])))) :
    let left := first.afterAll firstEvents
    let right := second.afterAll secondEvents
    (left.step time = left.performAll time (left.activities time) ∧
      right.step time = right.performAll time (right.activities time)) ∧
    (∀ activity, activity ≠ .cycle →
      (activity ∈ left.activities time ↔ activity ∈ right.activities time)) ∧
    (left.step time).2.quit = (right.step time).2.quit ∧
    (intervalOf firstSpeed = intervalOf secondSpeed →
      left.activities time = right.activities time) := by
  intro left right
  simp only [log_append, answers_append] at agree
  obtain ⟨now, later⟩ := (inStep_of_build firstBuilt secondBuilt).afterAll
    (aligned_of_times together) agree
  have heardNow :
      Agree (heard (left.activities time) ++ []) (heard (right.activities time) ++ []) := later
  obtain ⟨alike, -⟩ := now.alike heardNow
  have leftQuits := quit_step now.followsFirst time
  have rightQuits := quit_step now.followsSecond time
  refine ⟨⟨step_eq_performAll now.followsFirst time, step_eq_performAll now.followsSecond time⟩,
    alike.mem, ?_, alike.paced⟩
  rw [Bool.eq_iff_iff, leftQuits, rightQuits]
  exact alike.mem .quit (by decide)

/-- Two hosts with other clock speeds and other programs, of which one fails in its first cycle,
quit in the same step. -/
theorem lockstep_of_build_with_failure :
    let first : Host Canvas HandKeys :=
      headless (.fresh (.cycling []) false) { patience := some 1 } (1.0 / 500.0)
    let second : Host Canvas HandKeys :=
      headless (.fresh (.cycling []) true) { patience := some 1 } (1.0 / 100.0)
    let failing : List (Event HandKeys) := [.operation (.loadProgram [0xFF, 0xFF]), .step 0.0]
    build (.fresh (.cycling []) false) { patience := some 1 } .standard (.whole 500) = .ok first ∧
      build (.fresh (.cycling []) true) { patience := some 1 } .standard (.whole 100) =
        .ok second ∧
      (second.afterAll failing).cycles = 0 ∧
      ((first.afterAll [.step 0.0]).step 0.02).2.quit =
        ((second.afterAll failing).step 0.02).2.quit := by
  intro first second failing
  have firstBuilt : build _ _ _ (.whole 500) = .ok first :=
    build_headless _ _ (show intervalOf (.whole 500) = .ok (1.0 / 500.0) from rfl)
  have secondBuilt : build _ _ _ (.whole 100) = .ok second :=
    build_headless _ _ (show intervalOf (.whole 100) = .ok (1.0 / 100.0) from rfl)
  have together : [Event.step (σ := HandKeys) 0.0].filterMap Event.time? =
      failing.filterMap Event.time? := rfl
  have firstFacts : heard (first.activities 0.0) = [false] ∧
      (first.after (.step 0.0)).deadlines.update ≤ 0.02 ∧
      (first.after (.step 0.0)).keys.patience = some 0 := by
    decide +kernel
  have secondFacts :
      let loaded := second.after (.operation (.loadProgram [0xFF, 0xFF]))
      heard (loaded.activities 0.0) = [false] ∧
      (loaded.after (.step 0.0)).deadlines.update ≤ 0.02 ∧
      (loaded.after (.step 0.0)).keys.patience = some 0 := by
    decide +kernel
  obtain ⟨firstHeard, firstDue, firstAsks⟩ := firstFacts
  obtain ⟨secondHeard, secondDue, secondAsks⟩ := secondFacts
  -- The second poll of either host is the first that asks to quit.
  have finite : ¬(0.02 : Float).isInf = true := by decide
  have agree : Agree (answers (first.log ([.step 0.0] ++ [.step 0.02])))
      (answers (second.log (failing ++ [.step 0.02]))) := by
    simp only [failing, List.cons_append, List.nil_append, log, passes, answers_cons, firstHeard,
      secondHeard, heard_of_impatient finite firstDue firstAsks,
      heard_of_impatient finite secondDue secondAsks]
    exact .inl (List.prefix_refl _)
  obtain ⟨-, -, quits, -⟩ := lockstep_of_build firstBuilt secondBuilt together agree
  exact ⟨firstBuilt, secondBuilt, by decide +kernel, quits⟩

end Host

end Chip8
