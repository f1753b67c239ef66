import Chip8.Proofs.Faults
import Chip8.Proofs.Rates

/-!
How a host with a canvas can fail.

A canvas takes every picture, so that a host fails with its machine or with its clock. The machine
fails in a crash, and the crash is reported with the state in which the host is left.

* `crash_of_cycle` — every failure of a cycle is a crash.
* `Sound` — a processor within its bounds, and a canvas in step with the screen. Every activity
  keeps both.
* `Crashed`, `fault_perform`, `fault_step` — the program has crashed; it does so in a cycle.
* `FailsAfter`, `fault_runFrom` — the clock fails; a run fails with a crash or with the clock.
-/

namespace Chip8

/-- A cycle fails in a crash. The report tells the state that is left. -/
theorem Machine.crash_of_cycle {machine : Machine} (bounded : machine.cpu.Bounded)
    {failure : Machine.Failure} (failed : machine.cycle.2.failure = some failure) :
    failure.fault.isCrash = true ∧
      ∃ instruction, failure.report = some (machine.cycle.1.cpu.crashReport instruction) := by
  have outcome := machine.outcome_cycle
  generalize machine.cycle = ended at outcome failed ⊢
  cases outcome with
  | paused _ | executed _ _ _ _ => cases failed
  | unfetched _ _ =>
      cases failed
      exact ⟨rfl, _, report_failWith rfl _⟩
  | undecoded _ _ _ =>
      cases failed
      exact ⟨rfl, _, report_failWith rfl _⟩
  | @refused instruction fault _ inside _ refusal =>
      have refused := fault_execute (bounded_fetched bounded inside).1 instruction
      rw [refusal] at refused
      have crash := isCrash_of_refusal? refused.symm
      cases failed
      exact ⟨crash, _, report_failWith crash _⟩

namespace Host

variable {σ : Type}

/-- The processor is within its bounds, and the canvas in step with the screen. -/
structure Sound (host : Host Canvas σ) : Prop where
  bounded : host.machine.cpu.Bounded
  follows : host.Follows

/-- The fault is that of a program that has crashed, and reports the state in which it has left the
host. -/
def Crashed (host : Host Canvas σ) (fault : Fault) : Prop :=
  ∃ failure instruction, fault = .machine failure ∧ failure.fault.isCrash = true ∧
    failure.report = some (host.machine.cpu.crashReport instruction)

/-- A refresh leaves the processor alone. -/
theorem cpu_refresh {host : Host Canvas σ} (follows : host.Follows) (force : Bool) :
    (host.refresh force).1.machine.cpu = host.machine.cpu := by
  rw [refresh_eq follows.width follows.height]
  dsimp only
  split <;> rfl

variable [KeySource σ] {host : Host Canvas σ} {time : Float} {fault : Fault}

/-! ### Activities -/

theorem sound_perform (sound : host.Sound) (time : Float) (activity : Activity) :
    (host.perform time activity).1.Sound := by
  refine ⟨?_, follows_perform sound.follows time activity⟩
  cases activity with
  | refuse | report | quit => exact sound.bounded
  | update =>
      have polled : (host.polled time).Follows := sound.follows
      rw [perform_update]
      dsimp only
      rw [cpu_refresh polled]
      exact sound.bounded
  | tick => exact Machine.bounded_apply sound.bounded .tick
  | cycle =>
      let started : Machine := { host.machine with keypad := ⟨KeySource.states host.keys⟩ }
      have bounded : started.cpu.Bounded := sound.bounded
      rw [perform_cycle]
      exact Machine.bounded_cycle bounded

theorem sound_performAll (sound : host.Sound) (time : Float) (activities : List Activity) :
    (host.performAll time activities).1.Sound := by
  induction activities generalizing host with
  | nil => exact sound
  | cons activity rest ih =>
      rw [performAll_cons]
      exact ih (sound_perform sound time activity)

/-- Nothing but a cycle fails, unless the rates are to be reported at an infinite time. -/
theorem fault_perform (sound : host.Sound) {activity : Activity}
    (failed : (host.perform time activity).2.fault = some fault) :
    activity = .refuse ∧ fault = .beyondDoubles ∨
      Crashed (host.perform time activity).1 fault := by
  cases activity with
  | refuse => exact .inl ⟨rfl, (Option.some.inj failed).symm⟩
  | report | quit | tick => cases failed
  | update =>
      rw [silent_update sound.follows] at failed
      cases failed
  | cycle =>
      right
      let started : Machine := { host.machine with keypad := ⟨KeySource.states host.keys⟩ }
      have bounded : started.cpu.Bounded := sound.bounded
      rw [perform_cycle] at failed ⊢
      obtain ⟨failure, halted, rfl⟩ := Option.map_eq_some_iff.mp failed
      obtain ⟨crash, instruction, reported⟩ := Machine.crash_of_cycle bounded halted
      exact ⟨failure, instruction, rfl, crash, reported⟩

/-- The last activity alone can fail. -/
theorem fault_performAll (sound : host.Sound) {activities : List Activity}
    (failed : (host.performAll time activities).2.fault = some fault) :
    .refuse ∈ activities ∧ fault = .beyondDoubles ∨
      Crashed (host.performAll time activities).1 fault := by
  rcases List.eq_nil_or_concat activities with rfl | ⟨before, last, rfl⟩
  · cases failed
  · rw [List.concat_eq_append, performAll_concat] at failed ⊢
    rcases fault_perform (sound_performAll sound time before) failed with ⟨rfl, beyond⟩ | crashed
    · exact .inl ⟨List.mem_append_right before (List.mem_singleton_self _), beyond⟩
    · exact .inr crashed

/-! ### Steps -/

theorem isInf_of_refuse (refuses : .refuse ∈ host.activities time) : time.isInf = true := by
  unfold activities agenda at refuses
  split at refuses
  next infinite => exact infinite.2
  next =>
    unfold pending at refuses
    split at refuses <;> simp [mem_whenDue] at refuses

theorem sound_step (sound : host.Sound) (time : Float) : (host.step time).1.Sound := by
  rw [step_eq_performAll sound.follows]
  exact sound_performAll sound time _

theorem fault_step (sound : host.Sound) (failed : (host.step time).2.fault = some fault) :
    time.isInf = true ∧ fault = .beyondDoubles ∨ Crashed (host.step time).1 fault := by
  rw [step_eq_performAll sound.follows] at failed ⊢
  rcases fault_performAll sound failed with ⟨refuses, beyond⟩ | crashed
  · exact .inl ⟨isInf_of_refuse refuses, beyond⟩
  · exact .inr crashed

/-! ### Runs -/

/-- After so many readings that a clock has answered, the next one fails, or the last was
infinite. -/
def FailsAfter (time? : Nat → Option Float) (readings : Nat) : Prop :=
  time? readings = none ∨
    ∃ last time, readings = last + 1 ∧ time? last = some time ∧ time.isInf = true

/-- A run fails because the program has crashed, or with its clock. -/
theorem fault_runFrom {time? : Nat → Option Float} {arrive : Nat → σ → σ} {left reading : Nat}
    {lines : Array String} (sound : host.Sound)
    (failed : (runFrom time? arrive left reading lines host).ending = .failed fault) :
    let ended := runFrom time? arrive left reading lines host
    Crashed ended.host fault ∨ FailsAfter time? ended.readings ∧ fault = .beyondDoubles := by
  induction left generalizing reading lines host with
  | zero => cases failed
  | succ left ih =>
      cases known : time? reading with
      | none =>
          simp only [runFrom, known] at failed ⊢
          exact .inr ⟨.inl known, (RunEnd.failed.inj failed).symm⟩
      | some time =>
          generalize same : { host with keys := arrive reading host.keys } = arrived
          have soundHere : arrived.Sound := by
            rw [← same]
            exact ⟨sound.bounded, sound.follows⟩
          have soundNext := sound_step soundHere time
          have faulty {fault : Fault} (halted : (arrived.step time).2.fault = some fault) :=
            fault_step soundHere halted
          generalize stepped : arrived.step time = ended at soundNext faulty
          obtain ⟨next, asked, fault, trace⟩ := ended
          rw [runFrom_of_step known same stepped] at failed ⊢
          cases fault with
          | some fault =>
              obtain rfl := RunEnd.failed.inj failed
              rcases faulty rfl with ⟨infinite, beyond⟩ | crashed
              · exact .inr ⟨.inr ⟨reading, time, rfl, known, infinite⟩, beyond⟩
              · exact .inl crashed
          | none =>
              cases asked with
              | false => exact ih soundNext failed
              | true =>
                  have shown := (shows_refresh soundNext.follows false).1
                  dsimp only at failed
                  rw [shown] at failed
                  cases failed

end Host

end Chip8
