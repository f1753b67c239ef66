import Chip8.Host.Run
import Chip8.Machine.Operation

/-!
Histories of a host: steps at any times, mixed with whatever else happens between them.

* `runFrom_of_step` — a run with one reading more, by its first step.
* `step_induction` — a step keeps what each of its stages keeps, however it ends.
* `afterAll_induction` — a history keeps what every event keeps.
* `refresh_of_quit` — a run that was asked to quit ends with a refresh of the display.
-/

namespace Chip8.Host

variable {δ σ : Type} [Display δ] [KeySource σ]

/-! ### Events -/

/-- What can happen to a host. -/
inductive Event (σ : Type) where
  | step (time : Float)
  | refresh (force : Bool)
  /-- The machine is operated past the host. -/
  | operation (operation : Machine.Operation)
  /-- Something arrives at the keys. -/
  | keys (change : σ → σ)

/-- The host that an event leaves, whether or not it failed. -/
def after (host : Host δ σ) : Event σ → Host δ σ
  | .step time => (host.step time).1
  | .refresh force => (host.refresh force).1
  | .operation operation => { host with machine := (host.machine.apply operation).1 }
  | .keys change => { host with keys := change host.keys }

/-- The host at the end of a history. -/
def afterAll (host : Host δ σ) (events : List (Event σ)) : Host δ σ := events.foldl after host

/-! ### Runs -/

theorem runFrom_of_step {time? : Nat → Option Float} {arrive : Nat → σ → σ} {left reading : Nat}
    {lines : Array String} {time : Float} {host arrived next : Host δ σ} {reply : Reply}
    (known : time? reading = some time)
    (same : { host with keys := arrive reading host.keys } = arrived)
    (stepped : arrived.step time = (next, reply)) :
    runFrom time? arrive (left + 1) reading lines host =
      match reply.fault, reply.quit with
      | some fault, _ =>
          { host := next, ending := .failed fault, lines := lines ++ reply.trace.toArray
            readings := reading + 1 }
      | none, true =>
          { host := (next.refresh false).1
            ending := ((next.refresh false).2.map RunEnd.failed).getD .quit
            lines := lines ++ reply.trace.toArray, readings := reading + 1 }
      | none, false =>
          runFrom time? arrive left (reading + 1) (lines ++ reply.trace.toArray) next := by
  obtain ⟨asked, fault, trace⟩ := reply
  cases fault with
  | some fault => simp only [runFrom, turn, known, same, stepped]
  | none => cases asked <;> simp only [runFrom, turn, known, same, stepped]

/-! ### Invariants -/

theorem step_induction {motive : Host δ σ → Prop} {time : Float}
    (reporting : ∀ host, motive host → motive (host.reportStage time).1)
    (updating : ∀ host, motive host → motive (host.updateStage time).1)
    (ticking : ∀ host, motive host → motive (host.tickStage time))
    (cycling : ∀ host, motive host → motive (host.cycleStage time).1)
    {host : Host δ σ} (initial : motive host) : motive (host.step time).1 := by
  have reported := reporting host initial
  unfold step
  generalize host.reportStage time = report at reported ⊢
  obtain ⟨host, fault⟩ := report
  cases fault with
  | some fault => exact reported
  | none =>
      have updated := updating host reported
      dsimp only
      generalize host.updateStage time = update at updated ⊢
      obtain ⟨host, ending⟩ := update
      cases ending with
      | quit | failed _ => exact updated
      | done => exact cycling _ (ticking _ updated)

theorem afterAll_induction {motive : Host δ σ → Prop}
    (preserved : ∀ host event, motive host → motive (host.after event)) {host : Host δ σ}
    (initial : motive host) (events : List (Event σ)) : motive (host.afterAll events) := by
  induction events generalizing host with
  | nil => exact initial
  | cons event rest ih => exact ih (preserved host event initial)

/-- What the arrival of keys and every step keep still holds when a run that was asked to quit shows
the last picture. -/
theorem refresh_of_quit {motive : Host δ σ → Prop}
    (arriving : ∀ host keys, motive host → motive { host with keys })
    (stepping : ∀ host time, motive host → motive (host.step time).1)
    {time? : Nat → Option Float} {arrive : Nat → σ → σ} {left readings : Nat}
    {lines : Array String} {host : Host δ σ} (initial : motive host)
    (quit : (runFrom time? arrive left readings lines host).ending = .quit) :
    ∃ last, motive last ∧
      last.refresh false = ((runFrom time? arrive left readings lines host).host, none) := by
  induction left generalizing readings lines host with
  | zero => cases quit
  | succ left ih =>
      cases reading : time? readings with
      | none => rw [runFrom, reading] at quit; cases quit
      | some time =>
          have kept := stepping _ time (arriving host (arrive readings host.keys) initial)
          generalize same : { host with keys := arrive readings host.keys } = arrived at kept
          generalize stepped : arrived.step time = ended at kept
          obtain ⟨next, asked, fault, trace⟩ := ended
          rw [runFrom_of_step reading same stepped] at quit ⊢
          cases fault with
          | some fault => cases quit
          | none =>
              cases asked with
              | false => exact ih kept quit
              | true =>
                  refine ⟨next, kept, ?_⟩
                  simp only at quit ⊢
                  generalize next.refresh false = shown at quit ⊢
                  obtain ⟨host, fault⟩ := shown
                  cases fault with
                  | none => rfl
                  | some fault => cases quit

end Chip8.Host
