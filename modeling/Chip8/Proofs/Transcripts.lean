/-!
Histories of requests to something that has a state of its own and replies to each request, going on
after a request that it refuses.

* `stateAfter`, `transcript` — the state behind a history, and its requests, each with the reply.
* `Simulates` — two of them reply alike, and so does every history of requests to them.
-/

namespace Chip8

variable {σ τ ρ α : Type}

/-- The state behind a history of requests. -/
def stateAfter (respond : σ → ρ → σ × α) (state : σ) (requests : List ρ) : σ :=
  requests.foldl (fun state request => (respond state request).1) state

/-- The requests of a history, each with the reply to it. -/
def transcript (respond : σ → ρ → σ × α) (state : σ) : List ρ → List (ρ × α)
  | [] => []
  | request :: rest =>
      (request, (respond state request).2) :: transcript respond (respond state request).1 rest

/-- Related states reply alike to every request, and go on to related states. -/
def Simulates (first : σ → ρ → σ × α) (second : τ → ρ → τ × α) (related : σ → τ → Prop) : Prop :=
  ∀ ⦃state : σ⦄ ⦃other : τ⦄, related state other → ∀ request,
    (first state request).2 = (second other request).2 ∧
      related (first state request).1 (second other request).1

/-- What holds of every request holds of every history. -/
theorem Simulates.history {first : σ → ρ → σ × α} {second : τ → ρ → τ × α}
    {related : σ → τ → Prop} (simulates : Simulates first second related) {state : σ} {other : τ}
    (start : related state other) (requests : List ρ) :
    transcript first state requests = transcript second other requests ∧
      related (stateAfter first state requests) (stateAfter second other requests) := by
  induction requests generalizing state other with
  | nil => exact ⟨rfl, start⟩
  | cons request rest ih =>
      obtain ⟨reply, next⟩ := simulates start request
      obtain ⟨replies, last⟩ := ih next
      refine ⟨?_, last⟩
      rw [transcript, transcript, reply, replies]

end Chip8
