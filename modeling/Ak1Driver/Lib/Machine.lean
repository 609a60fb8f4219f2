/-! Machines that answer one request after another. Two machines whose states
stay related and which answer alike cannot be told apart by any requests. -/

namespace Ak1Driver.Lib.Machine

/-- The replies to `requests`, and the state after them. -/
def serve (step : σ → ι → ω × σ) : σ → List ι → List ω × σ
  | state, [] => ([], state)
  | state, request :: requests =>
    let (reply, after) := step state request
    let (replies, final) := serve step after requests
    (reply :: replies, final)

/-- What the requests and their replies contribute, in order. -/
def gathered (gain : ι → ω → List α) (requests : List ι) (replies : List ω) : List α :=
  (List.zipWith gain requests replies).flatten

variable {step : σ → ι → ω × σ}

/-- The simulation rule: related states answer alike and stay related. -/
theorem serve_simulates {other : τ → ι → ω × τ} (related : σ → τ → Prop)
    (kept : ∀ first second request, related first second →
      (step first request).1 = (other second request).1 ∧ related (step first request).2 (other second request).2)
    (requests : List ι) {first : σ} {second : τ} (start : related first second) :
    (serve step first requests).1 = (serve other second requests).1 ∧
      related (serve step first requests).2 (serve other second requests).2 := by
  induction requests generalizing first second with
  | nil => exact ⟨rfl, start⟩
  | cons request requests ih =>
    obtain ⟨same, next⟩ := kept first second request start
    obtain ⟨replies, final⟩ := ih next
    exact ⟨by simp only [serve, same, replies], final⟩

theorem serve_keeps (holds : σ → Prop) (kept : ∀ state request, holds state → holds (step state request).2)
    (state : σ) (requests : List ι) (start : holds state) : holds (serve step state requests).2 := by
  induction requests generalizing state with
  | nil => exact start
  | cons request requests ih => exact ih (step state request).2 (kept state request start)

/-- What every step appends is what the whole run appends. -/
theorem serve_gathers (measure : σ → List α) (gain : ι → ω → List α)
    (each : ∀ state request, measure (step state request).2 = measure state ++ gain request (step state request).1)
    (state : σ) (requests : List ι) :
    measure (serve step state requests).2 =
      measure state ++ gathered gain requests (serve step state requests).1 := by
  induction requests generalizing state with
  | nil => simp [serve, gathered]
  | cons request requests ih =>
    calc measure (serve step (step state request).2 requests).2
      _ = measure (step state request).2 ++ gathered gain requests (serve step (step state request).2 requests).1 := ih _
      _ = measure state ++ (gain request (step state request).1 ++
            gathered gain requests (serve step (step state request).2 requests).1) := by rw [each, List.append_assoc]

end Ak1Driver.Lib.Machine
