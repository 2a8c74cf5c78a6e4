import Mathlib.Data.List.Induction

/-!
# Devices that answer calls

A call to a device returns an answer and leaves the device in some state.  Whoever uses the device
sees the answers only, so two devices are the same to their users when they answer every list of
calls alike.

Three inductions are made here once for all devices.  What every call keeps is kept by any calls
(`after_keeps`, and `after_keeps_of_mem` where only some calls occur).  What every call carries on
holds of a state and the calls that led to it (`after_follows`).  Two devices that answer every call
alike answer any calls alike (`Alike.calls`).
-/

namespace SocBench.Calls

variable {σ τ γ α : Type}

/-- The state after some calls. -/
def after (perform : σ → γ → α × σ) (x : σ) (calls : List γ) : σ :=
  calls.foldl (fun x call => (perform x call).2) x

/-- What some calls return, in their order. -/
def answers (perform : σ → γ → α × σ) : σ → List γ → List α
  | _, [] => []
  | x, call :: calls => (perform x call).1 :: answers perform (perform x call).2 calls

variable {perform : σ → γ → α × σ} {perform' : τ → γ → α × τ}

lemma after_concat (x : σ) (calls : List γ) (call : γ) :
    after perform x (calls ++ [call]) = (perform (after perform x calls) call).2 := by
  rw [after, after, List.foldl_append]
  rfl

/-- What holds of a state and the calls behind it, newest first, if every call carries it on. -/
lemma after_follows {P : List γ → σ → Prop} {x : σ} (hnew : P [] x)
    (hstep : ∀ past x call, P past x → P (call :: past) (perform x call).2) (calls : List γ) :
    P calls.reverse (after perform x calls) := by
  induction calls using List.reverseRecOn with
  | nil => exact hnew
  | append_singleton calls call ih =>
    rw [after_concat, List.reverse_concat]
    exact hstep _ _ call ih

/-- What each of some calls keeps is kept by all of them together. -/
lemma after_keeps_of_mem {P : σ → Prop} {calls : List γ}
    (hstep : ∀ call ∈ calls, ∀ x, P x → P (perform x call).2) {x : σ} (hx : P x) :
    P (after perform x calls) := by
  induction calls generalizing x with
  | nil => exact hx
  | cons call calls ih =>
    refine ih (fun later hmem => hstep later ?_) (hstep call ?_ x hx)
    · exact List.mem_cons_of_mem call hmem
    · exact List.mem_cons_self

lemma after_keeps {P : σ → Prop} (hstep : ∀ x call, P x → P (perform x call).2) {x : σ} (hx : P x)
    (calls : List γ) : P (after perform x calls) :=
  after_keeps_of_mem (fun call _ x h => hstep x call h) hx

/-- In related states two devices answer every call alike, and they stay related. -/
def Alike (perform : σ → γ → α × σ) (perform' : τ → γ → α × τ) (R : σ → τ → Prop) : Prop :=
  ∀ x y call, R x y →
    (perform x call).1 = (perform' y call).1 ∧ R (perform x call).2 (perform' y call).2

lemma Alike.calls {R : σ → τ → Prop} (halike : Alike perform perform' R) {x : σ} {y : τ}
    (h : R x y) (calls : List γ) :
    answers perform x calls = answers perform' y calls
      ∧ R (after perform x calls) (after perform' y calls) := by
  induction calls generalizing x y with
  | nil => exact ⟨rfl, h⟩
  | cons call calls ih =>
    obtain ⟨hanswer, hnext⟩ := halike x y call h
    obtain ⟨hanswers, hlast⟩ := ih hnext
    refine ⟨?_, hlast⟩
    rw [answers, answers, hanswer, hanswers]

end SocBench.Calls
