import Mathlib

/-!
# Runs of a labelled transition function

A component is a state type `σ` with a total step `σ → ι → σ`: every choice the environment
makes (clock readings, argument values, which call fails) sits in the label, so a run is a list
of labels. This file has the rules the protocol proofs are assembled from:

* `run_invariant`: what every step keeps, every run keeps,
* `exists_last_switch`: a property that holds now and did not hold at the start was switched on
  by one step and has held ever since.
-/

namespace AgentGateway.Lib
namespace Run

variable {σ ι : Type*} {step : σ → ι → σ} {s : σ} {P : σ → Prop} {labels : List ι}

/-- The state reached from `s` by the labels of a run, oldest first. -/
def run (step : σ → ι → σ) (s : σ) (labels : List ι) : σ := labels.foldl step s

@[simp] lemma run_nil : run step s [] = s := rfl

@[simp] lemma run_cons (l : ι) (labels : List ι) :
    run step s (l :: labels) = run step (step s l) labels := rfl

lemma run_append (pre post : List ι) :
    run step s (pre ++ post) = run step (run step s pre) post :=
  List.foldl_append

lemma run_concat (pre : List ι) (l : ι) :
    run step s (pre ++ [l]) = step (run step s pre) l := by
  rw [run_append, run_cons, run_nil]

/-- The invariant rule, with the label of each step known to come from the run. -/
theorem run_invariant_of_mem (hstep : ∀ s, ∀ l ∈ labels, P s → P (step s l)) (hs : P s) :
    P (run step s labels) := by
  induction labels generalizing s with
  | nil => exact hs
  | cons l labels ih =>
    rw [run_cons]
    refine ih (fun s l' hl' => hstep s l' (List.mem_cons_of_mem _ hl')) ?_
    exact hstep s l List.mem_cons_self hs

/-- The invariant rule: a property every step keeps holds at the end of every run. -/
theorem run_invariant (hstep : ∀ s l, P s → P (step s l)) (hs : P s) (labels : List ι) :
    P (run step s labels) :=
  run_invariant_of_mem (fun s l _ => hstep s l) hs

/-- The invariant rule for a property of the run so far and the state it reached. -/
theorem run_history_invariant {P : List ι → σ → Prop} (hnil : P [] s)
    (hstep : ∀ pre l, P pre (run step s pre) → P (pre ++ [l]) (step (run step s pre) l))
    (labels : List ι) : P labels (run step s labels) := by
  induction labels using List.reverseRecOn with
  | nil => exact hnil
  | append_singleton pre l ih =>
    rw [run_concat]
    exact hstep pre l ih

/-- A property that fails at the start and holds at the end was switched on by some step, and
the last such step is followed only by states in which it holds. -/
theorem exists_last_switch (hs : ¬ P s) (hend : P (run step s labels)) :
    ∃ pre l post, labels = pre ++ l :: post ∧ ¬ P (run step s pre) ∧
      ∀ mid, mid <+: post → P (run step s (pre ++ l :: mid)) := by
  induction labels using List.reverseRecOn with
  | nil => exact absurd hend hs
  | append_singleton init last ih =>
    by_cases hinit : P (run step s init)
    · -- already on before the last step: extend the earlier answer by that step
      obtain ⟨pre, l, post, rfl, hpre, hmid⟩ := ih hinit
      refine ⟨pre, l, post ++ [last], by simp, hpre, ?_⟩
      intro mid hpfx
      rcases List.prefix_concat_iff.mp hpfx with rfl | hpfx
      · simpa using hend
      · exact hmid mid hpfx
    · refine ⟨init, last, [], rfl, hinit, ?_⟩
      intro mid hpfx
      rw [List.prefix_nil.mp hpfx]
      exact hend

/-- Two positions of one run are the same one, or one of them comes first. -/
lemma positions_cases {pre post pre' post' : List ι} {l l' : ι}
    (h : pre ++ l :: post = pre' ++ l' :: post') :
    (pre = pre' ∧ l = l' ∧ post = post') ∨
    (∃ mid, pre' = pre ++ l :: mid ∧ post = mid ++ l' :: post') ∨
    ∃ mid, pre = pre' ++ l' :: mid ∧ post' = mid ++ l :: post := by
  rcases List.append_eq_append_iff.mp h with ⟨gap, hpre, hpost⟩ | ⟨gap, hpre, hpost⟩
  · cases gap with
    | nil =>
      obtain ⟨rfl, rfl⟩ := List.cons.inj hpost
      exact Or.inl ⟨by simpa using hpre.symm, rfl, rfl⟩
    | cons l₁ mid =>
      obtain ⟨rfl, rfl⟩ := List.cons.inj hpost
      exact Or.inr (Or.inl ⟨mid, hpre, rfl⟩)
  · cases gap with
    | nil =>
      obtain ⟨rfl, rfl⟩ := List.cons.inj hpost
      exact Or.inl ⟨by simpa using hpre, rfl, rfl⟩
    | cons l₁ mid =>
      obtain ⟨rfl, rfl⟩ := List.cons.inj hpost
      exact Or.inr (Or.inr ⟨mid, hpre, rfl⟩)

end Run
end AgentGateway.Lib
