import Mathlib

/-!
# Least recently used

A cache that evicts the key it has not been asked for longest keeps its keys in the order of their
last use. The uses are a list, oldest first; the age of a key is the number of uses since its last
one.

* `age`, `age_concat_self`, `age_concat_of_ne`: what one more use does to the ages,
* `ByAge`: the order of such a cache, kept by removals (`ByAge.sublist`) and by moving the key that
  is used to the end (`ByAge.use`),
* `ByAge.head`: what is evicted is older than everything else.
-/

namespace AgentGateway.Lib
namespace Recency

variable {κ : Type*} [DecidableEq κ] {uses order order' : List κ} {k other : κ}

/-- How many uses there have been since the last one of a key. -/
def age (uses : List κ) (k : κ) : ℕ := uses.reverse.idxOf k

lemma age_concat_self : age (uses ++ [k]) k = 0 := by
  rw [age, List.reverse_append, List.reverse_singleton, List.singleton_append]
  exact List.idxOf_cons_self

lemma age_concat_of_ne (h : other ≠ k) : age (uses ++ [k]) other = age uses other + 1 := by
  rw [age, List.reverse_append, List.reverse_singleton, List.singleton_append]
  exact List.idxOf_cons_ne _ h.symm

/-- The keys that are left, the one with the oldest last use first. -/
def ByAge (uses order : List κ) : Prop := order.Pairwise fun a b => age uses b < age uses a

lemma byAge_nil : ByAge uses [] := List.Pairwise.nil

lemma ByAge.sublist (h : ByAge uses order) (hsub : order'.Sublist order) : ByAge uses order' :=
  List.Pairwise.sublist hsub h

lemma ByAge.nodup (h : ByAge uses order) : order.Nodup :=
  List.Pairwise.imp (fun hlt heq => by rw [heq] at hlt; exact lt_irrefl _ hlt) h

/-- Using a key puts it last. -/
lemma ByAge.use (h : ByAge uses order) (hnot : k ∉ order) : ByAge (uses ++ [k]) (order ++ [k]) := by
  have hne : ∀ a ∈ order, a ≠ k := fun a ha heq => hnot (heq ▸ ha)
  refine List.pairwise_append.mpr ⟨?_, List.pairwise_singleton _ _, fun a ha b hb => ?_⟩
  · refine h.imp_of_mem fun {a b} ha hb hlt => ?_
    rw [age_concat_of_ne (hne a ha), age_concat_of_ne (hne b hb)]
    omega
  · rw [List.mem_singleton.mp hb, age_concat_self, age_concat_of_ne (hne a ha)]
    omega

/-- The first key is older than all others. -/
lemma ByAge.head (h : ByAge uses (k :: order)) : ∀ a ∈ order, age uses a < age uses k :=
  (List.pairwise_cons.mp h).1

end Recency
end AgentGateway.Lib
