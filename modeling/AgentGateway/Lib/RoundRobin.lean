import Mathlib.Data.List.Basic
import Mathlib.Data.List.Sort
import Mathlib.Order.Lattice

/-!
# Scans with a cursor

A scan that keeps a cursor over a sorted list of due elements goes on behind the cursor and starts
again at the front when nothing is left behind it. The elements in the order in which it comes to
them are its queue. Each round takes a nonempty start of the queue and may put back only what it
has taken, so `n` rounds have come to the first `n` elements of the first queue, however few
elements each of them takes.
-/

namespace AgentGateway.Lib

variable {α : Type*} {x : α}

/-! ## Rounds of a queue -/

/-- Rounds that each take some elements from the front of the queue and put back, at its end, some
of those they have taken. A round takes nothing only when the queue is empty. -/
inductive Rounds : List α → List (List α) → List α → Prop
  | nil (queue : List α) : Rounds queue [] queue
  | cons {queue taken rest kept queue' : List α} {rounds : List (List α)}
      (hqueue : queue = taken ++ rest) (htaken : taken = [] → queue = [])
      (hkept : kept ⊆ taken) (hrounds : Rounds (rest ++ kept) rounds queue') :
      Rounds queue (taken :: rounds) queue'

/-- After `n` rounds each of the first `n` elements of the queue has been taken. -/
theorem Rounds.mem_flatten {queue queue' : List α} {rounds : List (List α)}
    (h : Rounds queue rounds queue') (hx : x ∈ queue.take rounds.length) : x ∈ rounds.flatten := by
  induction h with
  | nil queue => simp at hx
  | @cons queue taken rest kept queue' rounds hqueue htaken hkept hrounds ih =>
    rw [List.flatten_cons, List.mem_append]
    by_cases hmem : x ∈ taken
    · exact Or.inl hmem
    · -- what is not taken now has moved towards the front by at least one place
      right
      apply ih
      have hlength : 1 ≤ taken.length := by
        by_contra hzero
        have hnil : taken = [] := List.length_eq_zero_iff.mp (by omega)
        rw [htaken hnil] at hx
        simp at hx
      rw [hqueue, List.take_append, List.mem_append] at hx
      have hrest : x ∈ rest.take ((taken :: rounds).length - taken.length) :=
        hx.resolve_left fun hin => hmem (List.mem_of_mem_take hin)
      rw [List.take_append, List.mem_append]
      refine Or.inl (List.take_subset_take_left rest ?_ hrest)
      rw [List.length_cons]
      omega

/-! ## The queue of a cursor -/

section Cursor

variable [LinearOrder α] {cursor : α} {due : List α}

/-- The due elements in the order in which a scan at the cursor comes to them. -/
def queueAt (cursor : α) (due : List α) : List α :=
  due.filter (cursor < ·) ++ due.filter (· ≤ cursor)

lemma mem_queueAt : x ∈ queueAt cursor due ↔ x ∈ due := by
  simp only [queueAt, List.mem_append, List.mem_filter, decide_eq_true_eq]
  constructor
  · rintro (h | h) <;> exact h.1
  · intro h
    rcases lt_or_ge cursor x with hlt | hle
    · exact Or.inl ⟨h, hlt⟩
    · exact Or.inr ⟨h, hle⟩

lemma length_queueAt (cursor : α) (due : List α) : (queueAt cursor due).length = due.length := by
  have hsplit := List.length_eq_length_filter_add (l := due) fun x => decide (cursor < x)
  have hneg : (due.filter fun x => !decide (cursor < x)) =
      due.filter fun x => decide (x ≤ cursor) := by
    apply List.filter_congr
    intro x _
    simp [← not_lt]
  rw [queueAt, List.length_append, hsplit, hneg]

/-- A sorted list is cut by the cursor. -/
lemma queueAt_cut {front back : List α} (hfront : ∀ x ∈ front, x ≤ cursor)
    (hback : ∀ x ∈ back, cursor < x) : queueAt cursor (front ++ back) = back ++ front := by
  have h₁ : front.filter (fun x => decide (cursor < x)) = [] :=
    List.filter_eq_nil_iff.mpr fun x hx => by simpa using hfront x hx
  have h₂ : back.filter (fun x => decide (cursor < x)) = back :=
    List.filter_eq_self.mpr fun x hx => by simpa using hback x hx
  have h₃ : front.filter (fun x => decide (x ≤ cursor)) = front :=
    List.filter_eq_self.mpr fun x hx => by simpa using hfront x hx
  have h₄ : back.filter (fun x => decide (x ≤ cursor)) = [] :=
    List.filter_eq_nil_iff.mpr fun x hx => by simpa using hback x hx
  simp only [queueAt, List.filter_append, h₁, h₂, h₃, h₄, List.nil_append, List.append_nil]

/-- The cut itself: what is not behind the cursor, then what is behind it. -/
lemma filter_append_filter_of_sorted (hsorted : due.Pairwise (· < ·)) :
    due.filter (· ≤ cursor) ++ due.filter (cursor < ·) = due := by
  induction due with
  | nil => rfl
  | cons x rest ih =>
    obtain ⟨hx, hrest⟩ := List.pairwise_cons.mp hsorted
    by_cases hle : x ≤ cursor
    · rw [List.filter_cons_of_pos (by simpa using hle),
        List.filter_cons_of_neg (by simpa using hle), List.cons_append, ih hrest]
    · -- everything after `x` is behind the cursor as well
      have hlt : cursor < x := not_le.mp hle
      have hnone : (x :: rest).filter (fun y => decide (y ≤ cursor)) = [] := by
        apply List.filter_eq_nil_iff.mpr
        intro y hy
        rcases List.mem_cons.mp hy with rfl | hy
        · simpa using hlt
        · simpa using hlt.trans (hx y hy)
      have hall : (x :: rest).filter (fun y => decide (cursor < y)) = x :: rest := by
        apply List.filter_eq_self.mpr
        intro y hy
        rcases List.mem_cons.mp hy with rfl | hy
        · simpa using hlt
        · simpa using hlt.trans (hx y hy)
      rw [hnone, hall, List.nil_append]

/-- What a round at the cursor can take: a start of the elements behind the cursor or, when there
is none, of the whole list. -/
def Takes (cursor : α) (due taken : List α) : Prop :=
  taken <+: due.filter (cursor < ·) ∨ due.filter (cursor < ·) = [] ∧ taken <+: due

/-- A round leaves the rest of the queue as it is and puts the elements it has taken, so far as
they are still due, at its end. -/
theorem queueAt_takes {last : α} {taken : List α} {keep : α → Bool} (hsorted : due.Pairwise (· < ·))
    (htakes : Takes cursor due taken) (hlast : taken.getLast? = some last)
    (hkeep : ∀ x ∈ due, x ∉ taken → keep x = true) :
    ∃ rest, queueAt cursor due = taken ++ rest ∧
      queueAt last (due.filter keep) = rest ++ taken.filter keep := by
  -- the list is a front that comes last, what is taken, and a back that comes next
  obtain ⟨front, back, hdue, hqueue⟩ : ∃ front back, due = (front ++ taken) ++ back ∧
      queueAt cursor due = taken ++ (back ++ front) := by
    rcases htakes with ⟨back, hback⟩ | ⟨hnone, back, hback⟩
    · refine ⟨due.filter (· ≤ cursor), back, ?_, ?_⟩
      · rw [List.append_assoc, hback]
        exact (filter_append_filter_of_sorted hsorted).symm
      · rw [queueAt, ← hback, List.append_assoc]
    · refine ⟨[], back, hback.symm, ?_⟩
      have hall : due.filter (· ≤ cursor) ++ due.filter (cursor < ·) = due :=
        filter_append_filter_of_sorted hsorted
      rw [hnone, List.append_nil] at hall
      rw [queueAt, hnone, hall, List.nil_append, List.append_nil, hback]
  refine ⟨back ++ front, hqueue, ?_⟩
  rw [hdue] at hsorted hkeep
  obtain ⟨hleft, -, hcross⟩ := List.pairwise_append.mp hsorted
  obtain ⟨-, htaken, hfront⟩ := List.pairwise_append.mp hleft
  have hmem : last ∈ taken := List.mem_of_getLast? hlast
  have hnodup : ∀ x, x ∈ front ∨ x ∈ back → x ∉ taken := by
    rintro x (hx | hx) hin
    · exact lt_irrefl x (hfront x hx x hin)
    · exact lt_irrefl x (hcross x (List.mem_append_right _ hin) x hx)
  have hkept : ∀ l : List α, (∀ x ∈ l, x ∈ front ∨ x ∈ back) → l.filter keep = l := by
    intro l hl
    apply List.filter_eq_self.mpr
    intro x hx
    refine hkeep x ?_ (hnodup x (hl x hx))
    rcases hl x hx with h | h <;> simp [h]
  rw [hdue, List.filter_append, List.filter_append, hkept front fun x hx => Or.inl hx,
    hkept back fun x hx => Or.inr hx, queueAt_cut, List.append_assoc]
  · intro x hx
    rcases List.mem_append.mp hx with hx | hx
    · exact (hfront x hx last hmem).le
    · -- the last of a sorted list is its greatest element
      obtain ⟨init, rfl⟩ := List.getLast?_eq_some_iff.mp hlast
      rcases List.mem_append.mp (List.mem_of_mem_filter hx) with hx | hx
      · exact ((List.pairwise_append.mp htaken).2.2 x hx last (by simp)).le
      · exact (List.mem_singleton.mp hx).le
  · intro x hx
    exact hcross last (List.mem_append_right _ hmem) x hx

end Cursor

end AgentGateway.Lib
