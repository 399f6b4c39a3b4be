import AgentGateway.Lib.Table

/-!
# Queries

What a query returns depends on the rows that it selects and on nothing else in the table: the other
rows may differ, and so may the order in which rows are stored, as long as the query sorts by
something unique or selects by a unique key.
-/

namespace AgentGateway.Lib
namespace Table

variable {ρ κ : Type*} {key : ρ → κ} {rows rows' : List ρ}

lemma UniqueKeys.nodup (h : UniqueKeys key rows) : rows.Nodup := List.Nodup.of_map key h

/-- `SELECT … WHERE p ORDER BY key`. -/
theorem filter_insertionSort_congr [LinearOrder κ] {p : ρ → Bool} (h : UniqueKeys key rows)
    (h' : UniqueKeys key rows') (hagree : ∀ row, p row = true → (row ∈ rows ↔ row ∈ rows')) :
    (rows.insertionSort fun a b => key a ≤ key b).filter p =
      (rows'.insertionSort fun a b => key a ≤ key b).filter p := by
  have : Std.Total fun a b : ρ => key a ≤ key b := ⟨fun a b => le_total (key a) (key b)⟩
  have : IsTrans ρ fun a b => key a ≤ key b := ⟨fun _ _ _ hab hbc => hab.trans hbc⟩
  have hmem : ∀ l : List ρ, ∀ row, row ∈ (l.insertionSort fun a b => key a ≤ key b).filter p ↔
      row ∈ l ∧ p row = true := by
    intro l row
    rw [List.mem_filter, (List.perm_insertionSort _ l).mem_iff]
  have hsorted : ∀ l : List ρ,
      ((l.insertionSort fun a b => key a ≤ key b).filter p).Pairwise fun a b => key a ≤ key b :=
    fun l => (List.pairwise_insertionSort _ l).filter _
  have hnodup : ∀ l : List ρ, l.Nodup →
      ((l.insertionSort fun a b => key a ≤ key b).filter p).Nodup :=
    fun l hl => ((List.perm_insertionSort _ l).nodup_iff.mpr hl).filter _
  refine List.Perm.eq_of_pairwise (fun a b ha hb hab hba => ?_) (hsorted rows) (hsorted rows') ?_
  · obtain ⟨ha, -⟩ := (hmem rows a).mp ha
    obtain ⟨hb, hp⟩ := (hmem rows' b).mp hb
    exact h.eq_of_key_eq ha ((hagree b hp).mpr hb) (le_antisymm hab hba)
  · refine (List.perm_ext_iff_of_nodup (hnodup rows h.nodup) (hnodup rows' h'.nodup)).mpr ?_
    intro row
    rw [hmem, hmem]
    exact and_congr_left fun hp => hagree row hp

/-- Sorted rows are those below a bound, and behind them the others. -/
theorem filter_lt_append_filter_le [LinearOrder κ] (h : rows.Pairwise fun a b => key a ≤ key b)
    (bound : κ) :
    (rows.filter fun row => key row < bound) ++ (rows.filter fun row => bound ≤ key row) =
      rows := by
  induction h with
  | nil => rfl
  | @cons row rows hrow _ ih =>
    rcases lt_or_ge (key row) bound with hlt | hge
    · rw [List.filter_cons_of_pos (by simpa using hlt),
        List.filter_cons_of_neg (by simpa using hlt), List.cons_append, ih]
    · have hnone : ∀ other ∈ row :: rows, bound ≤ key other := by
        intro other hother
        rcases List.mem_cons.mp hother with rfl | hother
        · exact hge
        · exact hge.trans (hrow other hother)
      rw [List.filter_eq_nil_iff.mpr fun other hother => by simpa using hnone other hother,
        List.filter_eq_self.mpr fun other hother => decide_eq_true (hnone other hother),
        List.nil_append]

/-- `SELECT … WHERE key = k`. -/
theorem filter_key_congr [DecidableEq κ] {k : κ} (h : UniqueKeys key rows)
    (h' : UniqueKeys key rows') (hagree : ∀ row, key row = k → (row ∈ rows ↔ row ∈ rows')) :
    (rows.filter fun row => key row = k) = rows'.filter fun row => key row = k := by
  have hany : ∀ l : List ρ, l.Pairwise fun _ _ => True :=
    fun l => List.pairwise_of_forall fun _ _ => trivial
  refine List.Perm.eq_of_pairwise (fun a b ha hb _ _ => ?_) (hany _) (hany _) ?_
  · obtain ⟨ha, hka⟩ := List.mem_filter.mp ha
    obtain ⟨hb, hkb⟩ := List.mem_filter.mp hb
    have hka := of_decide_eq_true hka
    have hkb := of_decide_eq_true hkb
    exact h.eq_of_key_eq ha ((hagree b hkb).mpr hb) (hka.trans hkb.symm)
  · refine (List.perm_ext_iff_of_nodup (h.nodup.filter _) (h'.nodup.filter _)).mpr fun row => ?_
    rw [List.mem_filter, List.mem_filter]
    exact and_congr_left fun hk => hagree row (of_decide_eq_true hk)

/-- `SELECT … WHERE key = k`, for at most one row. -/
lemma UniqueKeys.find?_eq_some_iff [DecidableEq κ] {k : κ} {row : ρ} (h : UniqueKeys key rows) :
    rows.find? (fun other => key other = k) = some row ↔ row ∈ rows ∧ key row = k := by
  constructor
  · intro hfind
    exact ⟨List.mem_of_find?_eq_some hfind, by simpa using List.find?_some hfind⟩
  · rintro ⟨hmem, rfl⟩
    exact h.find?_eq hmem

end Table

/-- A loop that may raise reads nothing but the members of its list. -/
lemma mapM_congr {ε α β : Type} {f g : α → Except ε β} {l : List α} (h : ∀ x ∈ l, f x = g x) :
    l.mapM f = l.mapM g := by
  induction l with
  | nil => rfl
  | cons x l ih =>
    rw [List.mapM_cons, List.mapM_cons, h x List.mem_cons_self,
      ih fun y hy => h y (List.mem_cons_of_mem _ hy)]

end AgentGateway.Lib
