import Mathlib

/-!
# Tables and guarded updates

A database table is the list of its rows. An `UPDATE … WHERE` statement rewrites the rows that
match and reports how many did; a store method that must hit exactly one row checks that count.

* `updateWhere` and `rowcount` are the two halves of an `UPDATE` statement,
* `guardedUpdate` is the statement with the `rowcount == 1` check behind it,
* `UniqueKeys` is the primary key, which every update that keeps the key keeps.
-/

namespace AgentGateway.Lib

/-- A row of a table to which one row has been added is an old one or that one. -/
lemma mem_concat {α : Type*} {a b : α} {rows : List α} : a ∈ rows ++ [b] ↔ a ∈ rows ∨ a = b := by
  rw [List.mem_append, List.mem_singleton]

namespace Table

variable {ρ κ : Type*} {rows rows' : List ρ} {p : ρ → Prop} [DecidablePred p] {f : ρ → ρ}
  {key : ρ → κ} {row' : ρ}

/-- The rows after `UPDATE … SET f WHERE p`. -/
def updateWhere (p : ρ → Prop) [DecidablePred p] (f : ρ → ρ) (rows : List ρ) : List ρ :=
  rows.map fun row => if p row then f row else row

/-- How many rows the statement matched. -/
def rowcount (p : ρ → Prop) [DecidablePred p] (rows : List ρ) : ℕ :=
  rows.countP fun row => decide (p row)

/-- An `UPDATE` that must match exactly one row; otherwise it is rolled back. -/
def guardedUpdate (p : ρ → Prop) [DecidablePred p] (f : ρ → ρ) (rows : List ρ) :
    Option (List ρ) :=
  if rowcount p rows = 1 then some (updateWhere p f rows) else none

/-- The primary key constraint. -/
def UniqueKeys (key : ρ → κ) (rows : List ρ) : Prop := (rows.map key).Nodup

lemma mem_updateWhere :
    row' ∈ updateWhere p f rows ↔ ∃ row ∈ rows, (if p row then f row else row) = row' := by
  simp only [updateWhere, List.mem_map]

variable {row new : ρ} {k : κ}

/-- A row that does not match is still there. -/
lemma mem_updateWhere_of_not (hmem : row ∈ rows) (hp : ¬ p row) :
    row ∈ updateWhere p f rows :=
  mem_updateWhere.mpr ⟨row, hmem, if_neg hp⟩

/-- A row that matches is there in its new form. -/
lemma mem_updateWhere_of_pos (hmem : row ∈ rows) (hp : p row) :
    f row ∈ updateWhere p f rows :=
  mem_updateWhere.mpr ⟨row, hmem, if_pos hp⟩

/-- Where an updated row comes from. -/
lemma updateWhere_cases (h : row' ∈ updateWhere p f rows) :
    (row' ∈ rows ∧ ¬ p row') ∨ ∃ row ∈ rows, p row ∧ row' = f row := by
  obtain ⟨row, hmem, rfl⟩ := mem_updateWhere.mp h
  by_cases hp : p row
  · exact Or.inr ⟨row, hmem, hp, if_pos hp⟩
  · rw [if_neg hp]
    exact Or.inl ⟨hmem, hp⟩

lemma updateWhere_eq_self (h : ∀ row ∈ rows, ¬ p row) : updateWhere p f rows = rows := by
  have hmap : rows.map (fun row => if p row then f row else row) = rows.map id :=
    List.map_congr_left fun row hmem => if_neg (h row hmem)
  rw [updateWhere, hmap, List.map_id]

lemma map_key_updateWhere (hf : ∀ row, key (f row) = key row) :
    (updateWhere p f rows).map key = rows.map key := by
  rw [updateWhere, List.map_map]
  refine List.map_congr_left fun row _ => ?_
  rw [Function.comp_apply]
  split_ifs
  · exact hf row
  · rfl

lemma UniqueKeys.updateWhere (h : UniqueKeys key rows) (hf : ∀ row, key (f row) = key row) :
    UniqueKeys key (updateWhere p f rows) := by
  unfold UniqueKeys
  rw [map_key_updateWhere hf]
  exact h

/-- A row with a new key can be added. -/
lemma UniqueKeys.append (h : UniqueKeys key rows) (hfresh : ∀ other ∈ rows, key other ≠ key row) :
    UniqueKeys key (rows ++ [row]) := by
  unfold UniqueKeys
  rw [List.map_append, List.map_cons, List.map_nil]
  refine List.Nodup.append h (List.nodup_singleton _) ?_
  intro k hk hk'
  obtain ⟨other, hmem, rfl⟩ := List.mem_map.mp hk
  exact hfresh other hmem (List.mem_singleton.mp hk')

/-- Two rows with the same key are one row. -/
lemma UniqueKeys.eq_of_key_eq (h : UniqueKeys key rows) {a b : ρ} (ha : a ∈ rows)
    (hb : b ∈ rows) (hkey : key a = key b) : a = b :=
  List.inj_on_of_nodup_map h ha hb hkey

lemma exists_of_rowcount_eq_one (hone : rowcount p rows = 1) : ∃ row ∈ rows, p row := by
  have hpos : 0 < rows.countP fun row => decide (p row) := by
    rw [rowcount] at hone
    omega
  obtain ⟨row, hmem, hp⟩ := List.countP_pos_iff.mp hpos
  exact ⟨row, hmem, of_decide_eq_true hp⟩

/-- A statement whose guard pins the key matches one row as soon as it matches any. -/
lemma rowcount_eq_one_iff (h : UniqueKeys key rows) (hkey : ∀ row, p row → key row = k) :
    rowcount p rows = 1 ↔ ∃ row ∈ rows, p row := by
  constructor
  · exact exists_of_rowcount_eq_one
  · rintro ⟨row, hmem, hp⟩
    -- the other rows have other keys, so none of them matches
    have hothers : ∀ other ∈ rows, p other → other = row := fun other hother hpo =>
      h.eq_of_key_eq hother hmem ((hkey other hpo).trans (hkey row hp).symm)
    have hnodup : rows.Nodup := List.Nodup.of_map key h
    obtain ⟨front, back, rfl⟩ := List.append_of_mem hmem
    have hrow : row ∉ front ∧ row ∉ back := by
      rw [List.nodup_middle, List.nodup_cons, List.mem_append, not_or] at hnodup
      exact hnodup.1
    have hzero : ∀ part : List ρ, part ⊆ front ++ row :: back → row ∉ part →
        part.countP (fun row => decide (p row)) = 0 := by
      intro part hsub hnot
      refine List.countP_eq_zero.mpr fun other hother hpo => hnot ?_
      rwa [← hothers other (hsub hother) (of_decide_eq_true hpo)]
    rw [rowcount, List.countP_append, List.countP_cons,
      hzero front (List.subset_append_left _ _) hrow.1,
      hzero back (fun _ hb => List.mem_append_right _ (List.mem_cons_of_mem _ hb)) hrow.2]
    simp [hp]

/-- What a guarded update has done when it succeeds. -/
lemma guardedUpdate_eq_some (h : guardedUpdate p f rows = some rows') :
    rows' = updateWhere p f rows ∧ ∃ row ∈ rows, p row := by
  unfold guardedUpdate at h
  split_ifs at h with hone
  exact ⟨(Option.some.inj h).symm, exists_of_rowcount_eq_one hone⟩

/-- A guarded update that pins the key succeeds as soon as a row matches. -/
lemma guardedUpdate_of_mem (h : UniqueKeys key rows) (hkey : ∀ row, p row → key row = k)
    (hmem : row ∈ rows) (hp : p row) : guardedUpdate p f rows = some (updateWhere p f rows) :=
  if_pos ((rowcount_eq_one_iff h hkey).mpr ⟨row, hmem, hp⟩)

/-- Only one row has the key, so the update can name what it becomes. -/
lemma UniqueKeys.updateWhere_const [DecidableEq κ] (h : UniqueKeys key rows) (hmem : row ∈ rows) :
    Table.updateWhere (fun other => key other = key row) f rows =
      Table.updateWhere (fun other => key other = key row) (fun _ => f row) rows := by
  refine List.map_congr_left fun other hother => ?_
  by_cases hkey : key other = key row
  · rw [if_pos hkey, if_pos hkey, h.eq_of_key_eq hother hmem hkey]
  · rw [if_neg hkey, if_neg hkey]

/-- Rewriting a row by itself changes nothing. -/
lemma UniqueKeys.updateWhere_self [DecidableEq κ] (h : UniqueKeys key rows) (hmem : row ∈ rows) :
    Table.updateWhere (fun other => key other = key row) (fun _ => row) rows = rows := by
  have hconst := h.updateWhere_const (f := id) hmem
  refine hconst.symm.trans ?_
  exact (List.map_congr_left fun other _ => ite_self other).trans (List.map_id rows)

/-- A lookup by a unique key finds the row. -/
lemma UniqueKeys.find?_eq [DecidableEq κ] (h : UniqueKeys key rows) (hmem : row ∈ rows) :
    rows.find? (fun other => key other = key row) = some row := by
  cases hfind : rows.find? (fun other => key other = key row) with
  | none => exact absurd (decide_eq_true rfl) (List.find?_eq_none.mp hfind row hmem)
  | some other =>
    have hkey : key other = key row := by simpa using List.find?_some hfind
    rw [h.eq_of_key_eq (List.mem_of_find?_eq_some hfind) hmem hkey]

/-- Replacing a row keeps every column in which the two rows agree. -/
lemma UniqueKeys.map_replace [DecidableEq κ] {β : Type*} {column : ρ → β} (h : UniqueKeys key rows)
    (hmem : row ∈ rows) (hnew : column new = column row) :
    (Table.updateWhere (fun other => key other = key row) (fun _ => new) rows).map column =
      rows.map column := by
  unfold Table.updateWhere
  rw [List.map_map]
  refine List.map_congr_left fun other hother => ?_
  rw [Function.comp_apply]
  split_ifs with hkey
  · rw [hnew, h.eq_of_key_eq hother hmem hkey]
  · rfl

/-- A row can be replaced by one with the same key. -/
lemma UniqueKeys.replace [DecidableEq κ] (h : UniqueKeys key rows) (hmem : row ∈ rows)
    (hkey : key new = key row) :
    UniqueKeys key (Table.updateWhere (fun other => key other = key row) (fun _ => new) rows) := by
  unfold UniqueKeys
  rw [h.map_replace hmem hkey]
  exact h

/-- The rows after one of them has been replaced. -/
lemma mem_replace [DecidableEq κ] {other : ρ} (hmem : row ∈ rows) :
    other ∈ Table.updateWhere (fun row' => key row' = key row) (fun _ => new) rows ↔
      other = new ∨ other ∈ rows ∧ key other ≠ key row := by
  constructor
  · intro h
    rcases updateWhere_cases h with hold | ⟨-, -, -, rfl⟩
    · exact Or.inr hold
    · exact Or.inl rfl
  · rintro (rfl | ⟨hother, hkey⟩)
    · exact mem_updateWhere_of_pos hmem rfl
    · exact mem_updateWhere_of_not hother hkey

/-- A lookup finds the row that has been put in place of another. -/
lemma UniqueKeys.find?_replace [DecidableEq κ] (h : UniqueKeys key rows) (hmem : row ∈ rows)
    (hkey : key new = key row) :
    (Table.updateWhere (fun other => key other = key row) (fun _ => new) rows).find?
      (fun other => key other = key row) = some new := by
  have hnew : new ∈ Table.updateWhere (fun other => key other = key row) (fun _ => new) rows :=
    mem_updateWhere_of_pos hmem rfl
  have hfind := (h.replace hmem hkey).find?_eq hnew
  rwa [hkey] at hfind

/-- An update that keeps the key commutes with a selection by the key. -/
lemma filter_updateWhere {q : ρ → Prop} [DecidablePred q] (hq : ∀ row, q (f row) ↔ q row) :
    (updateWhere p f rows).filter (fun row => q row) =
      updateWhere p f (rows.filter fun row => q row) := by
  unfold updateWhere
  rw [List.filter_map]
  refine congrArg _ (List.filter_congr fun row _ => ?_)
  simp only [Function.comp_apply]
  split_ifs
  · exact decide_eq_decide.mpr (hq row)
  · rfl

/-- A lookup finds the updated form of the row it found before. -/
lemma find?_updateWhere {q : ρ → Bool} (hq : ∀ row, q (f row) = q row) :
    (updateWhere p f rows).find? q =
      (rows.find? q).map fun row => if p row then f row else row := by
  have hsame : (q ∘ fun row => if p row then f row else row) = q := by
    funext row
    simp only [Function.comp_apply]
    split_ifs
    · exact hq row
    · rfl
  rw [updateWhere, List.find?_map, hsame]

/-- A guarded update that pins the key of a row is decided by that row. -/
lemma UniqueKeys.guardedUpdate_eq [DecidableEq κ] (h : UniqueKeys key rows) (hmem : row ∈ rows)
    {guard : ρ → Prop} [DecidablePred guard] :
    guardedUpdate (fun other => key other = key row ∧ guard other) f rows =
      if guard row then some (Table.updateWhere (fun other => key other = key row) f rows)
      else none := by
  have hpin : ∀ other ∈ rows, key other = key row → other = row := fun other hother hkey =>
    h.eq_of_key_eq hother hmem hkey
  split_ifs with hguard
  · rw [guardedUpdate_of_mem h (fun _ hother => hother.1) hmem ⟨rfl, hguard⟩]
    refine congrArg some (List.map_congr_left fun other hother => ?_)
    by_cases hkey : key other = key row
    · obtain rfl := hpin other hother hkey
      rw [if_pos ⟨hkey, hguard⟩, if_pos hkey]
    · rw [if_neg fun hboth => hkey hboth.1, if_neg hkey]
  · have hnone : ¬ ∃ other ∈ rows, key other = key row ∧ guard other := by
      rintro ⟨other, hother, hkey, hother'⟩
      obtain rfl := hpin other hother hkey
      exact hguard hother'
    rw [guardedUpdate, if_neg]
    exact fun hone => hnone (exists_of_rowcount_eq_one hone)

/-! ## Foreign keys -/

/-- A foreign key: every row of `others` refers to a row that is there. -/
def References {σ : Type*} (ref : σ → κ) (key : ρ → κ) (others : List σ) (rows : List ρ) : Prop :=
  ∀ other ∈ others, ∃ row ∈ rows, key row = ref other

section References

variable {σ : Type*} {ref : σ → κ} {others others' : List σ} {other : σ}

/-- A foreign key is about the two columns only. -/
lemma References.congr (h : References ref key others rows)
    (hothers : others'.map ref = others.map ref) (hrows : rows'.map key = rows.map key) :
    References ref key others' rows' := by
  intro other' hmem
  have href : ref other' ∈ others.map ref := hothers ▸ List.mem_map_of_mem hmem
  obtain ⟨other, hother, hsame⟩ := List.mem_map.mp href
  obtain ⟨row, hrow, hkey⟩ := h other hother
  rw [← List.mem_map, hrows, ← hsame, ← hkey]
  exact List.mem_map_of_mem hrow

lemma References.grow (h : References ref key others rows) (more : List ρ) :
    References ref key others (rows ++ more) := by
  intro other hmem
  obtain ⟨row, hrow, hkey⟩ := h other hmem
  exact ⟨row, List.mem_append_left _ hrow, hkey⟩

/-- A new row may refer to any row that is there. -/
lemma References.concat (h : References ref key others rows) (hrow : row ∈ rows)
    (hkey : key row = ref other) : References ref key (others ++ [other]) rows := by
  intro other' hmem
  rcases mem_concat.mp hmem with hold | rfl
  · exact h other' hold
  · exact ⟨row, hrow, hkey⟩

end References

/-! ## Counting rows -/

lemma rowcount_append (rows rows' : List ρ) :
    rowcount p (rows ++ rows') = rowcount p rows + rowcount p rows' :=
  List.countP_append

@[simp] lemma rowcount_nil : rowcount p ([] : List ρ) = 0 := rfl

lemma rowcount_cons (row : ρ) (rows : List ρ) :
    rowcount p (row :: rows) = rowcount p rows + if p row then 1 else 0 := by
  simp [rowcount, List.countP_cons]

lemma rowcount_eq_zero : rowcount p rows = 0 ↔ ∀ row ∈ rows, ¬ p row := by
  simp [rowcount, List.countP_eq_zero]

/-- At most one row has the key. -/
lemma UniqueKeys.rowcount_le_one (h : UniqueKeys key rows) (hkey : ∀ row, p row → key row = k) :
    rowcount p rows ≤ 1 := by
  by_cases hex : ∃ row ∈ rows, p row
  · exact ((rowcount_eq_one_iff h hkey).mpr hex).le
  · have hzero : rowcount p rows = 0 :=
      rowcount_eq_zero.mpr fun row hrow hp => hex ⟨row, hrow, hp⟩
    omega

/-- An update that pins the key rewrites one row and leaves those around it. -/
lemma UniqueKeys.updateWhere_split [DecidableEq κ] {front back : List ρ}
    (h : UniqueKeys key (front ++ row :: back)) :
    Table.updateWhere (fun other => key other = key row) f (front ++ row :: back) =
      front ++ f row :: back := by
  have hkeys := h
  rw [UniqueKeys, List.map_append, List.map_cons, List.nodup_middle, List.nodup_cons] at hkeys
  have hother : ∀ other ∈ front ++ back, ¬ key other = key row := by
    intro other hmem hkey
    refine hkeys.1 ?_
    rw [← List.map_append, ← hkey]
    exact List.mem_map_of_mem hmem
  have hfront : Table.updateWhere (fun other => key other = key row) f front = front :=
    updateWhere_eq_self fun other hmem => hother other (List.mem_append_left _ hmem)
  have hback : Table.updateWhere (fun other => key other = key row) f back = back :=
    updateWhere_eq_self fun other hmem => hother other (List.mem_append_right _ hmem)
  unfold Table.updateWhere at hfront hback ⊢
  rw [List.map_append, List.map_cons, hfront, hback, if_pos rfl]

/-- How an update of one row changes a count. -/
lemma UniqueKeys.rowcount_updateWhere [DecidableEq κ] (h : UniqueKeys key rows) (hmem : row ∈ rows) :
    rowcount p (Table.updateWhere (fun other => key other = key row) f rows) +
        (if p row then 1 else 0) =
      rowcount p rows + if p (f row) then 1 else 0 := by
  obtain ⟨front, back, rfl⟩ := List.append_of_mem hmem
  rw [h.updateWhere_split]
  simp only [rowcount_append, rowcount_cons]
  omega

end Table
end AgentGateway.Lib
