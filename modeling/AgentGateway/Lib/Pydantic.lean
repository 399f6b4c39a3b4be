import AgentGateway.Lib.Python

/-!
# Text fields of pydantic models

A model with `str_strip_whitespace` trims its texts before it checks their lengths. It trims less
than `str.strip` does: the four separators from U+001C on are not white space for it.
-/

namespace AgentGateway.Lib

/-- `ValidationError`, which nothing looks into. -/
structure ModelError where
  deriving DecidableEq, Repr

/-- The characters with the property White_Space. -/
def isWhiteSpace (c : Char) : Bool :=
  (0x09 ≤ c.toNat && c.toNat ≤ 0x0D) || c.toNat == 0x20 || c.toNat == 0x85 || c.toNat == 0xA0 ||
  c.toNat == 0x1680 || (0x2000 ≤ c.toNat && c.toNat ≤ 0x200A) || c.toNat == 0x2028 ||
  c.toNat == 0x2029 || c.toNat == 0x202F || c.toNat == 0x205F || c.toNat == 0x3000

/-- `str_strip_whitespace`. -/
def trim (s : String) : String :=
  String.ofList ((s.toList.dropWhile isWhiteSpace).rdropWhile isWhiteSpace)

/-- A text field with `min_length=1` and a `max_length`. -/
def constrStr (maxLength : ℕ) (value : String) : Except ModelError String := do
  raiseIf ((trim value).length < 1 ∨ maxLength < (trim value).length) ⟨⟩
  return trim value

lemma constrStr_eq_ok {maxLength : ℕ} {value text : String} :
    constrStr maxLength value = .ok text ↔
      1 ≤ text.length ∧ text.length ≤ maxLength ∧ text = trim value := by
  simp only [constrStr, bind_eq_ok, raiseIf_eq_ok]
  constructor
  · rintro ⟨-, hlength, h⟩
    cases h
    push Not at hlength
    exact ⟨hlength.1, hlength.2, rfl⟩
  · rintro ⟨hmin, hmax, rfl⟩
    exact ⟨(), by push Not; exact ⟨hmin, hmax⟩, rfl⟩

/-- Which texts can be encoded in UTF-8. A Python `str` may hold lone surrogates, which JSON escapes
bring in, and a Lean `String` may not: a text with some is written with other characters in their
place, and `encodes` tells those texts from the rest. -/
structure TextEncoding where
  encodes : String → Bool
  /-- ASCII texts hold no surrogates -/
  ascii : ∀ text : String, (∀ c ∈ text.toList, c.toNat < 128) → encodes text = true

/-! ## Lists -/

/-- A list is valid if each item is. -/
lemma mapM_eq_ok {ε α β : Type} {f : α → Except ε β} {items : List α} {values : List β} :
    items.mapM f = .ok values ↔ List.Forall₂ (fun item value => f item = .ok value) items values := by
  induction items generalizing values with
  | nil =>
    rw [List.mapM_nil, List.forall₂_nil_left_iff]
    exact ⟨fun h => (Except.ok.inj h).symm, fun h => congrArg Except.ok h.symm⟩
  | cons item items ih =>
    simp only [List.mapM_cons, bind_eq_ok, List.forall₂_cons_left_iff, ih]
    constructor
    · rintro ⟨value, hvalue, rest, hrest, h⟩
      exact ⟨value, rest, hvalue, hrest, (Except.ok.inj h).symm⟩
    · rintro ⟨value, rest, hvalue, hrest, rfl⟩
      exact ⟨value, hvalue, rest, hrest, rfl⟩

lemma exists_mem_of_forall₂ {α β : Type} {R : α → β → Prop} {l : List α} {l' : List β} {b : β}
    (h : List.Forall₂ R l l') (hb : b ∈ l') : ∃ a ∈ l, R a b := by
  induction h with
  | nil => cases hb
  | @cons a b' l l' hab hrest ih =>
    rcases List.mem_cons.mp hb with rfl | hb
    · exact ⟨a, List.mem_cons_self, hab⟩
    · obtain ⟨a', ha', hr⟩ := ih hb
      exact ⟨a', List.mem_cons_of_mem _ ha', hr⟩

lemma exists_forall₂_of_forall_mem {α β : Type} {R : α → β → Prop} {l : List α}
    (h : ∀ a ∈ l, ∃ b, R a b) : ∃ l', List.Forall₂ R l l' := by
  induction l with
  | nil => exact ⟨[], List.Forall₂.nil⟩
  | cons a l ih =>
    obtain ⟨b, hb⟩ := h a List.mem_cons_self
    obtain ⟨l', hl'⟩ := ih fun a ha => h a (List.mem_cons_of_mem _ ha)
    exact ⟨b :: l', List.Forall₂.cons hb hl'⟩

/-- The rows that stand for one another are found by the same test. -/
lemma find?_forall₂ {α : Type} {R : α → α → Prop} {p : α → Bool} {l l' : List α}
    (h : List.Forall₂ R l l') (hp : ∀ a b, R a b → p a = p b) :
    Option.Rel R (l.find? p) (l'.find? p) := by
  induction h with
  | nil => exact Option.Rel.none
  | @cons a b l l' hab hrest ih =>
    rw [List.find?_cons, List.find?_cons, hp a b hab]
    cases p b with
    | true => exact Option.Rel.some hab
    | false => exact ih

/-! ## Trimming and stripping -/

lemma isSpace_of_isWhiteSpace {c : Char} (h : isWhiteSpace c = true) : isSpace c = true := by
  simp only [isWhiteSpace, isSpace, Bool.or_eq_true, Bool.and_eq_true, decide_eq_true_eq,
    beq_iff_eq] at h ⊢
  omega

section List

variable {α : Type} {p q : α → Bool} {l t : List α}

lemma rdropWhile_append_of_all (h : ∀ a ∈ t, p a = true) :
    (l ++ t).rdropWhile p = l.rdropWhile p := by
  rw [List.rdropWhile, List.reverse_append, List.dropWhile_append_of_pos]
  · rfl
  · intro a ha
    exact h a (List.mem_reverse.mp ha)

lemma dropWhile_dropWhile_of_imp (h : ∀ a, q a = true → p a = true) :
    (l.dropWhile q).dropWhile p = l.dropWhile p := by
  induction l with
  | nil => rfl
  | cons a l ih =>
    by_cases hq : q a = true
    · rw [List.dropWhile_cons_of_pos hq, List.dropWhile_cons_of_pos (h a hq), ih]
    · rw [List.dropWhile_cons_of_neg hq]

/-- What is at the end and would be dropped anyway can be dropped first. -/
lemma strip_append_of_all (h : ∀ a ∈ t, p a = true) :
    ((l ++ t).dropWhile p).rdropWhile p = (l.dropWhile p).rdropWhile p := by
  rw [List.dropWhile_append]
  split
  · rename_i hempty
    have hnil : l.dropWhile p = [] := List.isEmpty_iff.mp hempty
    rw [hnil, List.dropWhile_eq_nil_iff.mpr h]
  · exact rdropWhile_append_of_all h

end List

/-- Trimming first makes no difference to stripping. -/
lemma strip_trim (s : String) : strip (trim s) = strip s := by
  set m := s.toList.dropWhile isWhiteSpace with hm
  have hstrip : ∀ t : String,
      strip t = String.ofList ((t.toList.dropWhile isSpace).rdropWhile isSpace) := fun _ => rfl
  have htail : ∀ c ∈ m.rtakeWhile isWhiteSpace, isSpace c = true := by
    intro c hc
    exact isSpace_of_isWhiteSpace (List.mem_rtakeWhile_imp hc)
  have hsplit : m.rdropWhile isWhiteSpace ++ m.rtakeWhile isWhiteSpace = m :=
    List.rdropWhile_append_rtakeWhile
  rw [hstrip, hstrip, trim, ← hm, String.toList_ofList, ← strip_append_of_all htail, hsplit, hm,
    dropWhile_dropWhile_of_imp fun _ => isSpace_of_isWhiteSpace]

/-- What has nothing to strip has nothing to trim. -/
lemma trim_eq_self {s : String} (h : strip s = s) : trim s = s := by
  have hlist : (s.toList.dropWhile isSpace).rdropWhile isSpace = s.toList := by
    conv_rhs => rw [← h]
    exact String.toList_ofList.symm
  have hlength := congrArg List.length hlist
  have hdrop : s.toList.dropWhile isSpace = s.toList := by
    refine (List.dropWhile_suffix isSpace).eq_of_length_le ?_
    rw [← hlength]
    exact (List.rdropWhile_prefix isSpace _).length_le
  rw [hdrop] at hlist
  have hfront : s.toList.dropWhile isWhiteSpace = s.toList := by
    refine List.dropWhile_eq_self_iff.mpr fun hpos hwhite => ?_
    exact List.dropWhile_eq_self_iff.mp hdrop hpos (isSpace_of_isWhiteSpace hwhite)
  have hback : s.toList.rdropWhile isWhiteSpace = s.toList := by
    refine List.rdropWhile_eq_self_iff.mpr fun hne hwhite => ?_
    exact List.rdropWhile_eq_self_iff.mp hlist hne (isSpace_of_isWhiteSpace hwhite)
  rw [trim, hfront, hback, String.ofList_toList]

lemma isBlank_trim {s : String} : IsBlank (trim s) ↔ IsBlank s := by
  rw [IsBlank, IsBlank, strip_trim]

end AgentGateway.Lib
