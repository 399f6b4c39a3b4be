import Mathlib

/-!
# Python values and text

The dynamically typed values the gateway validates, and the `str` operations it relies on. A
Python `str` is a sequence of code points, and Lean's `String` one of those that are no surrogates;
`TextEncoding` of `Lib.Pydantic` is for the texts in which the difference matters.
-/

namespace AgentGateway.Lib

/-- A Python value as far as an `isinstance` check can tell it apart. `object` is any value that
is neither `None` nor a `bool`, `int` or `str`. -/
inductive PyValue
  | none
  | bool (value : Bool)
  | int (value : Int)
  | str (value : String)
  | object
  deriving DecidableEq, Repr

namespace PyValue

/-- The Python value of an optional string. -/
def ofOptionStr : Option String → PyValue
  | Option.none => none
  | some value => str value

/-- `isinstance(value, int)` without the booleans, which are instances of `int` too. -/
def asInt? : PyValue → Option Int
  | int value => some value
  | _ => Option.none

end PyValue

/-- A timezone-aware `datetime`, in microseconds from a fixed instant. -/
abbrev Timestamp := Int

/-! ## Text -/

/-- A statement about the characters of a text is decided by trying those, not all characters
there are. -/
instance decidableForallMemChar (p : Char → Prop) [DecidablePred p] (l : List Char) :
    Decidable (∀ c ∈ l, p c) :=
  List.decidableBAll p l

/-- The code points `str.strip` removes. -/
def isSpace (c : Char) : Bool :=
  (0x09 ≤ c.toNat && c.toNat ≤ 0x0D) || (0x1C ≤ c.toNat && c.toNat ≤ 0x20) ||
  c.toNat == 0x85 || c.toNat == 0xA0 || c.toNat == 0x1680 ||
  (0x2000 ≤ c.toNat && c.toNat ≤ 0x200A) || c.toNat == 0x2028 || c.toNat == 0x2029 ||
  c.toNat == 0x202F || c.toNat == 0x205F || c.toNat == 0x3000

/-- `str.strip()`. -/
def strip (s : String) : String :=
  String.ofList (((s.toList.dropWhile isSpace).reverse.dropWhile isSpace).reverse)

/-- `not value.strip()`. -/
def IsBlank (s : String) : Prop := strip s = ""

instance : DecidablePred IsBlank := fun s => inferInstanceAs (Decidable (strip s = ""))

/-- Text without white space is left as it is. -/
lemma strip_eq_self {s : String} (h : ∀ c ∈ s.toList, isSpace c = false) : strip s = s := by
  have hhead : s.toList.dropWhile isSpace = s.toList :=
    List.dropWhile_eq_self_iff.mpr fun hlength => by
      rw [h _ (List.getElem_mem hlength)]
      exact Bool.false_ne_true
  have hlast : s.toList.reverse.dropWhile isSpace = s.toList.reverse :=
    List.dropWhile_eq_self_iff.mpr fun hlength => by
      rw [h _ (List.mem_reverse.mp (List.getElem_mem hlength))]
      exact Bool.false_ne_true
  rw [strip, hhead, hlast, List.reverse_reverse, String.ofList_toList]

/-- Stripping twice is stripping once. -/
lemma strip_strip (s : String) : strip (strip s) = strip s := by
  set front := s.toList.dropWhile isSpace with hfront
  have htext : (strip s).toList = front.rdropWhile isSpace := String.toList_ofList
  -- what is left begins where the front began, with no white space
  have hhead : (front.rdropWhile isSpace).dropWhile isSpace = front.rdropWhile isSpace := by
    refine List.dropWhile_eq_self_iff.mpr fun hlength => ?_
    have hkept := List.rdropWhile_prefix isSpace front
    have hself : front.dropWhile isSpace = front := List.dropWhile_idempotent isSpace s.toList
    rw [hkept.getElem hlength]
    exact List.dropWhile_eq_self_iff.mp hself (hlength.trans_le hkept.length_le)
  have hagain : strip (strip s) =
      String.ofList (((strip s).toList.dropWhile isSpace).rdropWhile isSpace) := rfl
  rw [hagain, htext, hhead, List.rdropWhile_idempotent]
  rfl

/-! ## Raising -/

/-- `if condition: raise error`. -/
def raiseIf {ε : Type} (condition : Prop) [Decidable condition] (error : ε) : Except ε Unit :=
  if condition then .error error else .ok ()

variable {condition : Prop}

lemma raiseIf_of {ε : Type} [Decidable condition] {error : ε} (h : condition) :
    raiseIf condition error = .error error := if_pos h

lemma raiseIf_of_not {ε : Type} [Decidable condition] {error : ε} (h : ¬ condition) :
    raiseIf condition error = .ok () := if_neg h

@[simp] lemma raiseIf_eq_ok {ε : Type} [Decidable condition] {error : ε} {u : Unit} :
    raiseIf condition error = .ok u ↔ ¬ condition := by
  unfold raiseIf
  split_ifs with h <;> simp [h]

@[simp] lemma raiseIf_eq_error {ε : Type} [Decidable condition] {error e : ε} :
    raiseIf condition error = .error e ↔ condition ∧ error = e := by
  unfold raiseIf
  split_ifs with h <;> simp [h]

/-- A computation that may raise succeeds exactly when its first half and then its second half
do; the rule that takes a validation apart into the checks it passed. -/
lemma bind_eq_ok {ε α β : Type} {x : Except ε α} {f : α → Except ε β} {b : β} :
    (x >>= f) = .ok b ↔ ∃ a, x = .ok a ∧ f a = .ok b := by
  cases x with
  | error e => simp [bind, Except.bind]
  | ok a => simp [bind, Except.bind]

/-- Where an error comes from: the first half raised it, or the second half did. -/
lemma bind_eq_error {ε α β : Type} {x : Except ε α} {f : α → Except ε β} {e : ε} :
    (x >>= f) = .error e ↔ x = .error e ∨ ∃ a, x = .ok a ∧ f a = .error e := by
  cases x with
  | error e' => simp [bind, Except.bind]
  | ok a => simp [bind, Except.bind]

/-- The same rule for a result that is only rewrapped. -/
lemma map_eq_ok {ε α β : Type} {x : Except ε α} {f : α → β} {b : β} :
    (f <$> x) = .ok b ↔ ∃ a, x = .ok a ∧ f a = b := by
  cases x with
  | error e => simp
  | ok a => simp

/-- A value that must be there. -/
def raiseIfNone {ε α : Type} (value : Option α) (error : ε) : Except ε α :=
  match value with
  | none => .error error
  | some a => .ok a

lemma raiseIfNone_eq_ok {ε α : Type} {value : Option α} {error : ε} {a : α} :
    raiseIfNone value error = .ok a ↔ value = some a := by
  cases value <;> simp [raiseIfNone]

lemma raiseIfNone_eq_error {ε α : Type} {value : Option α} {error e : ε} :
    raiseIfNone value error = .error e ↔ value = none ∧ error = e := by
  cases value <;> simp [raiseIfNone]

/-- A computation that has been seen not to raise has a result. -/
lemma exists_of_isOk {ε α : Type} {x : Except ε α} (h : x.isOk = true) : ∃ a, x = .ok a := by
  cases x with
  | error e => cases h
  | ok a => exact ⟨a, rfl⟩

/-- Every error this computation can raise is one of these. -/
def RaisesOnly {ε α : Type} (P : ε → Prop) (x : Except ε α) : Prop :=
  ∀ error, x = .error error → P error

section RaisesOnly

variable {ε ε' α β : Type} {P : ε → Prop} {Q : ε' → Prop} {x : Except ε α}
  {f : α → Except ε β} {error : ε}

lemma raisesOnly_ok (a : α) : RaisesOnly P (.ok a) := by
  intro error h
  cases h

lemma raisesOnly_error (h : P error) : RaisesOnly P (.error error : Except ε α) := by
  intro error' h'
  cases h'
  exact h

lemma raisesOnly_raiseIf [Decidable condition] (h : P error) :
    RaisesOnly P (raiseIf condition error) := by
  intro error' h'
  obtain ⟨-, rfl⟩ := raiseIf_eq_error.mp h'
  exact h

lemma RaisesOnly.bind (hx : RaisesOnly P x) (hf : ∀ a, x = .ok a → RaisesOnly P (f a)) :
    RaisesOnly P (x >>= f) := by
  intro error h
  rcases bind_eq_error.mp h with h | ⟨a, ha, h⟩
  · exact hx error h
  · exact hf a ha error h

/-- A check that raises an allowed error, and what follows it. -/
lemma RaisesOnly.check [Decidable condition] {f : Unit → Except ε β} (h : P error)
    (hf : ¬ condition → RaisesOnly P (f ())) : RaisesOnly P (raiseIf condition error >>= f) :=
  (raisesOnly_raiseIf h).bind fun _ hok => hf (raiseIf_eq_ok.mp hok)

lemma RaisesOnly.mapError {g : ε → ε'} (hx : RaisesOnly P x) (hg : ∀ error, P error → Q (g error)) :
    RaisesOnly Q (x.mapError g) := by
  intro error h
  cases x with
  | ok a => cases h
  | error raised =>
    cases h
    exact hg raised (hx raised rfl)

end RaisesOnly

end AgentGateway.Lib
