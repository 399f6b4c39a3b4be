import Mathlib

/-!
# Texts that can be read back

When two texts are equal because what they were made from is equal.

* `PrefixCode`: words none of which begins another, and `PrefixCode.flatMap_injective`,
* `joinWith`: segments with a separator between them, and `joinWith_inj`,
* `quote`: percent-encoding, which is a prefix code and hides every separator.
-/

namespace AgentGateway.Lib

/-! ## Prefix codes -/

section PrefixCode

variable {α β : Type}

/-- No word is empty, and what follows a word does not change how it is read. -/
structure PrefixCode (f : α → List β) : Prop where
  ne_nil : ∀ a, f a ≠ []
  read : ∀ a b l l', f a ++ l = f b ++ l' → a = b ∧ l = l'

/-- Words of a prefix code, one after the other, can be told apart. -/
lemma PrefixCode.flatMap_injective {f : α → List β} (hf : PrefixCode f) :
    Function.Injective (List.flatMap f) := by
  intro xs
  induction xs with
  | nil =>
    intro ys h
    cases ys with
    | nil => rfl
    | cons y ys =>
      rw [List.flatMap_nil, List.flatMap_cons] at h
      exact absurd (List.append_eq_nil_iff.mp h.symm).1 (hf.ne_nil y)
  | cons x xs ih =>
    intro ys h
    cases ys with
    | nil =>
      rw [List.flatMap_nil, List.flatMap_cons] at h
      exact absurd (List.append_eq_nil_iff.mp h).1 (hf.ne_nil x)
    | cons y ys =>
      rw [List.flatMap_cons, List.flatMap_cons] at h
      obtain ⟨rfl, hrest⟩ := hf.read x y _ _ h
      rw [ih hrest]

end PrefixCode

/-! ## Separators -/

/-- `separator.join(segments)`. -/
def joinWith (separator : Char) (segments : List String) : String :=
  String.ofList ([separator].intercalate (segments.map String.toList))

/-- Segments without the separator can be told apart. -/
lemma joinWith_inj {separator : Char} {xs ys : List String} (hx : xs ≠ []) (hy : ys ≠ [])
    (hxs : ∀ s ∈ xs, separator ∉ s.toList) (hys : ∀ s ∈ ys, separator ∉ s.toList) :
    joinWith separator xs = joinWith separator ys ↔ xs = ys := by
  refine ⟨fun h => ?_, fun h => by rw [h]⟩
  have hsplit : ∀ {segments : List String}, segments ≠ [] →
      (∀ s ∈ segments, separator ∉ s.toList) →
      (joinWith separator segments).toList.splitOn separator = segments.map String.toList := by
    intro segments hne hfree
    rw [joinWith, String.toList_ofList]
    refine List.splitOn_intercalate separator ?_ (by simpa using hne)
    intro l hl
    obtain ⟨s, hs, rfl⟩ := List.mem_map.mp hl
    exact hfree s hs
  have hmap : xs.map String.toList = ys.map String.toList := by
    rw [← hsplit hx hxs, h, hsplit hy hys]
  exact List.map_injective_iff.mpr (fun a b => String.toList_inj.mp) hmap

/-! ## Percent-encoding -/

/-- A digit of `"%02X"`. -/
def hexDigit (n : Fin 16) : Char :=
  if n < 10 then Char.ofNat (0x30 + n) else Char.ofNat (0x41 + n - 10)

lemma hexDigit_injective : Function.Injective hexDigit := by
  decide

/-- The two hexadecimal digits of a byte. -/
def byteDigits (b : UInt8) : Fin 16 × Fin 16 :=
  (⟨b.toNat / 16, by have := b.toNat_lt; omega⟩, ⟨b.toNat % 16, by omega⟩)

lemma byteDigits_injective : Function.Injective byteDigits := by
  intro a b h
  rw [byteDigits, byteDigits, Prod.mk.injEq, Fin.mk.injEq, Fin.mk.injEq] at h
  apply UInt8.toNat_inj.mp
  omega

/-- The bytes that `urllib.parse.quote` never encodes. -/
def isAlwaysSafe (b : UInt8) : Bool :=
  (0x41 ≤ b && b ≤ 0x5A) || (0x61 ≤ b && b ≤ 0x7A) || (0x30 ≤ b && b ≤ 0x39) ||
    b == 0x5F || b == 0x2E || b == 0x2D || b == 0x7E

/-- One byte, as itself or as `%XX`. -/
def quoteByte (isSafe : UInt8 → Bool) (b : UInt8) : List Char :=
  if isSafe b then [Char.ofNat b.toNat]
  else ['%', hexDigit (byteDigits b).1, hexDigit (byteDigits b).2]

/-- `urllib.parse.quote`, for a choice of safe bytes. -/
def quote (isSafe : UInt8 → Bool) (s : String) : String :=
  String.ofList (s.toUTF8.data.toList.flatMap (quoteByte isSafe))

lemma toNat_ofNat_byte (b : UInt8) : (Char.ofNat b.toNat).toNat = b.toNat := by
  have hvalid : b.toNat.isValidChar := Or.inl (by have := b.toNat_lt; omega)
  rw [Char.ofNat, dif_pos hvalid]
  rfl

lemma ofNat_byte_inj {a b : UInt8} : Char.ofNat a.toNat = Char.ofNat b.toNat ↔ a = b := by
  refine ⟨fun h => ?_, fun h => by rw [h]⟩
  apply UInt8.toNat_inj.mp
  rw [← toNat_ofNat_byte a, ← toNat_ofNat_byte b, h]

section Quote

variable {isSafe : UInt8 → Bool}

/-- A text in which `%` is encoded like any other unsafe byte is a prefix code of its bytes. -/
lemma quoteByte_prefixCode (hsafe : isSafe 0x25 = false) : PrefixCode (quoteByte isSafe) := by
  have hpercent : ∀ b, isSafe b = true → Char.ofNat b.toNat ≠ '%' := by
    intro b hb h
    have hb' : b = 0x25 := ofNat_byte_inj.mp h
    rw [hb', hsafe] at hb
    cases hb
  constructor
  · intro b
    unfold quoteByte
    split <;> exact List.cons_ne_nil _ _
  · intro a b l l' h
    unfold quoteByte at h
    by_cases ha : isSafe a = true <;> by_cases hb : isSafe b = true
    · rw [if_pos ha, if_pos hb] at h
      obtain ⟨hchar, hrest⟩ := List.cons.inj h
      exact ⟨ofNat_byte_inj.mp hchar, hrest⟩
    · rw [if_pos ha, if_neg hb] at h
      exact absurd (List.cons.inj h).1 (hpercent a ha)
    · rw [if_neg ha, if_pos hb] at h
      exact absurd (List.cons.inj h).1.symm (hpercent b hb)
    · rw [if_neg ha, if_neg hb] at h
      obtain ⟨-, h⟩ := List.cons.inj h
      obtain ⟨hhigh, h⟩ := List.cons.inj h
      obtain ⟨hlow, hrest⟩ := List.cons.inj h
      exact ⟨byteDigits_injective (Prod.ext (hexDigit_injective hhigh) (hexDigit_injective hlow)),
        hrest⟩

lemma quote_inj (hsafe : isSafe 0x25 = false) {s t : String} :
    quote isSafe s = quote isSafe t ↔ s = t := by
  refine ⟨fun h => ?_, fun h => by rw [h]⟩
  have hbytes := (quoteByte_prefixCode hsafe).flatMap_injective (String.ofList_injective h)
  apply String.toByteArray_inj.mp
  exact ByteArray.ext (Array.toList_inj.mp hbytes)

/-- A byte that is not safe does not occur in the encoded text, unless it is used to encode. -/
lemma not_mem_quote {b : UInt8} (hsafe : isSafe b = false) (hpercent : Char.ofNat b.toNat ≠ '%')
    (hdigit : ∀ n, hexDigit n ≠ Char.ofNat b.toNat) (s : String) :
    Char.ofNat b.toNat ∉ (quote isSafe s).toList := by
  rw [quote, String.toList_ofList, List.mem_flatMap]
  rintro ⟨a, -, ha⟩
  unfold quoteByte at ha
  split at ha
  · rename_i hsafe'
    have hab : b = a := ofNat_byte_inj.mp (List.mem_singleton.mp ha)
    rw [← hab, hsafe] at hsafe'
    cases hsafe'
  · rcases List.mem_cons.mp ha with h | ha
    · exact hpercent h
    · rcases List.mem_cons.mp ha with h | ha
      · exact hdigit _ h.symm
      · exact hdigit _ (List.mem_singleton.mp ha).symm

end Quote

end AgentGateway.Lib
