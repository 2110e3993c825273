/-
The written form of bytes in a query string: `+` for a space, an escape for any byte, and every other
character for its own bytes. A text with closed escapes is the written form of exactly one list of
bytes, a text with a broken escape of none.

Percent encoding writes bytes so that only unreserved characters stand for themselves. What it writes
has no separator in it and spells the bytes that it was given.
-/
import SensorRegistry.Text.Percent
import Mathlib.Tactic.Cases
import Mathlib.Tactic.SplitIfs

namespace SensorRegistry.Text

/-! ## Written forms -/

/-- The text is a written form of the bytes. -/
inductive Spells : Text → List UInt8 → Prop
  | nil : Spells [] []
  | escape {high low : Char} {b : UInt8} {raw : Text} {bs : List UInt8} :
    hexByte? high low = some b → Spells raw bs → Spells ('%' :: high :: low :: raw) (b :: bs)
  | space {raw : Text} {bs : List UInt8} : Spells raw bs → Spells ('+' :: raw) (String.utf8EncodeChar ' ' ++ bs)
  | plain {c : Char} {raw : Text} {bs : List UInt8} :
    c ≠ '%' → c ≠ '+' → Spells raw bs → Spells (c :: raw) (String.utf8EncodeChar c ++ bs)

theorem percentBytes_escape {high low : Char} {b : UInt8} (h : hexByte? high low = some b) (rest : Text) :
    percentBytes ('%' :: high :: low :: rest) = b :: percentBytes rest := by
  rw [percentBytes, h]

theorem percentBytes_plain {c : Char} (h : c ≠ '%') (rest : Text) :
    percentBytes (c :: rest) = String.utf8EncodeChar c ++ percentBytes rest := by
  rw [percentBytes]
  intro high low rest' hc
  exact absurd hc h

theorem isSome_of_hexByte? {high low : Char} {b : UInt8} (h : hexByte? high low = some b) :
    (hexValue? high).isSome = true ∧ (hexValue? low).isSome = true := by
  unfold hexByte? at h
  cases hhigh : hexValue? high with
  | none => rw [hhigh] at h; cases h
  | some x =>
    cases hlow : hexValue? low with
    | none => rw [hhigh, hlow] at h; cases h
    | some y => exact ⟨rfl, rfl⟩

/-- A character that is no hexadecimal digit has no part in an escape. -/
theorem ne_of_hexByte? {d high low : Char} {b : UInt8} (hd : hexValue? d = none) (h : hexByte? high low = some b) :
    high ≠ d ∧ low ≠ d := by
  obtain ⟨hhigh, hlow⟩ := isSome_of_hexByte? h
  constructor
  · rintro rfl
    simp [hd] at hhigh
  · rintro rfl
    simp [hd] at hlow

theorem plusToSpace_cons {c : Char} (h : c ≠ '+') (rest : Text) : plusToSpace (c :: rest) = c :: plusToSpace rest := by
  rw [plusToSpace, List.map_cons, if_neg h]
  rfl

/-- A text is a written form exactly if its escapes are closed, and then of the bytes that decoding it gives. -/
theorem spells_iff {raw : Text} {bs : List UInt8} :
    Spells raw bs ↔ escapesClosed raw = true ∧ percentBytes (plusToSpace raw) = bs := by
  constructor
  · intro h
    induction h with
    | nil => exact ⟨rfl, rfl⟩
    | @escape high low b raw bs hb _ ih =>
      obtain ⟨hhigh, hlow⟩ := ne_of_hexByte? (d := '+') (by decide) hb
      refine ⟨by rw [escapesClosed, hb, ih.1]; rfl, ?_⟩
      rw [plusToSpace_cons (by decide), plusToSpace_cons hhigh, plusToSpace_cons hlow, percentBytes_escape hb, ih.2]
    | @space raw bs _ ih =>
      refine ⟨ih.1, ?_⟩
      rw [← ih.2]
      exact percentBytes_plain (by decide) _
    | @plain c raw bs hpercent hplus _ ih =>
      refine ⟨?_, by rw [plusToSpace_cons hplus, percentBytes_plain hpercent, ih.2]⟩
      rw [escapesClosed, ih.1]
      · intro _ _ _ hc; exact absurd hc hpercent
      · intro hc; exact absurd hc hpercent
  · rintro ⟨hclosed, rfl⟩
    fun_induction escapesClosed raw with
    | case1 high low rest ih =>
      rw [Bool.and_eq_true, Option.isSome_iff_exists] at hclosed
      obtain ⟨⟨b, hb⟩, hrest⟩ := hclosed
      obtain ⟨hhigh, hlow⟩ := ne_of_hexByte? (d := '+') (by decide) hb
      rw [plusToSpace_cons (by decide), plusToSpace_cons hhigh, plusToSpace_cons hlow, percentBytes_escape hb]
      exact .escape hb (ih hrest)
    | case2 => cases hclosed
    | case3 c rest _ hpercent ih =>
      by_cases hplus : c = '+'
      · subst hplus
        exact .space (ih hclosed)
      · rw [plusToSpace_cons hplus, percentBytes_plain hpercent]
        exact .plain hpercent hplus (ih hclosed)
    | case4 => exact .nil

theorem Spells.unique {raw : Text} {bs bs' : List UInt8} (h : Spells raw bs) (h' : Spells raw bs') : bs = bs' :=
  (spells_iff.1 h).2.symm.trans (spells_iff.1 h').2

/-! ## Broken escapes -/

/-- An ASCII hexadecimal digit of either case. -/
def IsHexDigit (c : Char) : Prop := c ∈ "0123456789abcdefABCDEF".toList

instance (c : Char) : Decidable (IsHexDigit c) := inferInstanceAs (Decidable (c ∈ _))

theorem isSome_hexValue?_iff {c : Char} : (hexValue? c).isSome = true ↔ IsHexDigit c := by
  have hascii : ∀ n < 0x80, ((hexValue? (Char.ofNat n)).isSome = true ↔ IsHexDigit (Char.ofNat n)) := by decide +kernel
  by_cases hc : c.toNat < 0x80
  · rw [← Char.ofNat_toNat c]
    exact hascii _ hc
  · have hhigh : ∀ {d : Char}, c ≤ d → d.toNat < 0x80 → False := by
      intro d hle hd
      have : c.toNat ≤ d.toNat := UInt32.le_iff_toNat_le.1 hle
      omega
    constructor
    · intro h
      unfold hexValue? at h
      split_ifs at h with h1 h2 h3
      · exact (hhigh h1.2 (by decide)).elim
      · exact (hhigh h2.2 (by decide)).elim
      · exact (hhigh h3.2 (by decide)).elim
      · cases h
    · intro h
      have hdigits : "0123456789abcdefABCDEF".toList.all (·.toNat < 0x80) = true := by decide
      exact absurd (of_decide_eq_true (List.all_eq_true.1 hdigits c h)) hc

theorem isSome_hexByte?_iff {high low : Char} :
    (hexByte? high low).isSome = true ↔ IsHexDigit high ∧ IsHexDigit low := by
  rw [← isSome_hexValue?_iff, ← isSome_hexValue?_iff, hexByte?]
  cases hexValue? high <;> cases hexValue? low <;> simp

/-- The text begins with two hexadecimal digits. -/
def HexFirst (s : Text) : Prop := ∃ high low rest, s = high :: low :: rest ∧ IsHexDigit high ∧ IsHexDigit low

/-- Some `%` in the text is not followed by two hexadecimal digits. -/
def BrokenEscape (raw : Text) : Prop := ∃ a b, raw = a ++ '%' :: b ∧ ¬ HexFirst b

theorem brokenEscape_cons {c : Char} {s : Text} : BrokenEscape (c :: s) ↔ c = '%' ∧ ¬ HexFirst s ∨ BrokenEscape s := by
  constructor
  · rintro ⟨a, b, hs, hb⟩
    cases a with
    | nil =>
      obtain ⟨rfl, rfl⟩ := List.cons.inj hs
      exact .inl ⟨rfl, hb⟩
    | cons d a =>
      obtain ⟨rfl, rfl⟩ := List.cons.inj hs
      exact .inr ⟨a, b, rfl, hb⟩
  · rintro (⟨rfl, hs⟩ | ⟨a, b, rfl, hb⟩)
    · exact ⟨[], s, rfl, hs⟩
    · exact ⟨c :: a, b, rfl, hb⟩

theorem brokenEscape_cons_of_ne {c : Char} (hc : c ≠ '%') {s : Text} : BrokenEscape (c :: s) ↔ BrokenEscape s :=
  brokenEscape_cons.trans (or_iff_right fun h => hc h.1)

/-- The check goes on behind the digits of an escape, none of which is a `%`, so it looks at every `%`. -/
theorem escapesClosed_iff {raw : Text} : escapesClosed raw = true ↔ ¬ BrokenEscape raw := by
  fun_induction escapesClosed raw with
  | case1 high low rest ih =>
    rw [Bool.and_eq_true, isSome_hexByte?_iff, ih, brokenEscape_cons, not_or]
    have hfirst : HexFirst (high :: low :: rest) ↔ IsHexDigit high ∧ IsHexDigit low := by
      constructor
      · rintro ⟨h, l, r, hs, hdigits⟩
        cases hs
        exact hdigits
      · exact fun h => ⟨high, low, rest, rfl, h⟩
    rw [hfirst]
    have hpercent : ∀ {c : Char}, IsHexDigit c → c ≠ '%' := by
      rintro c hc rfl
      exact absurd hc (by decide)
    constructor
    · rintro ⟨hdigits, hrest⟩
      refine ⟨fun h => h.2 hdigits, ?_⟩
      rwa [brokenEscape_cons_of_ne (hpercent hdigits.1), brokenEscape_cons_of_ne (hpercent hdigits.2)]
    · rintro ⟨hfirst, hrest⟩
      have hdigits : IsHexDigit high ∧ IsHexDigit low := Classical.byContradiction fun h => hfirst ⟨rfl, h⟩
      rw [brokenEscape_cons_of_ne (hpercent hdigits.1), brokenEscape_cons_of_ne (hpercent hdigits.2)] at hrest
      exact ⟨hdigits, hrest⟩
  | case2 rest hshort =>
    have hbroken : BrokenEscape ('%' :: rest) := by
      refine brokenEscape_cons.2 (.inl ⟨rfl, ?_⟩)
      rintro ⟨high, low, rest', rfl, -⟩
      exact hshort high low rest' rfl
    simpa using hbroken
  | case3 c rest _ hpercent ih =>
    rw [ih, brokenEscape_cons_of_ne hpercent]
  | case4 =>
    refine ⟨fun _ => ?_, fun _ => rfl⟩
    rintro ⟨a, b, hs, -⟩
    exact absurd hs.symm (by simp)

/-! ## Percent encoding -/

/-- A way to write each byte as two hexadecimal digits. -/
structure HexCode where
  high : UInt8 → Char
  low : UInt8 → Char
  spells (b : UInt8) : hexByte? (high b) (low b) = some b

/-- The capital digits. -/
def HexCode.capital : HexCode where
  high b := (Nat.digitChar (b.toNat / 16)).toUpper
  low b := (Nat.digitChar (b.toNat % 16)).toUpper
  spells b := by
    have h : ∀ n < 256, hexByte? (Nat.digitChar (n / 16)).toUpper (Nat.digitChar (n % 16)).toUpper =
        some (UInt8.ofNat n) := by decide +kernel
    rw [h b.toNat b.toNat_lt, UInt8.ofNat_toNat]

/-- Letters, digits and four marks, which stand for themselves in every part of a query string. -/
def isUnreserved (c : Char) : Bool := c.isAlphanum || c == '-' || c == '_' || c == '.' || c == '~'

/-- A byte as the unreserved character that it is, or else as an escape. -/
def encodeByte (code : HexCode) (b : UInt8) : Text :=
  if isUnreserved (Char.ofNat b.toNat) then [Char.ofNat b.toNat] else ['%', code.high b, code.low b]

/-- The text with every byte escaped that is no unreserved character. -/
def percentEncode (code : HexCode) (s : Text) : Text := (bytes s).flatMap (encodeByte code)

theorem encodeChar_of_isUnreserved {b : UInt8} (h : isUnreserved (Char.ofNat b.toNat) = true) :
    String.utf8EncodeChar (Char.ofNat b.toNat) = [b] := by
  have hall : ∀ n < 256, isUnreserved (Char.ofNat n) = true →
      String.utf8EncodeChar (Char.ofNat n) = [UInt8.ofNat n] := by decide +kernel
  rw [hall b.toNat b.toNat_lt h, UInt8.ofNat_toNat]

theorem spells_flatMap_encodeByte (code : HexCode) (bs : List UInt8) : Spells (bs.flatMap (encodeByte code)) bs := by
  induction bs with
  | nil => exact .nil
  | cons b bs ih =>
    rw [List.flatMap_cons, encodeByte]
    by_cases h : isUnreserved (Char.ofNat b.toNat) = true
    · rw [if_pos h]
      have hplain := Spells.plain (c := Char.ofNat b.toNat) (fun hc => ?_) (fun hc => ?_) ih
      · rwa [encodeChar_of_isUnreserved h] at hplain
      all_goals
        rw [hc] at h
        exact absurd h (by decide)
    · rw [if_neg h]
      exact .escape (code.spells b) ih

theorem spells_percentEncode (code : HexCode) (s : Text) : Spells (percentEncode code s) (bytes s) :=
  spells_flatMap_encodeByte code (bytes s)

/-- A character that encoding never writes: it is not unreserved and has no part in an escape. -/
def IsSeparator (d : Char) : Prop := isUnreserved d = false ∧ d ≠ '%' ∧ hexValue? d = none

instance (d : Char) : Decidable (IsSeparator d) := inferInstanceAs (Decidable (_ ∧ _ ∧ _))

theorem not_mem_percentEncode {d : Char} (hd : IsSeparator d) (code : HexCode) (s : Text) :
    d ∉ percentEncode code s := by
  intro hmem
  obtain ⟨b, -, hb⟩ := List.mem_flatMap.1 hmem
  unfold encodeByte at hb
  split at hb
  · rename_i h
    rw [← List.mem_singleton.1 hb, hd.1] at h
    cases h
  · obtain ⟨hhigh, hlow⟩ := ne_of_hexByte? hd.2.2 (code.spells b)
    simp only [List.mem_cons, List.not_mem_nil, or_false] at hb
    rcases hb with rfl | rfl | rfl
    · exact hd.2.1 rfl
    · exact hhigh rfl
    · exact hlow rfl

end SensorRegistry.Text
