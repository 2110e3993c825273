/-
Decimal numerals and the integers of a range. A numeral of any length is read as its value if that lies in the
range, and is refused otherwise; whatever is read lies in the range.
-/
import SensorRegistry.Number.Integer
import Mathlib.Tactic.Cases

namespace SensorRegistry

/-! ## Numerals -/

theorem Text.isDigit_of_mem_ofNat {n : Nat} {c : Char} (hc : c ∈ ofNat n) : c.isDigit = true :=
  Nat.isDigit_of_mem_toDigits (by decide) (by decide) hc

theorem Text.isDigit_or_eq_of_mem_ofInt {n : Int} {c : Char} (hc : c ∈ ofInt n) : c.isDigit = true ∨ c = '-' := by
  cases n with
  | ofNat n => exact .inl (isDigit_of_mem_ofNat hc)
  | negSucc n =>
    rcases List.mem_cons.1 hc with rfl | hc
    · exact .inr rfl
    · exact .inl (isDigit_of_mem_ofNat hc)

theorem Text.ofNat_ne_nil (n : Nat) : ofNat n ≠ [] := Nat.toDigits_ne_nil

/-- More digits never make a number smaller. -/
theorem Text.le_ofDigitChars (digits : Text) (n : Nat) : n ≤ Nat.ofDigitChars 10 digits n := by
  rw [Nat.ofDigitChars_eq_ofDigitChars_zero]
  have : 0 < 10 ^ digits.length := Nat.pow_pos (by decide)
  have : n * 1 ≤ 10 ^ digits.length * n := by rw [Nat.mul_comm]; exact Nat.mul_le_mul_right n this
  omega

/-- A decimal numeral of any length: digits, with or without a minus sign in front. -/
structure Numeral where
  negative : Bool
  digits : Text
  ne_nil : digits ≠ []
  isDigit : ∀ c ∈ digits, c.isDigit = true

namespace Numeral

def text (d : Numeral) : Text := if d.negative then '-' :: d.digits else d.digits

/-- The number that the digits spell. -/
def magnitude (d : Numeral) : Nat := Nat.ofDigitChars 10 d.digits 0

def value (d : Numeral) : Int := if d.negative then -d.magnitude else d.magnitude

/-- Every integer has a numeral. -/
theorem exists_value (n : Int) : ∃ d : Numeral, d.value = n := by
  have hvalue : ∀ n, Nat.ofDigitChars 10 (Text.ofNat n) 0 = n := fun _ => Nat.ofDigitChars_ten_toDigits
  cases n with
  | ofNat n =>
    refine ⟨⟨false, Text.ofNat n, Text.ofNat_ne_nil n, fun _ => Text.isDigit_of_mem_ofNat⟩, ?_⟩
    exact congrArg Int.ofNat (hvalue n)
  | negSucc n =>
    refine ⟨⟨true, Text.ofNat (n + 1), Text.ofNat_ne_nil _, fun _ => Text.isDigit_of_mem_ofNat⟩, ?_⟩
    exact congrArg (fun m : Nat => -(m : Int)) (hvalue (n + 1))

end Numeral

namespace IntegerRange

/-! ## Digits -/

variable {bound : Nat} {overflow : IntegerFault}

/-- Digits are read as the number that they spell, if it is within the bound. -/
theorem readDigits_of_isDigit {digits : Text} (hd : ∀ c ∈ digits, c.isDigit = true) (value : Nat)
    (h : Nat.ofDigitChars 10 digits value ≤ bound) :
    readDigits bound overflow value digits = .ok (Nat.ofDigitChars 10 digits value) := by
  induction digits generalizing value with
  | nil => rfl
  | cons c digits ih =>
    obtain ⟨hc, hdigits⟩ := List.forall_mem_cons.1 hd
    rw [Nat.ofDigitChars_cons, Nat.mul_comm] at h ⊢
    -- the number so far is at most the whole one, so the bound is not passed on the way
    have hle := Text.le_ofDigitChars digits (value * 10 + (c.toNat - '0'.toNat))
    rw [readDigits, digitValue?, if_pos hc]
    simp only
    rw [if_pos (by omega)]
    exact ih hdigits _ h

/-- Digits of a number past the bound are refused where the number so far passes it. -/
theorem readDigits_of_lt {digits : Text} (hd : ∀ c ∈ digits, c.isDigit = true) (value : Nat) (hv : value ≤ bound)
    (h : bound < Nat.ofDigitChars 10 digits value) : readDigits bound overflow value digits = .error overflow := by
  induction digits generalizing value with
  | nil =>
    rw [Nat.ofDigitChars_nil] at h
    omega
  | cons c digits ih =>
    obtain ⟨hc, hdigits⟩ := List.forall_mem_cons.1 hd
    rw [Nat.ofDigitChars_cons, Nat.mul_comm] at h
    rw [readDigits, digitValue?, if_pos hc]
    dsimp only
    by_cases hle : value * 10 + (c.toNat - '0'.toNat) ≤ bound
    · rw [if_pos hle]
      exact ih hdigits _ hle h
    · rw [if_neg hle]

theorem readDigits_digits {digits : Text} (hd : ∀ c ∈ digits, c.isDigit = true) :
    readDigits bound overflow 0 digits =
      if Nat.ofDigitChars 10 digits 0 ≤ bound then .ok (Nat.ofDigitChars 10 digits 0) else .error overflow := by
  split
  · rename_i h
    exact readDigits_of_isDigit hd 0 h
  · rename_i h
    exact readDigits_of_lt hd 0 (Nat.zero_le _) (Nat.lt_of_not_le h)

theorem le_of_readDigits {s : Text} {value n : Nat} (hv : value ≤ bound)
    (h : readDigits bound overflow value s = .ok n) : n ≤ bound := by
  induction s generalizing value with
  | nil => cases h; exact hv
  | cons c s ih =>
    rw [readDigits] at h
    split at h
    · cases h
    · split at h
      · rename_i hle
        exact ih hle h
      · cases h

/-! ## Signs -/

theorem read_of_isDigit {c : Char} (hc : c.isDigit = true) (r : IntegerRange) (rest : Text) :
    r.read (c :: rest) = (readDigits r.greatest.toNat .tooLarge 0 (c :: rest)).map Int.ofNat := by
  have hplus : c ≠ '+' := by rintro rfl; revert hc; decide
  have hminus : c ≠ '-' := by rintro rfl; revert hc; decide
  rw [read, if_neg hplus, if_neg fun h => hminus h.1]
  · intro h; exact absurd h hplus
  · intro h; exact absurd h hminus

theorem read_minus {r : IntegerRange} (hr : r.least < 0) {s : Text} (hs : s ≠ []) :
    r.read ('-' :: s) = (readDigits (-r.least).toNat .tooSmall 0 s).map fun n => -Int.ofNat n := by
  rw [read, if_neg (by decide), if_pos ⟨rfl, hr⟩]
  · intro h; cases h
  · intro _ h; exact absurd h hs

theorem contains_iff {r : IntegerRange} {n : Int} : r.contains n = true ↔ r.least ≤ n ∧ n ≤ r.greatest := by
  simp [contains]

/-- A numeral is read as its value if that lies in the range. Otherwise the fault tells at which end it lies outside. A
range without negative numbers has no numerals with a minus sign. -/
theorem read_signed {r : IntegerRange} (hzero : r.contains 0 = true) {d : Numeral}
    (hsign : d.negative = true → r.least < 0) :
    r.read d.text =
      if r.contains d.value then .ok d.value else .error (if d.negative then .tooSmall else .tooLarge) := by
  rw [contains_iff] at hzero
  obtain ⟨negative, digits, hne, hd⟩ := d
  cases negative with
  | false =>
    have hvalue : r.contains (Numeral.value ⟨false, digits, hne, hd⟩) = true ↔
        Nat.ofDigitChars 10 digits 0 ≤ r.greatest.toNat := by
      rw [contains_iff]
      show r.least ≤ (Nat.ofDigitChars 10 digits 0 : Int) ∧ (Nat.ofDigitChars 10 digits 0 : Int) ≤ r.greatest ↔ _
      omega
    obtain ⟨c, rest, rfl⟩ := List.exists_cons_of_ne_nil hne
    show r.read (c :: rest) = _
    rw [read_of_isDigit (hd c List.mem_cons_self), readDigits_digits hd]
    simp only [hvalue]
    split <;> rfl
  | true =>
    have hvalue : r.contains (Numeral.value ⟨true, digits, hne, hd⟩) = true ↔
        Nat.ofDigitChars 10 digits 0 ≤ (-r.least).toNat := by
      rw [contains_iff]
      show r.least ≤ -(Nat.ofDigitChars 10 digits 0 : Int) ∧ -(Nat.ofDigitChars 10 digits 0 : Int) ≤ r.greatest ↔ _
      omega
    show r.read ('-' :: digits) = _
    rw [read_minus (hsign rfl) hne, readDigits_digits hd]
    simp only [hvalue]
    split <;> rfl

theorem read_numeral {r : IntegerRange} (hleast : r.least < 0) (hgreatest : 0 ≤ r.greatest) (d : Numeral) :
    r.read d.text =
      if r.contains d.value then .ok d.value else .error (if d.negative then .tooSmall else .tooLarge) :=
  read_signed (contains_iff.2 ⟨Int.le_of_lt hleast, hgreatest⟩) fun _ => hleast

/-- What is read lies in the range, if zero does. -/
theorem contains_of_read {r : IntegerRange} (hzero : r.contains 0 = true) {s : Text} {n : Int} (h : r.read s = .ok n) :
    r.contains n = true := by
  rw [contains_iff] at hzero ⊢
  have bounded : ∀ {bound : Nat} {overflow : IntegerFault} {s : Text} {f : Nat → Int},
      (readDigits bound overflow 0 s).map f = .ok n → ∃ m ≤ bound, f m = n := by
    intro bound overflow s f hs
    cases hread : readDigits bound overflow 0 s with
    | error fault => rw [hread] at hs; cases hs
    | ok m =>
      rw [hread] at hs
      cases hs
      exact ⟨m, le_of_readDigits (Nat.zero_le _) hread, rfl⟩
  have positive : ∀ {s : Text}, (readDigits r.greatest.toNat .tooLarge 0 s).map Int.ofNat = .ok n →
      r.least ≤ n ∧ n ≤ r.greatest := by
    intro s hs
    obtain ⟨m, hm, rfl⟩ := bounded hs
    show r.least ≤ (m : Int) ∧ (m : Int) ≤ r.greatest
    omega
  unfold read at h
  split at h
  · cases h
  · cases h
  · cases h
  · split at h
    · exact positive h
    · split at h
      · obtain ⟨m, hm, rfl⟩ := bounded h
        show r.least ≤ -(m : Int) ∧ -(m : Int) ≤ r.greatest
        omega
      · exact positive h

/-! ## Written forms -/

/-- The text is a written form of the integer, which lies in the range: a numeral, the minus sign of which the range
must have a use for, or a numeral without sign behind a plus sign. -/
inductive Spelled (r : IntegerRange) : Text → Int → Prop
  | numeral {d : Numeral} : (d.negative = true → r.least < 0) → r.contains d.value = true → Spelled r d.text d.value
  | plus {d : Numeral} : d.negative = false → r.contains d.value = true → Spelled r ('+' :: d.text) d.value

theorem read_plus {s : Text} (hs : s ≠ []) (r : IntegerRange) :
    r.read ('+' :: s) = (readDigits r.greatest.toNat .tooLarge 0 s).map Int.ofNat := by
  rw [read, if_pos rfl]
  · intro _ h; exact absurd h hs
  · intro h; cases h

theorem isDigit_of_readDigits {s : Text} {value n : Nat} (h : readDigits bound overflow value s = .ok n) :
    (∀ c ∈ s, c.isDigit = true) ∧ Nat.ofDigitChars 10 s value = n := by
  induction s generalizing value with
  | nil =>
    cases h
    exact ⟨by simp, Nat.ofDigitChars_nil⟩
  | cons c s ih =>
    rw [readDigits, digitValue?] at h
    split at h
    · cases h
    · rename_i d hd
      split at hd
      · rename_i hc
        cases hd
        split at h
        · obtain ⟨hs, hn⟩ := ih h
          refine ⟨List.forall_mem_cons.2 ⟨hc, hs⟩, ?_⟩
          rw [Nat.ofDigitChars_cons, Nat.mul_comm]
          exact hn
        · cases h
      · cases hd

/-- The digits of a reading are those of a numeral of either sign. -/
theorem exists_numeral {s : Text} (hs : s ≠ []) {f : Nat → Int} {n : Int}
    (h : (readDigits bound overflow 0 s).map f = .ok n) (negative : Bool) :
    ∃ d : Numeral, d.negative = negative ∧ d.digits = s ∧ f d.magnitude = n := by
  cases hread : readDigits bound overflow 0 s with
  | error fault => rw [hread] at h; cases h
  | ok m =>
    rw [hread] at h
    cases h
    obtain ⟨hdigits, hm⟩ := isDigit_of_readDigits hread
    exact ⟨⟨negative, s, hs, hdigits⟩, rfl, rfl, congrArg f hm⟩

theorem exists_unsigned {s : Text} (hs : s ≠ []) {n : Int} (h : (readDigits bound overflow 0 s).map Int.ofNat = .ok n) :
    ∃ d : Numeral, d.negative = false ∧ d.text = s ∧ d.value = n := by
  obtain ⟨d, hsign, rfl, hvalue⟩ := exists_numeral hs h false
  have hplain : ¬ d.negative = true := by simp [hsign]
  exact ⟨d, hsign, if_neg hplain, (if_neg hplain).trans hvalue⟩

theorem exists_negative {s : Text} (hs : s ≠ []) {n : Int}
    (h : (readDigits bound overflow 0 s).map (fun m => -Int.ofNat m) = .ok n) :
    ∃ d : Numeral, d.negative = true ∧ d.text = '-' :: s ∧ d.value = n := by
  obtain ⟨d, hsign, rfl, hvalue⟩ := exists_numeral hs h true
  exact ⟨d, hsign, if_pos hsign, (if_pos hsign).trans hvalue⟩

theorem spelled_of_read {r : IntegerRange} (hzero : r.contains 0 = true) {s : Text} {n : Int} (h : r.read s = .ok n) :
    r.Spelled s n := by
  have hn := contains_of_read hzero h
  unfold read at h
  split at h
  · cases h
  · cases h
  · cases h
  · rename_i c rest hplus hminus
    split at h
    · rename_i hc
      subst hc
      obtain ⟨d, hsign, rfl, rfl⟩ := exists_unsigned (fun hnil => hplus rfl hnil) h
      exact .plus hsign hn
    · split at h
      · rename_i hc
        obtain ⟨rfl, hleast⟩ := hc
        obtain ⟨d, -, htext, rfl⟩ := exists_negative (fun hnil => hminus rfl hnil) h
        rw [← htext]
        exact .numeral (fun _ => hleast) hn
      · obtain ⟨d, hsign, htext, rfl⟩ := exists_unsigned (List.cons_ne_nil c rest) h
        rw [← htext]
        exact .numeral (by simp [hsign]) hn

/-- A plus sign in front of a numeral without sign changes nothing. -/
theorem read_plus_text {d : Numeral} (hsign : d.negative = false) (r : IntegerRange) :
    r.read ('+' :: d.text) = r.read d.text := by
  have htext : d.text = d.digits := if_neg (by simp [hsign])
  obtain ⟨c, rest, hdigits⟩ := List.exists_cons_of_ne_nil d.ne_nil
  have hc : c.isDigit = true := d.isDigit c (by simp [hdigits])
  rw [htext, read_plus d.ne_nil, hdigits, read_of_isDigit hc]

/-- Reading accepts exactly the written forms of the integers of the range, and gives these integers. -/
theorem read_eq_ok_iff {r : IntegerRange} (hzero : r.contains 0 = true) {s : Text} {n : Int} :
    r.read s = .ok n ↔ r.Spelled s n := by
  refine ⟨spelled_of_read hzero, fun h => ?_⟩
  cases h with
  | numeral hsign hn => rw [read_signed hzero hsign, if_pos hn]
  | plus hsign hn => rw [read_plus_text hsign, read_signed hzero (by simp [hsign]), if_pos hn]

end IntegerRange

end SensorRegistry
