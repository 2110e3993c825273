/-
The placeholders of a text as a list, in the order in which they occur. The scan for the highest
index is the maximum of that list; written placeholders, joined texts, trimmed texts and normalized
texts are read off it.
-/
import SensorRegistry.Sql.Placeholder
import SensorRegistry.Proofs.Number.Integer
import SensorRegistry.Proofs.Sql.Splice
import Mathlib.Algebra.Order.Group.Nat
import Mathlib.Order.Bounds.Defs

namespace SensorRegistry.Placeholder

/-! ## Occurrences -/

/-- The digits behind each `$` of a text, as many as follow it. -/
def runs : Text → List Text
  | [] => []
  | c :: rest => if c = '$' then rest.takeWhile Char.isDigit :: runs rest else runs rest

/-- The placeholders of a text, by their digits: each `$` that digits follow. -/
def occurrences (s : Text) : List Text := (runs s).filter (! ·.isEmpty)

/-- The index that the scan reads from digits. -/
def index (digits : Text) : Nat := min greatest (Nat.ofDigitChars 10 digits 0)

/-- The highest of the indices. -/
def highest (digits : List Text) : Nat := (digits.map index).foldr max 0

theorem runs_append {b : Text} (hb : ∀ c ∈ b.head?, c.isDigit = false) (a : Text) :
    runs (a ++ b) = runs a ++ runs b := by
  induction a with
  | nil => rfl
  | cons c a ih =>
    have hstop : b.takeWhile Char.isDigit = [] := by
      cases b with
      | nil => rfl
      | cons d b => exact List.takeWhile_cons_of_neg (by simp [hb d rfl])
    rw [List.cons_append, runs, runs, ih]
    split
    · rw [List.cons_append, List.takeWhile_append]
      split
      · rename_i hlen
        rw [hstop, List.append_nil, (List.takeWhile_prefix _).eq_of_length hlen]
      · rfl
    · rfl

theorem runs_cons {c : Char} (hc : c ≠ '$') (s : Text) : runs (c :: s) = runs s := by
  rw [runs, if_neg hc]

theorem runs_of_no_dollar {s : Text} (hs : '$' ∉ s) : runs s = [] := by
  induction s with
  | nil => rfl
  | cons c s ih =>
    rw [List.mem_cons, not_or] at hs
    rw [runs_cons (Ne.symm hs.1), ih hs.2]

theorem runs_append_of_no_dollar {a : Text} (ha : '$' ∉ a) (b : Text) : runs (a ++ b) = runs b := by
  induction a with
  | nil => rfl
  | cons c a ih =>
    rw [List.mem_cons, not_or] at ha
    rw [List.cons_append, runs_cons (Ne.symm ha.1), ih ha.2]

/-- A character that is neither a digit nor `$` separates placeholders. -/
theorem runs_separated {c : Char} (hd : c.isDigit = false) (hc : c ≠ '$') (a b : Text) :
    runs (a ++ c :: b) = runs a ++ runs b := by
  rw [runs_append (b := c :: b) (by simpa using hd), runs_cons hc]

theorem isIdentifierChar_of_isDigit {c : Char} (hc : c.isDigit = true) : Sql.isIdentifierChar c = true := by
  simp [Sql.isIdentifierChar, Char.isAlphanum, hc]

theorem isDigit_of_not_isIdentifierChar {c : Char} (hc : Sql.isIdentifierChar c = false) : c.isDigit = false := by
  by_contra h
  rw [isIdentifierChar_of_isDigit (Bool.not_eq_false _ ▸ h)] at hc
  cases hc

theorem isDigit_of_isBlank {c : Char} (hc : Text.isBlank c = true) : c.isDigit = false :=
  isDigit_of_not_isIdentifierChar (Sql.isIdentifierChar_of_isBlank hc)

/-- Blanks and marks separate placeholders, so a splice moves them as a whole. -/
theorem markSeparated_runs : Sql.MarkSeparated runs where
  nil := rfl
  blank := fun a c b hc => runs_separated (isDigit_of_isBlank hc) (by rintro rfl; revert hc; decide) a b
  mark := fun a b hb => runs_append (by rcases hb with h | h <;> rw [h] <;> simp) a

theorem isIdentifierChar_of_mem_write {n : Nat} {c : Char} (hc : c ∈ write n) : Sql.isIdentifierChar c = true := by
  rcases List.mem_cons.1 hc with rfl | hc
  · decide
  · exact isIdentifierChar_of_isDigit (Text.isDigit_of_mem_ofNat hc)

/-- Written indices are read back. -/
theorem runs_write (n : Nat) : runs (write n) = [Text.ofNat n] := by
  have hdigits : ∀ c ∈ Text.ofNat n, c.isDigit = true := fun c hc => Text.isDigit_of_mem_ofNat hc
  have hdollar : '$' ∉ Text.ofNat n := fun h => by have := hdigits _ h; revert this; decide
  rw [write, runs, if_pos rfl, runs_of_no_dollar hdollar, List.takeWhile_eq_self_iff.2 hdigits]

/-- A written placeholder is the only one between texts without `$`, if no digit follows it. -/
theorem runs_around {a b : Text} (ha : '$' ∉ a) (hb : '$' ∉ b) (hd : ∀ c ∈ b.head?, c.isDigit = false) (n : Nat) :
    runs (a ++ write n ++ b) = [Text.ofNat n] := by
  have hw : ∀ c ∈ (write n).head?, c.isDigit = false := by
    intro c hc
    cases hc
    decide
  rw [runs_append hd, runs_append hw, runs_of_no_dollar ha, runs_of_no_dollar hb, runs_write]
  rfl

theorem index_ofNat {n : Nat} (hn : n ≤ greatest) : index (Text.ofNat n) = n := by
  rw [index, Text.ofNat, Nat.ofDigitChars_ten_toDigits, Nat.min_eq_right hn]

theorem ofNat_inj {m n : Nat} (h : Text.ofNat m = Text.ofNat n) : m = n := by
  rw [← Nat.ofDigitChars_ten_toDigits (n := m), ← Nat.ofDigitChars_ten_toDigits (n := n)]
  exact congrArg (Nat.ofDigitChars 10 · 0) h

/-! ## The highest index -/

theorem highest_append (a b : List Text) : highest (a ++ b) = max (highest a) (highest b) := by
  unfold highest
  rw [List.map_append, List.foldr_append]
  induction a with
  | nil => simp
  | cons d a ih => rw [List.map_cons, List.foldr_cons, List.foldr_cons, ih, max_assoc]

/-- Cutting an index off at the greatest one before more digits follow changes nothing in the end. -/
theorem saturate_ofDigitChars (digits : Text) (n : Nat) :
    min greatest (Nat.ofDigitChars 10 digits (min greatest n)) = min greatest (Nat.ofDigitChars 10 digits n) := by
  by_cases hn : n ≤ greatest
  · rw [Nat.min_eq_right hn]
  · have h1 := Text.le_ofDigitChars digits n
    have h2 := Text.le_ofDigitChars digits (min greatest n)
    omega

theorem scan_none_cons (l : Nat) (c : Char) (s : Text) :
    scan l none (c :: s) = scan l (if c = '$' then some 0 else none) s := by
  simp [scan]

theorem scan_digit {c : Char} (hc : c.isDigit = true) (l i : Nat) (s : Text) :
    scan l (some i) (c :: s) = scan l (some (min greatest (i * 10 + (c.toNat - '0'.toNat)))) s := by
  rw [scan.eq_def]
  simp only [digitValue?, if_pos hc]

theorem scan_stop {c : Char} (hc : c.isDigit = false) (l i : Nat) (s : Text) :
    scan l (some i) (c :: s) = scan (max l i) (if c = '$' then some 0 else none) s := by
  have h : ¬ c.isDigit = true := by simp [hc]
  rw [scan.eq_def]
  simp only [digitValue?, if_neg h, Option.getD_some]

/-- The scan between placeholders, and within one whose digits so far give `i`. -/
theorem scan_eq (s : Text) :
    (∀ l, scan l none s = max l (highest (runs s))) ∧
    ∀ l i, i ≤ greatest → scan l (some i) s =
      max (max l (min greatest (Nat.ofDigitChars 10 (s.takeWhile Char.isDigit) i))) (highest (runs s)) := by
  induction s with
  | nil =>
    refine ⟨fun l => rfl, fun l i hi => ?_⟩
    simp [scan, runs, highest, Nat.ofDigitChars_nil, Nat.min_eq_right hi]
  | cons c s ih =>
    obtain ⟨ih1, ih2⟩ := ih
    -- a character that continues no placeholder ends the one before it and may begin another
    have fresh : ∀ l, scan l (if c = '$' then some 0 else none) s = max l (highest (runs (c :: s))) := by
      intro l
      rw [runs]
      split
      · rw [ih2 l 0 (Nat.zero_le _), max_assoc]
        rfl
      · exact ih1 l
    refine ⟨fun l => (scan_none_cons l c s).trans (fresh l), fun l i hi => ?_⟩
    cases hc : c.isDigit
    · rw [scan_stop hc, fresh, List.takeWhile_cons_of_neg (by simp [hc]), Nat.ofDigitChars_nil, Nat.min_eq_right hi]
    · have hdollar : c ≠ '$' := by rintro rfl; revert hc; decide
      rw [scan_digit hc, ih2 _ _ (Nat.min_le_left _ _), runs_cons hdollar, List.takeWhile_cons_of_pos hc,
        saturate_ofDigitChars, Nat.ofDigitChars_cons, Nat.mul_comm i 10]

/-- The highest index of a text is the highest of its placeholders. -/
theorem last_eq (s : Text) : last s = highest (runs s) := by
  rw [last, (scan_eq s).1, Nat.zero_max]

/-! ## The highest index over all occurrences -/

/-- Somewhere in the text a `$` stands with these digits behind it: all that follow it, perhaps none. -/
def Follows (digits s : Text) : Prop :=
  ∃ a b, s = a ++ '$' :: (digits ++ b) ∧ (∀ c ∈ digits, c.isDigit = true) ∧ ∀ c ∈ b.head?, c.isDigit = false

theorem follows_cons {digits s : Text} (h : Follows digits s) (c : Char) : Follows digits (c :: s) := by
  obtain ⟨a, b, rfl, hdigits, hb⟩ := h
  exact ⟨c :: a, b, rfl, hdigits, hb⟩

theorem follows_takeWhile (s : Text) : Follows (s.takeWhile Char.isDigit) ('$' :: s) := by
  refine ⟨[], s.dropWhile Char.isDigit, ?_, fun c hc => List.mem_takeWhile_imp hc, fun c hc => ?_⟩
  · rw [List.takeWhile_append_dropWhile, List.nil_append]
  · have h := List.head?_dropWhile_not Char.isDigit s
    rw [Option.mem_def.1 hc] at h
    simpa using h

theorem takeWhile_isDigit {digits b : Text} (hdigits : ∀ c ∈ digits, c.isDigit = true)
    (hb : ∀ c ∈ b.head?, c.isDigit = false) : (digits ++ b).takeWhile Char.isDigit = digits := by
  rw [List.takeWhile_append_of_pos hdigits]
  cases b with
  | nil => rw [List.takeWhile_nil, List.append_nil]
  | cons c b => rw [List.takeWhile_cons_of_neg (by simp [hb c rfl]), List.append_nil]

theorem mem_runs_iff {digits s : Text} : digits ∈ runs s ↔ Follows digits s := by
  constructor
  · intro h
    induction s with
    | nil => cases h
    | cons c s ih =>
      rw [runs] at h
      split at h
      · rename_i hc
        subst hc
        rcases List.mem_cons.1 h with rfl | h
        · exact follows_takeWhile s
        · exact follows_cons (ih h) _
      · exact follows_cons (ih h) c
  · rintro ⟨a, b, rfl, hdigits, hb⟩
    rw [runs_append (by simp), runs, if_pos rfl, takeWhile_isDigit hdigits hb]
    exact List.mem_append_right _ List.mem_cons_self

theorem index_le_highest {digits : Text} {ds : List Text} (h : digits ∈ ds) : index digits ≤ highest ds := by
  obtain ⟨a, b, rfl⟩ := List.append_of_mem h
  rw [← List.singleton_append, highest_append, highest_append]
  have hsingle : highest [digits] = index digits := Nat.max_zero _
  omega

theorem exists_index_eq_highest {ds : List Text} (h : ds ≠ []) : ∃ digits ∈ ds, index digits = highest ds := by
  induction ds with
  | nil => exact absurd rfl h
  | cons d ds ih =>
    have hcons : highest (d :: ds) = max (index d) (highest ds) := rfl
    by_cases hle : highest ds ≤ index d
    · exact ⟨d, List.mem_cons_self, by omega⟩
    · have hne : ds ≠ [] := by
        rintro rfl
        exact hle (Nat.zero_le _)
      obtain ⟨digits, hmem, hdigits⟩ := ih hne
      exact ⟨digits, List.mem_cons_of_mem d hmem, by omega⟩

/-- The scan is the greatest number that the digits behind any `$` spell, each cut off at the greatest number of 64
bits, and zero if there is no `$`. So it reads a text in parts, if the cut leaves the digits behind a `$` together, and
does not see how white space is written. -/
theorem last_isGreatest (s : Text) :
    ('$' ∈ s →
      IsGreatest {n | ∃ digits, Follows digits s ∧ n = min (2 ^ 64 - 1) (Nat.ofDigitChars 10 digits 0)} (last s)) ∧
    ('$' ∉ s → last s = 0) ∧
    (∀ t : Text, (∀ c ∈ t.head?, c.isDigit = false) → last (s ++ t) = max (last s) (last t)) ∧
    last (Text.normalize s) = last s := by
  refine ⟨fun hdollar => ?_, fun hdollar => ?_, fun t ht => ?_, ?_⟩
  · have hruns : runs s ≠ [] := by
      obtain ⟨a, b, rfl⟩ := List.append_of_mem hdollar
      rw [runs_append (by simp), runs, if_pos rfl]
      simp
    rw [last_eq]
    constructor
    · obtain ⟨digits, hmem, hdigits⟩ := exists_index_eq_highest hruns
      exact ⟨digits, mem_runs_iff.1 hmem, hdigits.symm⟩
    · rintro n ⟨digits, hdigits, rfl⟩
      exact index_le_highest (mem_runs_iff.2 hdigits)
  · rw [last_eq, runs_of_no_dollar hdollar]
    rfl
  · rw [last_eq, last_eq, last_eq, runs_append ht, highest_append]
  · rw [last_eq, last_eq, markSeparated_runs.normalize]

/-- Doubled `$`, an index past the greatest one, and digits that end the text. -/
theorem last_isGreatest_saturated :
    let s := "$$7, $18446744073709551616".toList
    let t := "\n\n$3 $".toList
    ('$' ∈ s ∧ ∀ c ∈ t.head?, c.isDigit = false) ∧
      IsGreatest {n | ∃ digits, Follows digits s ∧ n = min (2 ^ 64 - 1) (Nat.ofDigitChars 10 digits 0)} (2 ^ 64 - 1) ∧
      last (s ++ t) = max (2 ^ 64 - 1) 3 := by
  intro s t
  have hs : '$' ∈ s := by decide
  have ht : ∀ c ∈ t.head?, c.isDigit = false := by
    rintro c ⟨⟩
    decide
  obtain ⟨hgreatest, -, happend, -⟩ := last_isGreatest s
  have hlast : last s = 2 ^ 64 - 1 := by decide +kernel
  have hlast' : last t = 3 := by decide +kernel
  exact ⟨⟨hs, ht⟩, hlast ▸ hgreatest hs, hlast ▸ hlast' ▸ happend t ht⟩

/-! ## Cuts and splices -/

theorem isDigit_of_isBreak {k : Option Char} {s : Text} (hk : k.any Sql.isIdentifierChar = true)
    (h : Sql.isBreak k s.head? = true) : ∀ c ∈ s.head?, c.isDigit = false :=
  fun c hc => isDigit_of_not_isIdentifierChar (Sql.not_isIdentifierChar_of_isBreak hk h c hc)

theorem isDigit_of_trailing {b e : Text} (h : Sql.Trailing b e) : ∀ c ∈ e, c.isDigit = false := by
  intro c hc
  rcases h.mem hc with h | rfl
  · exact isDigit_of_isBlank h
  · decide

theorem runs_trailing {b e : Text} (h : Sql.Trailing b e) : runs e = [] := by
  refine runs_of_no_dollar fun hc => ?_
  rcases h.mem hc with h | h
  · revert h; decide
  · revert h; decide

theorem isDigit_of_standsAt {k a b : Text} (hk : k.head?.map Char.isDigit = some false) (h : Sql.StandsAt k a b) :
    ∀ c ∈ b.head?, c.isDigit = false := by
  have hne : k ≠ [] := by rintro rfl; cases hk
  have hhead := h.head_map hne (eq_toLower_of_capitals Char.isDigit (by decide))
  rw [hk] at hhead
  intro c hc
  rw [Option.mem_def.1 hc] at hhead
  exact Option.some.inj hhead

/-- A clause ends where no digit follows. -/
theorem isDigit_of_clauseCut {terminators : List Text} {b m t : Text}
    (hterm : ∀ k ∈ terminators, k.head?.map Char.isDigit = some false) (h : Sql.ClauseCut terminators b m t) :
    ∀ c ∈ t.head?, c.isDigit = false := by
  cases h with
  | terminated hk hab _ => exact isDigit_of_standsAt (hterm _ hk) hab
  | ended _ hbody => exact fun c hc => isDigit_of_trailing (Sql.trailing_of_body hbody).1 c (List.mem_of_mem_head? hc)

theorem runs_body (s : Text) : runs (Sql.body s) = runs s := by
  obtain ⟨e, hs, he, -⟩ := Sql.exists_body s
  conv_rhs => rw [hs]
  rw [runs_append fun c hc => isDigit_of_trailing he c (List.mem_of_mem_head? hc), runs_trailing he, List.append_nil]

theorem runs_ownCondition (m : Text) : runs (Sql.ownCondition m) = runs m := by
  unfold Sql.ownCondition
  split
  · rw [List.cons_append, runs_cons (by decide), runs_append (by simp), markSeparated_runs.trim]
    exact List.append_nil _
  · rfl

/-- A new condition brings its own placeholders and leaves the others as they are, in their order. -/
theorem runs_insertWhere {s f r : Text} (h : Sql.insertWhere s f = .ok r) :
    ∃ pre post, runs s = pre ++ post ∧ runs r = pre ++ runs f ++ post := by
  rcases Sql.insertWhere_cases h with ⟨rfl, rfl⟩ | ⟨b, m, t, rfl, hopen, hcut, rfl⟩ | ⟨b, m, t, rfl, -, -, ht, rfl⟩
  · exact ⟨runs r, [], by simp, by simp [runs]⟩
  · have hm := isDigit_of_isBreak (by decide) hopen.isBreak
    have ht := isDigit_of_clauseCut (by decide) hcut
    refine ⟨runs b, runs m ++ runs t, ?_, ?_⟩
    · rw [List.append_assoc, runs_append hm, runs_append ht]
    · rw [markSeparated_runs.joinParts]
      simp only [List.flatMap_cons, List.flatMap_nil, List.append_nil, runs_ownCondition]
      rw [runs_of_no_dollar (s := "AND".toList) (by decide), List.nil_append, List.append_assoc]
  · have ht' : ∀ c ∈ t.head?, c.isDigit = false := by
      intro c hc
      rcases ht c hc with rfl | rfl <;> decide
    refine ⟨runs (b ++ m), runs t, runs_append ht' _, ?_⟩
    rw [markSeparated_runs.joinParts]
    simp only [List.flatMap_cons, List.flatMap_nil, List.append_nil]
    rw [runs_of_no_dollar (s := "WHERE".toList) (by decide), List.nil_append, List.append_assoc]

/-- A new order key takes the place of the leading one, with all its placeholders. -/
theorem runs_insertOrder_key {s key : Text} {span : Sql.Span} (h : Sql.leadingKeySpan? s = some span) (hk : key ≠ []) :
    let pre := runs (Sql.takeBytes span.start s)
    let post := runs (Sql.dropBytes span.stop s)
    runs s = pre ++ runs (span.text s) ++ post ∧ runs (Sql.insertOrder s key) = pre ++ runs key ++ post := by
  obtain ⟨b, lead, t, rfl, hopen, hcut, rfl⟩ := Sql.exists_leadingKey h
  have hlead : ∀ c ∈ (lead ++ t).head?, c.isDigit = false := isDigit_of_isBreak (by decide) hopen.isBreak
  have ht : ∀ c ∈ t.head?, c.isDigit = false := by
    cases hcut with
    | comma _ _ _ hab _ => exact isDigit_of_standsAt (by decide) hab
    | clause hcut _ => exact isDigit_of_clauseCut (by decide) hcut
  have hpre : Sql.takeBytes (Text.byteSize b) (b ++ lead ++ t) = b := by
    rw [List.append_assoc, Sql.takeBytes_append]
  simp only [hpre, Sql.dropBytes_append, Sql.Span.text_between]
  constructor
  · rw [List.append_assoc, runs_append hlead, runs_append ht, List.append_assoc]
  · rw [Sql.insertOrder_key h hk, markSeparated_runs.joinParts]
    simp

/-- A new order clause leaves all placeholders of a statement without an order as they are. -/
theorem runs_insertOrder_clause {s key : Text} (h : Sql.leadingKeySpan? s = none) (hk : key ≠ []) :
    ∃ pre post, runs s = pre ++ post ∧ runs (Sql.insertOrder s key) = pre ++ runs key ++ post := by
  obtain ⟨b, t, rfl, hr, hcut⟩ := Sql.insertOrder_clause h hk
  refine ⟨runs b, runs t, runs_append (isDigit_of_clauseCut (by decide) hcut) b, ?_⟩
  rw [hr, markSeparated_runs.joinParts]
  simp only [List.flatMap_cons, List.flatMap_nil, List.append_nil]
  rw [runs_of_no_dollar (s := "ORDER BY".toList) (by decide), List.nil_append, List.append_assoc]

/-! ## Fresh placeholders -/

theorem highest_fresh {a n : Nat} (h : a + n ≤ greatest) :
    max a (highest ((List.range' (a + 1) n).map Text.ofNat)) = a + n := by
  induction n generalizing a with
  | zero => simp [highest]
  | succ n ih =>
    have hrec := ih (a := a + 1) (by omega)
    have hcons : highest ((List.range' (a + 1) (n + 1)).map Text.ofNat) =
        max (a + 1) (highest ((List.range' (a + 1 + 1) n).map Text.ofNat)) := by
      rw [List.range'_succ, List.map_cons, highest, List.map_cons, List.foldr_cons, index_ofNat (by omega)]
      rfl
    omega

theorem fresh_ne_nil {a n : Nat} {d : Text} (h : d ∈ (List.range' a n).map Text.ofNat) : d ≠ [] := by
  obtain ⟨i, -, rfl⟩ := List.mem_map.1 h
  exact Nat.toDigits_ne_nil

end SensorRegistry.Placeholder
