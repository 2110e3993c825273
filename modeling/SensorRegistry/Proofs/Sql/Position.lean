/-
The keyword search in terms of bytes. A position is at top level when an even number of quotes lies before it and, of
the parentheses that lie before it outside literals, as many open as close. The search finds the least position, not
before the given one, where the keyword stands at top level and as a whole word, and nothing exactly when there is no
such position.

The counts are those of single bytes, one position after the other. They are the state of the search behind that
position, since no byte of a longer character is a quote or a parenthesis. And a position where the keyword is spelled
lies between two characters, since it begins with a byte that can begin one.
-/
import SensorRegistry.Proofs.Sql.Search
import SensorRegistry.Proofs.Text.Boundary
import Mathlib.Algebra.Group.Nat.Even
import Mathlib.Data.Nat.Count
import Mathlib.Order.Bounds.Defs

namespace SensorRegistry.Sql

/-! ## Bytes -/

/-- The bytes of `'`, `(` and `)`. -/
def quote : UInt8 := 0x27
def opening : UInt8 := 0x28
def closing : UInt8 := 0x29

/-- Whether the byte is an ASCII letter, a digit, `_`, `.` or `$`. -/
def isIdentifierByte (b : UInt8) : Bool :=
  (0x41 ≤ b && b ≤ 0x5A) || (0x61 ≤ b && b ≤ 0x7A) || (0x30 ≤ b && b ≤ 0x39) || b == 0x5F || b == 0x2E || b == 0x24

/-- How many quotes lie before a position. -/
def quotesBefore (s : List UInt8) (i : Nat) : Nat := (s.take i).count quote

/-- How often a byte lies before a position outside literals. -/
def unquotedBefore (b : UInt8) (s : List UInt8) (i : Nat) : Nat :=
  Nat.count (fun j => s[j]? = some b ∧ Even (quotesBefore s j)) i

/-- The keyword stands at a position: at top level, with its letters in any case, and as a whole word. -/
structure KeywordAt (keyword s : List UInt8) (i : Nat) : Prop where
  unquoted : Even (quotesBefore s i)
  level : unquotedBefore opening s i = unquotedBefore closing s i
  plain : ∀ b ∈ (s.drop i).head?, b ≠ quote ∧ b ≠ opening ∧ b ≠ closing
  spelled : ((s.drop i).take keyword.length).map Text.lowerByte = keyword.map Text.lowerByte
  before : ∀ b ∈ keyword.head?, isIdentifierByte b = true → ∀ c ∈ (s.take i).getLast?, isIdentifierByte c = false
  behind : ∀ b ∈ keyword.getLast?, isIdentifierByte b = true →
    ∀ c ∈ (s.drop (i + keyword.length)).head?, isIdentifierByte c = false

/-! ## Nesting -/

/-- Each byte as the character of its number. -/
def byteChars (s : List UInt8) : Text := s.map fun b => Char.ofNat b.toNat

theorem isDelimiter_byteChar (b : UInt8) :
    isDelimiter (Char.ofNat b.toNat) = (b == quote || b == opening || b == closing) :=
  Text.forall_byte (P := fun b => isDelimiter (Char.ofNat b.toNat) = (b == quote || b == opening || b == closing))
    (by decide +kernel) b

theorem isDelimiter_of_ascii_lt {c : Char} (hc : 0x80 ≤ c.toNat) : isDelimiter c = false := by
  by_contra h
  rcases eq_of_isDelimiter (Bool.not_eq_false _ ▸ h) with rfl | rfl | rfl <;> revert hc <;> decide

/-- The bytes of a text nest as its characters do. -/
theorem after_byteChars_bytes (n : Nesting) (s : Text) : n.after (byteChars (Text.bytes s)) = n.after s := by
  induction s generalizing n with
  | nil => rfl
  | cons c s ih =>
    rw [Text.bytes_cons, byteChars, List.map_append, Nesting.after_append, Nesting.after_cons]
    refine (ih _).trans (congrArg (Nesting.after · s) ?_)
    rcases Text.encode_cases c with ⟨hc, hbytes⟩ | ⟨hc, hbytes⟩
    · rw [hbytes, List.map_singleton, Text.Utf8.toNat_byte (by omega), Char.ofNat_toNat]
      rfl
    · rw [Nesting.step_of_not_delimiter (isDelimiter_of_ascii_lt hc)]
      refine Nesting.after_of_not_delimiter (fun d hd => ?_) n
      obtain ⟨b, hb, rfl⟩ := List.mem_map.1 hd
      have hlow := hbytes b hb
      rw [isDelimiter_byteChar]
      simp only [Bool.or_eq_false_iff, beq_eq_false_iff_ne]
      refine ⟨⟨?_, ?_⟩, ?_⟩ <;> rintro rfl <;> revert hlow <;> decide

theorem quotesBefore_succ (s : List UInt8) (i : Nat) :
    quotesBefore s (i + 1) = quotesBefore s i + if s[i]? = some quote then 1 else 0 := by
  rw [quotesBefore, List.take_add_one, List.count_append]
  refine congrArg _ ?_
  cases h : s[i]? with
  | none => rfl
  | some b => simp [List.count_singleton]

theorem unquotedBefore_succ (b : UInt8) (s : List UInt8) (i : Nat) :
    unquotedBefore b s (i + 1) =
      unquotedBefore b s i + if s[i]? = some b ∧ Even (quotesBefore s i) then 1 else 0 := Nat.count_succ ..

/-- One byte takes the counts of a position to those of the next. -/
theorem step_byteChar (b : UInt8) (opened closed quotes : Nat) :
    Nesting.step ⟨(opened : Int) - closed, !decide (Even quotes)⟩ (Char.ofNat b.toNat) =
      ⟨((opened + if b = opening ∧ Even quotes then 1 else 0 : Nat) : Int) -
        (closed + if b = closing ∧ Even quotes then 1 else 0 : Nat),
        !decide (Even (quotes + if b = quote then 1 else 0))⟩ := by
  by_cases hquote : b = quote
  · subst hquote
    by_cases heven : Even quotes <;> simp [Nesting.step, heven, Nat.even_add_one, quote, opening, closing]
  by_cases hopen : b = opening
  · subst hopen
    have hdeeper : (opened : Int) - closed + 1 = opened + 1 - closed := by omega
    by_cases heven : Even quotes <;> simp [Nesting.step, heven, hdeeper, quote, opening, closing]
  by_cases hclose : b = closing
  · subst hclose
    have hhigher : (opened : Int) - closed - 1 = opened - (closed + 1) := by omega
    by_cases heven : Even quotes <;> simp [Nesting.step, heven, hhigher, quote, opening, closing]
  · rw [Nesting.step_of_not_delimiter (by simp [isDelimiter_byteChar, hquote, hopen, hclose])]
    simp [hquote, hopen, hclose]

/-- The state of the search behind a position, in counts. -/
theorem after_take (s : List UInt8) (i : Nat) : Nesting.outer.after (byteChars (s.take i)) =
    ⟨(unquotedBefore opening s i : Int) - unquotedBefore closing s i, !decide (Even (quotesBefore s i))⟩ := by
  induction i with
  | zero => rfl
  | succ i ih =>
    rw [quotesBefore_succ, unquotedBefore_succ, unquotedBefore_succ, List.take_add_one, byteChars, List.map_append,
      Nesting.after_append]
    cases hb : s[i]? with
    | none =>
      simp only [reduceCtorEq, false_and, if_false, Nat.add_zero]
      exact ih
    | some b =>
      simp only [Option.some.injEq]
      rw [← step_byteChar, ← ih]
      rfl

theorem top_iff (a b : Text) : Nesting.outer.after a = .outer ↔
    Even (quotesBefore (Text.bytes (a ++ b)) (Text.byteSize a)) ∧
      unquotedBefore opening (Text.bytes (a ++ b)) (Text.byteSize a) =
        unquotedBefore closing (Text.bytes (a ++ b)) (Text.byteSize a) := by
  have h := after_take (Text.bytes (a ++ b)) (Text.byteSize a)
  rw [Text.take_bytes, after_byteChars_bytes] at h
  rw [h, Nesting.outer, Nesting.mk.injEq, Bool.not_eq_false', decide_eq_true_eq, and_comm]
  refine and_congr_right' ?_
  omega

/-! ## Words -/

theorem isIdentifierByte_of_mem_encode {c : Char} {b : UInt8} (hb : b ∈ String.utf8EncodeChar c) :
    isIdentifierByte b = isIdentifierChar c := by
  refine Text.test_of_mem_encode (by decide +kernel) (fun b hlow => ?_) (fun c hlow => ?_) hb
  · exact Text.forall_byte (P := fun b => 0x80 ≤ b.toNat → isIdentifierByte b = false) (by decide +kernel) b hlow
  · by_contra h
    have := toNat_of_isIdentifierChar (Bool.not_eq_false _ ▸ h)
    omega

theorem isDelimiter_of_mem_encode {c : Char} {b : UInt8} (hb : b ∈ String.utf8EncodeChar c) :
    (b == quote || b == opening || b == closing) = isDelimiter c := by
  refine Text.test_of_mem_encode (p := fun b => b == quote || b == opening || b == closing) (by decide +kernel)
    (fun b hlow => ?_) (fun c hlow => isDelimiter_of_ascii_lt hlow) hb
  exact Text.forall_byte (P := fun b => 0x80 ≤ b.toNat → (b == quote || b == opening || b == closing) = false)
    (by decide +kernel) b hlow

/-- A text and its bytes begin, and end, with a part of an identifier or both do not. -/
theorem any_head_bytes (s : Text) : (Text.bytes s).head?.any isIdentifierByte = s.head?.any isIdentifierChar := by
  cases s with
  | nil => rfl
  | cons c s =>
    obtain ⟨b, bs, hb⟩ := List.exists_cons_of_ne_nil (String.utf8EncodeChar_ne_nil (c := c))
    rw [Text.bytes_cons, hb]
    exact isIdentifierByte_of_mem_encode (hb ▸ List.mem_cons_self)

theorem any_last_bytes (s : Text) :
    (Text.bytes s).getLast?.any isIdentifierByte = s.getLast?.any isIdentifierChar := by
  rcases List.eq_nil_or_concat s with rfl | ⟨s, c, rfl⟩
  · rfl
  · have hne : Text.bytes [c] ≠ [] := Text.bytes_ne_nil (List.cons_ne_nil c [])
    obtain ⟨b, hb⟩ := Option.ne_none_iff_exists'.1 (mt List.getLast?_eq_none_iff.1 hne)
    rw [List.concat_eq_append, Text.bytes_append, List.getLast?_append_of_ne_nil _ hne, hb, List.getLast?_concat]
    refine isIdentifierByte_of_mem_encode ?_
    simpa [Text.bytes] using List.mem_of_getLast? hb

theorem isBreak_iff {x y : Option Char} {u v : Option UInt8} (hu : u.any isIdentifierByte = x.any isIdentifierChar)
    (hv : v.any isIdentifierByte = y.any isIdentifierChar) :
    isBreak x y = true ↔ ∀ b ∈ u, isIdentifierByte b = true → ∀ c ∈ v, isIdentifierByte c = false := by
  unfold isBreak
  rw [← hu, ← hv]
  cases u <;> cases v <;> simp [or_iff_not_imp_left]

/-! ## Positions of a keyword -/

/-- Where the keyword is spelled, a character begins. -/
theorem KeywordAt.exists_cut {keyword s : Text} {i : Nat} (hk : keyword ≠ [])
    (h : KeywordAt (Text.bytes keyword) (Text.bytes s) i) : ∃ a b, s = a ++ b ∧ Text.byteSize a = i := by
  obtain ⟨b, bs, hb⟩ := List.exists_cons_of_ne_nil (Text.bytes_ne_nil hk)
  have hspelled := h.spelled
  rw [hb, List.length_cons] at hspelled
  cases hd : (Text.bytes s).drop i with
  | nil =>
    rw [hd] at hspelled
    cases hspelled
  | cons c cs =>
    rw [hd, List.take_succ_cons, List.map_cons, List.map_cons] at hspelled
    refine Text.exists_cut (b := c) ?_ ?_
    · rw [← List.head?_drop, hd]
      rfl
    · rw [← Text.isUTF8FirstByte_lowerByte, (List.cons.inj hspelled).1, Text.isUTF8FirstByte_lowerByte]
      exact Text.isUTF8FirstByte_of_head (s := keyword) (by rw [hb]; rfl)

/-- The bytes at the start of a text spell the keyword exactly when its first characters do. -/
theorem spelled_iff {keyword b : Text} :
    ((Text.bytes b).take (Text.bytes keyword).length).map Text.lowerByte = (Text.bytes keyword).map Text.lowerByte ↔
      ∃ k r, b = k ++ r ∧ Text.lower k = Text.lower keyword := by
  constructor
  · intro h
    have hprefix : Text.bytes (Text.lower keyword) <+: Text.bytes (Text.lower b) := by
      rw [← Text.map_lowerByte_bytes, ← Text.map_lowerByte_bytes, ← h]
      exact (List.take_prefix _ _).map _
    obtain ⟨t, ht⟩ := Text.prefix_of_bytes hprefix
    obtain ⟨k, r, hb, hk, -⟩ := List.map_eq_append_iff.1 ht.symm
    exact ⟨k, r, hb, hk⟩
  · rintro ⟨k, r, rfl, hk⟩
    have hlen : (Text.bytes keyword).length = Text.byteSize k := by
      rw [Text.length_bytes, Text.byteSize_of_lower_eq hk]
    rw [hlen, Text.take_bytes, Text.map_lowerByte_bytes, Text.map_lowerByte_bytes, hk]

theorem plain_iff {b : Text} (hb : b ≠ []) :
    (∀ x ∈ (Text.bytes b).head?, x ≠ quote ∧ x ≠ opening ∧ x ≠ closing) ↔ ∃ c ∈ b.head?, isDelimiter c = false := by
  obtain ⟨c, b, rfl⟩ := List.exists_cons_of_ne_nil hb
  obtain ⟨x, xs, hx⟩ := List.exists_cons_of_ne_nil (String.utf8EncodeChar_ne_nil (c := c))
  have hdelimiter := isDelimiter_of_mem_encode (c := c) (b := x) (hx ▸ List.mem_cons_self)
  rw [Text.bytes_cons, hx]
  simp [← hdelimiter, and_assoc]

/-- Between two characters the counts of bytes say what the search looks at. -/
theorem keywordAt_append_iff {keyword a b : Text} (hk : keyword ≠ []) :
    KeywordAt (Text.bytes keyword) (Text.bytes (a ++ b)) (Text.byteSize a) ↔ StandsAt keyword a b := by
  have behind : ∀ {k r : Text}, Text.lower k = Text.lower keyword →
      (Text.bytes (a ++ (k ++ r))).drop (Text.byteSize a + (Text.bytes keyword).length) = Text.bytes r := by
    intro k r hlow
    rw [Text.length_bytes, ← Text.byteSize_of_lower_eq hlow, ← Text.byteSize_append, ← List.append_assoc,
      Text.drop_bytes]
  constructor
  · rintro ⟨hunquoted, hlevel, hplain, hspelled, hbefore, hbehind⟩
    rw [Text.drop_bytes] at hplain hspelled
    obtain ⟨k, r, rfl, hlow⟩ := spelled_iff.1 hspelled
    rw [Text.take_bytes] at hbefore
    rw [behind hlow] at hbehind
    have hne : k ++ r ≠ [] := List.append_ne_nil_of_left_ne_nil (Text.ne_nil_of_lower_eq hlow hk) r
    refine ⟨(top_iff a _).2 ⟨hunquoted, hlevel⟩, (plain_iff hne).1 hplain,
      startsWithKeyword_iff.2 ⟨k, r, rfl, hlow, ?_, ?_⟩⟩
    · exact (isBreak_iff (any_head_bytes keyword) (any_last_bytes a)).2 hbefore
    · exact (isBreak_iff (any_last_bytes keyword) (any_head_bytes r)).2 hbehind
  · rintro ⟨htop, hhead, hword⟩
    obtain ⟨k, r, rfl, hlow, hbefore, hbehind⟩ := startsWithKeyword_iff.1 hword
    have hne : k ++ r ≠ [] := List.append_ne_nil_of_left_ne_nil (Text.ne_nil_of_lower_eq hlow hk) r
    obtain ⟨hunquoted, hlevel⟩ := (top_iff a (k ++ r)).1 htop
    refine ⟨hunquoted, hlevel, ?_, ?_, ?_, ?_⟩
    · rw [Text.drop_bytes]
      exact (plain_iff hne).2 hhead
    · rw [Text.drop_bytes]
      exact spelled_iff.2 ⟨k, r, rfl, hlow⟩
    · rw [Text.take_bytes]
      exact (isBreak_iff (any_head_bytes keyword) (any_last_bytes a)).1 hbefore
    · rw [behind hlow]
      exact (isBreak_iff (any_last_bytes keyword) (any_head_bytes r)).1 hbehind

theorem keywordAt_iff {keyword s : Text} {i : Nat} (hk : keyword ≠ []) :
    KeywordAt (Text.bytes keyword) (Text.bytes s) i ↔
      ∃ a b, s = a ++ b ∧ Text.byteSize a = i ∧ StandsAt keyword a b := by
  constructor
  · intro h
    obtain ⟨a, b, rfl, rfl⟩ := h.exists_cut hk
    exact ⟨a, b, rfl, rfl, (keywordAt_append_iff hk).1 h⟩
  · rintro ⟨a, b, rfl, rfl, hab⟩
    exact (keywordAt_append_iff hk).2 hab

/-! ## The search -/

theorem findTopLevel_eq_some_iff_isLeast {s keyword : Text} {start i : Nat} (hk : keyword ≠ []) :
    findTopLevel s keyword start = some i ↔
      IsLeast {j | start ≤ j ∧ KeywordAt (Text.bytes keyword) (Text.bytes s) j} i := by
  rw [findTopLevel_eq_some_iff]
  constructor
  · rintro ⟨a, b, rfl, rfl, hstart, hab, hfirst⟩
    refine ⟨⟨hstart, (keywordAt_append_iff hk).2 hab⟩, ?_⟩
    rintro j ⟨hj, hat⟩
    obtain ⟨a', b', hs, rfl, hab'⟩ := (keywordAt_iff hk).1 hat
    exact hfirst a' b' hs hj hab'
  · rintro ⟨⟨hstart, hat⟩, hleast⟩
    obtain ⟨a, b, rfl, rfl, hab⟩ := (keywordAt_iff hk).1 hat
    refine ⟨a, b, rfl, rfl, hstart, hab, fun a' b' hs hstart' hab' => ?_⟩
    exact hleast ⟨hstart', (keywordAt_iff hk).2 ⟨a', b', hs, rfl, hab'⟩⟩

theorem findTopLevel_eq_none_iff_keywordAt {s keyword : Text} {start : Nat} (hk : keyword ≠ []) :
    findTopLevel s keyword start = none ↔
      ∀ j, start ≤ j → ¬ KeywordAt (Text.bytes keyword) (Text.bytes s) j := by
  rw [findTopLevel_eq_none_iff]
  constructor
  · intro h j hj hat
    obtain ⟨a, b, hs, rfl, hab⟩ := (keywordAt_iff hk).1 hat
    exact h a b hs hj hab
  · intro h a b hs hstart hab
    exact h _ hstart ((keywordAt_iff hk).2 ⟨a, b, hs, rfl, hab⟩)

/-- The search for a keyword from a position on finds the least position, not before that one, where the keyword stands
at top level and as a whole word, in bytes. It finds nothing exactly when there is no such position. -/
theorem findTopLevel_exact {keyword : Text} (hk : keyword ≠ []) (s : Text) (start : Nat) :
    (∀ i, findTopLevel s keyword start = some i ↔
      IsLeast {j | start ≤ j ∧ KeywordAt (Text.bytes keyword) (Text.bytes s) j} i) ∧
    (findTopLevel s keyword start = none ↔
      ∀ j, start ≤ j → ¬ KeywordAt (Text.bytes keyword) (Text.bytes s) j) :=
  ⟨fun _ => findTopLevel_eq_some_iff_isLeast hk, findTopLevel_eq_none_iff_keywordAt hk⟩

/-- In a literal, in parentheses and inside a word a keyword does not count; behind a letter past ASCII it does. -/
theorem findTopLevel_exact_word :
    let keyword := "FROM".toList
    let s := "SELECT 'é FROM', (x FROM y), aFROM, éfrom t".toList
    keyword ≠ [] ∧ findTopLevel s keyword 9 = some 39 ∧
      IsLeast {j | 9 ≤ j ∧ KeywordAt (Text.bytes keyword) (Text.bytes s) j} 39 ∧
      ∀ j, 40 ≤ j → ¬ KeywordAt (Text.bytes keyword) (Text.bytes s) j := by
  intro keyword s
  have hk : keyword ≠ [] := by decide
  have hfound : findTopLevel s keyword 9 = some 39 := by decide +kernel
  have hnone : findTopLevel s keyword 40 = none := by decide +kernel
  exact ⟨hk, hfound, ((findTopLevel_exact hk s 9).1 39).1 hfound, (findTopLevel_exact hk s 40).2.1 hnone⟩

end SensorRegistry.Sql
