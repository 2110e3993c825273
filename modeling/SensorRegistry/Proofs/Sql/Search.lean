/-
The keyword search in terms of cuts: `findTopLevel` gives the size of the shortest prefix behind
which the keyword stands at top level as a whole word, and nothing exactly when there is none.

The state of the search is a function of the prefix that it has passed, so the induction is over the
rest of the text with the prefix as its parameter. Everything that later proofs need of a search is
a statement about cuts (`StandsAt`) and about stretches without one (`Clear`).
-/
import SensorRegistry.Proofs.Sql.Span

namespace SensorRegistry

/-! ## Letter case -/

/-- What does not tell a capital from its small letter does not tell a character from its lower
case. -/
theorem eq_toLower_of_capitals {α : Type} (f : Char → α)
    (h : ∀ n < 26, f (Char.ofNat (65 + n)).toLower = f (Char.ofNat (65 + n))) (c : Char) : f c.toLower = f c := by
  by_cases hc : 'A'.val ≤ c.val ∧ c.val ≤ 'Z'.val
  · have h1 : 65 ≤ c.toNat := UInt32.le_iff_toNat_le.1 hc.1
    have h2 : c.toNat ≤ 90 := UInt32.le_iff_toNat_le.1 hc.2
    have hn : Char.ofNat (65 + (c.toNat - 65)) = c := by
      rw [Nat.add_sub_of_le h1, Char.ofNat_toNat]
    have := h (c.toNat - 65) (by omega)
    rwa [hn] at this
  · unfold Char.toLower
    rw [dif_neg hc]

theorem Text.length_of_lower_eq {k w : Text} (h : lower k = lower w) : k.length = w.length := by
  simpa [lower] using congrArg List.length h

theorem Text.ne_nil_of_lower_eq {k w : Text} (h : lower k = lower w) (hw : w ≠ []) : k ≠ [] := by
  rintro rfl
  exact hw (List.map_eq_nil_iff.1 h.symm)

theorem Text.byteSize_lower (s : Text) : byteSize (lower s) = byteSize s := by
  induction s with
  | nil => rfl
  | cons c s ih =>
    rw [lower, List.map_cons, byteSize, byteSize, eq_toLower_of_capitals Char.utf8Size (by decide)]
    exact congrArg _ ih

theorem Text.byteSize_of_lower_eq {k w : Text} (h : lower k = lower w) : byteSize k = byteSize w := by
  rw [← byteSize_lower k, h, byteSize_lower]

namespace Sql

theorem isIdentifierChar_toLower (c : Char) : isIdentifierChar c.toLower = isIdentifierChar c :=
  eq_toLower_of_capitals isIdentifierChar (by decide) c

theorem isDelimiter_toLower (c : Char) : isDelimiter c.toLower = isDelimiter c :=
  eq_toLower_of_capitals isDelimiter (by decide) c

theorem isBlank_toLower (c : Char) : Text.isBlank c.toLower = Text.isBlank c :=
  eq_toLower_of_capitals Text.isBlank (by decide) c

theorem toNat_of_isIdentifierChar {c : Char} (hc : isIdentifierChar c = true) : 36 ≤ c.toNat ∧ c.toNat ≤ 122 := by
  have between : ∀ {a b : Char}, (decide (c.val ≥ a.val) && decide (c.val ≤ b.val)) = true →
      a.toNat ≤ c.toNat ∧ c.toNat ≤ b.toNat := by
    intro a b h
    rw [Bool.and_eq_true, decide_eq_true_eq, decide_eq_true_eq] at h
    exact ⟨UInt32.le_iff_toNat_le.1 h.1, UInt32.le_iff_toNat_le.1 h.2⟩
  simp only [isIdentifierChar, Bool.or_eq_true, beq_iff_eq] at hc
  rcases hc with ((halnum | rfl) | rfl) | rfl
  · have hkinds : ((c.isUpper || c.isLower) || c.isDigit) = true := halnum
    rw [Bool.or_eq_true, Bool.or_eq_true] at hkinds
    rcases hkinds with (hupper | hlower) | hdigit
    · obtain ⟨h1, h2⟩ := of_decide_eq_true hupper
      have h1 : 65 ≤ c.toNat := UInt32.le_iff_toNat_le.1 h1
      have h2 : c.toNat ≤ 90 := UInt32.le_iff_toNat_le.1 h2
      omega
    · obtain ⟨h1, h2⟩ := between (a := 'a') (b := 'z') hlower
      exact ⟨Nat.le_trans (by decide) h1, h2⟩
    · obtain ⟨h1, h2⟩ := between (a := '0') (b := '9') hdigit
      exact ⟨Nat.le_trans (by decide) h1, Nat.le_trans h2 (by decide)⟩
  · decide
  · decide
  · decide

/-- White space is no part of an identifier: its code points lie outside the range of those. -/
theorem isIdentifierChar_of_isBlank {c : Char} (hc : Text.isBlank c = true) : isIdentifierChar c = false := by
  by_contra h
  have := toNat_of_isIdentifierChar (Bool.not_eq_false _ ▸ h)
  simp only [Text.isBlank, Text.blankRanges, List.any_cons, List.any_nil, Bool.or_false, Bool.or_eq_true,
    Bool.and_eq_true, decide_eq_true_eq] at hc
  omega

theorem isBlank_of_isIdentifierChar {c : Char} (hc : isIdentifierChar c = true) : Text.isBlank c = false := by
  by_contra h
  rw [isIdentifierChar_of_isBlank (Bool.not_eq_false _ ▸ h)] at hc
  cases hc

theorem eq_of_isDelimiter {c : Char} (h : isDelimiter c = true) : c = '\'' ∨ c = '(' ∨ c = ')' := by
  simpa [isDelimiter, or_assoc] using h

theorem isDelimiter_of_isBlank {c : Char} (hc : Text.isBlank c = true) : isDelimiter c = false := by
  by_contra h
  rcases eq_of_isDelimiter (Bool.not_eq_false _ ▸ h) with rfl | rfl | rfl <;> revert hc <;> decide

theorem isDelimiter_of_isIdentifierChar {c : Char} (hc : isIdentifierChar c = true) : isDelimiter c = false := by
  by_contra h
  rcases eq_of_isDelimiter (Bool.not_eq_false _ ▸ h) with rfl | rfl | rfl <;> revert hc <;> decide

/-- What a character and its lower case share is shared by the ends of two spellings of a word. -/
theorem head_of_lower_eq {α : Type} {f : Char → α} (hf : ∀ c, f c.toLower = f c) {k w : Text}
    (h : Text.lower k = Text.lower w) : k.head?.map f = w.head?.map f := by
  have := congrArg (fun s => (List.head? s).map f) h
  simpa [Text.lower, hf, Function.comp_def] using this

theorem getLast_of_lower_eq {α : Type} {f : Char → α} (hf : ∀ c, f c.toLower = f c) {k w : Text}
    (h : Text.lower k = Text.lower w) : k.getLast?.map f = w.getLast?.map f := by
  have := congrArg (fun s => (List.getLast? s).map f) h
  simpa [Text.lower, hf, Function.comp_def] using this

/-! ## Breaks -/

theorem isBreak_comm (x y : Option Char) : isBreak x y = isBreak y x := by
  unfold isBreak
  rw [Bool.and_comm]

theorem isBreak_nil (x : Option Char) : isBreak x none = true := by simp [isBreak]

theorem isBreak_of_separator {c : Char} (hc : isIdentifierChar c = false) (x : Option Char) :
    isBreak x (some c) = true := by simp [isBreak, hc]

/-- A break does not tell a character from the same one in lower case. -/
theorem isBreak_of_map_eq {x x' : Option Char} (h : x.map isIdentifierChar = x'.map isIdentifierChar)
    (y : Option Char) : isBreak x y = isBreak x' y := by
  unfold isBreak
  cases x <;> cases x' <;> simp_all

theorem not_isIdentifierChar_of_isBreak {x : Option Char} {s : Option Char} (hx : x.any isIdentifierChar = true)
    (h : isBreak x s = true) : ∀ c ∈ s, isIdentifierChar c = false := by
  rintro c rfl
  simpa [isBreak, hx] using h

/-! ## Nesting -/

namespace Nesting

theorem after_cons (n : Nesting) (c : Char) (s : Text) : n.after (c :: s) = (n.step c).after s := rfl

theorem after_append (n : Nesting) (a b : Text) : n.after (a ++ b) = (n.after a).after b :=
  List.foldl_append

theorem step_of_not_delimiter {c : Char} (h : isDelimiter c = false) (n : Nesting) : n.step c = n := by
  simp only [isDelimiter, Bool.or_eq_false_iff, beq_eq_false_iff_ne, ne_eq] at h
  obtain ⟨⟨h1, h2⟩, h3⟩ := h
  unfold step
  rw [if_neg h1, if_neg h1, if_neg h2, if_neg h3, ite_self]

/-- Only delimiters change the nesting. -/
theorem after_of_not_delimiter {s : Text} (h : ∀ c ∈ s, isDelimiter c = false) (n : Nesting) : n.after s = n := by
  induction s with
  | nil => rfl
  | cons c s ih =>
    rw [after_cons, step_of_not_delimiter (h c (by simp)), ih fun d hd => h d (List.mem_cons_of_mem c hd)]

theorem after_append_blank {x : Text} (hx : Text.AllBlank x) (n : Nesting) (a : Text) :
    n.after (a ++ x) = n.after a := by
  rw [after_append, after_of_not_delimiter fun c hc => isDelimiter_of_isBlank (hx c hc)]

end Nesting

/-! ## Keywords -/

theorem afterKeyword?_eq_some_iff {keyword s r : Text} :
    afterKeyword? keyword s = some r ↔ ∃ k, s = k ++ r ∧ Text.lower k = Text.lower keyword := by
  induction keyword generalizing s with
  | nil =>
    constructor
    · intro h; cases h; exact ⟨[], rfl, rfl⟩
    · rintro ⟨k, rfl, hk⟩
      rw [List.map_eq_nil_iff.1 hk]; rfl
  | cons c keyword ih =>
    cases s with
    | nil =>
      constructor
      · intro h; cases h
      · rintro ⟨k, hs, hk⟩
        rw [(List.append_eq_nil_iff.1 hs.symm).1] at hk
        cases hk
    | cons d s =>
      rw [afterKeyword?]
      constructor
      · intro h
        split at h
        · rename_i hc
          obtain ⟨k, rfl, hk⟩ := ih.1 h
          exact ⟨d :: k, rfl, by rw [Text.lower, Text.lower, List.map_cons, List.map_cons, hc]; exact congrArg _ hk⟩
        · cases h
      · rintro ⟨k, hs, hk⟩
        cases k with
        | nil => cases hk
        | cons e k =>
          obtain ⟨rfl, ht⟩ := List.cons.inj hs
          obtain ⟨hc, hk⟩ := List.cons.inj hk
          rw [if_pos hc.symm]
          exact ih.2 ⟨k, ht, hk⟩

/-- A keyword at the start of a text: its letters in any case, with no identifier running on at
either end. -/
theorem startsWithKeyword_iff {keyword : Text} {before : Option Char} {s : Text} :
    startsWithKeyword keyword before s = true ↔
      ∃ k r, s = k ++ r ∧ Text.lower k = Text.lower keyword ∧ isBreak keyword.head? before = true ∧
        isBreak keyword.getLast? r.head? = true := by
  unfold startsWithKeyword
  constructor
  · intro h
    split at h
    · cases h
    · rename_i r hr
      obtain ⟨k, hs, hk⟩ := afterKeyword?_eq_some_iff.1 hr
      rw [Bool.and_eq_true] at h
      exact ⟨k, r, hs, hk, h⟩
  · rintro ⟨k, r, hs, hk, h1, h2⟩
    rw [afterKeyword?_eq_some_iff.2 ⟨k, hs, hk⟩]
    simp [h1, h2]

/-! ## Cuts -/

/-- The keyword stands where `a` ends and `b` begins: at top level, and as a whole word. -/
structure StandsAt (keyword a b : Text) : Prop where
  top : Nesting.outer.after a = .outer
  head : ∃ c ∈ b.head?, isDelimiter c = false
  word : startsWithKeyword keyword a.getLast? b = true

theorem StandsAt.ne_nil {keyword a b : Text} (h : StandsAt keyword a b) : b ≠ [] := by
  rintro rfl
  obtain ⟨c, hc, -⟩ := h.head
  cases hc

/-- What the keyword's first character says regardless of case, the text behind the cut says. -/
theorem StandsAt.head_map {α : Type} {keyword a b : Text} (h : StandsAt keyword a b) (hne : keyword ≠ [])
    {f : Char → α} (hf : ∀ c, f c.toLower = f c) : b.head?.map f = keyword.head?.map f := by
  obtain ⟨k, r, rfl, hk, -, -⟩ := startsWithKeyword_iff.1 h.word
  rw [List.head?_append_of_ne_nil _ (Text.ne_nil_of_lower_eq hk hne), head_of_lower_eq hf hk]

/-- Where the search goes on past a character, every later cut leaves that character in front. -/
theorem StandsAt.behind {keyword p rest a b : Text} {c : Char} {start : Nat}
    (hc : ¬ (Nesting.outer.after p = .outer ∧ isDelimiter c = false ∧ start ≤ Text.byteSize p ∧
      startsWithKeyword keyword p.getLast? (c :: rest) = true))
    (hs : c :: rest = a ++ b) (hst : start ≤ Text.byteSize (p ++ a)) (hab : StandsAt keyword (p ++ a) b) :
    ∃ a', a = c :: a' ∧ rest = a' ++ b := by
  cases a with
  | nil =>
    rw [List.append_nil] at hst hab
    obtain rfl : c :: rest = b := hs
    obtain ⟨d, hd, hd'⟩ := hab.head
    cases hd
    exact absurd ⟨hab.top, hd', hst, hab.word⟩ hc
  | cons d a' =>
    obtain ⟨rfl, ht⟩ := List.cons.inj hs
    exact ⟨a', rfl, ht⟩

/-- Passing a character takes the state of the search behind `p` to its state behind `p ++ [c]`. -/
theorem seek_pass (keyword : Text) (start : Nat) (p rest : Text) (c : Char) :
    seek keyword start ((Nesting.outer.after p).step c) (some c) (Text.byteSize p + c.utf8Size) rest =
      seek keyword start (Nesting.outer.after (p ++ [c])) (p ++ [c]).getLast? (Text.byteSize (p ++ [c])) rest := by
  rw [Nesting.after_append, Text.byteSize_append, List.getLast?_concat]
  rfl

/-- The search has passed `p` and reads the rest: it stops behind the shortest `a` where the keyword
stands. -/
theorem seek_eq_some_iff {keyword : Text} {start q : Nat} {p rest : Text} :
    seek keyword start (Nesting.outer.after p) p.getLast? (Text.byteSize p) rest = some q ↔
      ∃ a b, rest = a ++ b ∧ Text.byteSize (p ++ a) = q ∧ start ≤ q ∧ StandsAt keyword (p ++ a) b ∧
        ∀ a' b', rest = a' ++ b' → start ≤ Text.byteSize (p ++ a') → StandsAt keyword (p ++ a') b' →
          Text.byteSize a ≤ Text.byteSize a' := by
  induction rest generalizing p with
  | nil =>
    constructor
    · intro h; cases h
    · rintro ⟨a, b, hs, -, -, hab, -⟩
      exact absurd (List.append_eq_nil_iff.1 hs.symm).2 hab.ne_nil
  | cons c rest ih =>
    rw [seek]
    split
    · rename_i hc
      obtain ⟨hn, hd, hst, hw⟩ := hc
      have here : StandsAt keyword (p ++ []) (c :: rest) := by
        rw [List.append_nil]; exact ⟨hn, ⟨c, rfl, hd⟩, hw⟩
      constructor
      · intro h
        cases h
        exact ⟨[], c :: rest, rfl, by simp, by simpa using hst, here, fun a' _ _ _ _ => Nat.zero_le _⟩
      · rintro ⟨a, b, -, hq, -, -, hmin⟩
        have ha : a = [] := Text.byteSize_eq_zero (Nat.le_zero.1 (hmin [] _ rfl (by simpa using hst) here))
        rw [ha, List.append_nil] at hq
        rw [hq]
    · rename_i hc
      have hcons : ∀ a : Text, p ++ [c] ++ a = p ++ c :: a := fun a => by simp
      rw [seek_pass, ih]
      constructor
      · rintro ⟨a, b, rfl, hq, hst, hab, hmin⟩
        rw [hcons] at hq hab
        refine ⟨c :: a, b, rfl, hq, hst, hab, fun a' b' hs' hst' hab' => ?_⟩
        obtain ⟨a'', rfl, hs''⟩ := hab'.behind hc hs' hst'
        have := hmin a'' b' hs'' (by rwa [hcons]) (by rwa [hcons])
        rw [Text.byteSize, Text.byteSize]; omega
      · rintro ⟨a, b, hs, hq, hst, hab, hmin⟩
        obtain ⟨a, rfl, hs'⟩ := hab.behind hc hs (by omega)
        refine ⟨a, b, hs', by rwa [hcons], hst, by rwa [hcons], fun a' b' hs'' hst' hab' => ?_⟩
        rw [hcons] at hst' hab'
        have := hmin (c :: a') b' (by rw [hs'']; rfl) hst' hab'
        rw [Text.byteSize, Text.byteSize] at this; omega

theorem seek_eq_none {keyword : Text} {start : Nat} {p rest : Text}
    (h : seek keyword start (Nesting.outer.after p) p.getLast? (Text.byteSize p) rest = none) :
    ∀ a b, rest = a ++ b → start ≤ Text.byteSize (p ++ a) → ¬ StandsAt keyword (p ++ a) b := by
  induction rest generalizing p with
  | nil =>
    intro a b hs _ hab
    exact hab.ne_nil (List.append_eq_nil_iff.1 hs.symm).2
  | cons c rest ih =>
    rw [seek] at h
    split at h
    · cases h
    · rename_i hc
      intro a b hs hst hab
      obtain ⟨a', rfl, hs'⟩ := hab.behind hc hs hst
      have hcons : p ++ c :: a' = p ++ [c] ++ a' := by simp
      rw [hcons] at hst hab
      rw [seek_pass] at h
      exact ih h a' b hs' hst hab

/-- The keyword search finds the first cut, not before `start`, where the keyword stands. -/
theorem findTopLevel_eq_some_iff {s keyword : Text} {start q : Nat} :
    findTopLevel s keyword start = some q ↔
      ∃ a b, s = a ++ b ∧ Text.byteSize a = q ∧ start ≤ q ∧ StandsAt keyword a b ∧
        ∀ a' b', s = a' ++ b' → start ≤ Text.byteSize a' → StandsAt keyword a' b' →
          Text.byteSize a ≤ Text.byteSize a' :=
  seek_eq_some_iff (p := [])

theorem findTopLevel_eq_none_iff {s keyword : Text} {start : Nat} :
    findTopLevel s keyword start = none ↔
      ∀ a b, s = a ++ b → start ≤ Text.byteSize a → ¬ StandsAt keyword a b := by
  constructor
  · intro h
    exact seek_eq_none (p := []) h
  · intro h
    by_contra hne
    obtain ⟨q, hq⟩ := Option.ne_none_iff_exists'.1 hne
    obtain ⟨a, b, hs, ha, hst, hab, -⟩ := findTopLevel_eq_some_iff.1 hq
    exact h a b hs (by omega) hab

/-! ## Stretches without the keyword -/

/-- The keyword stands nowhere in the stretch `m` of the text `b ++ m ++ t`. -/
def Clear (keyword b m t : Text) : Prop :=
  ∀ u v, m = u ++ v → v ≠ [] → ¬ StandsAt keyword (b ++ u) (v ++ t)

theorem clear_nil {keyword b t : Text} : Clear keyword b [] t := by
  intro u v hs hv
  exact absurd (List.append_eq_nil_iff.1 hs.symm).2 hv

theorem clear_append_iff {keyword b m m' t : Text} :
    Clear keyword b (m ++ m') t ↔ Clear keyword b m (m' ++ t) ∧ Clear keyword (b ++ m) m' t := by
  constructor
  · intro h
    constructor
    · rintro u v rfl hv
      rw [← List.append_assoc]
      exact h u (v ++ m') (by simp) (by simp [hv])
    · rintro u v rfl hv
      rw [List.append_assoc]
      exact h (m ++ u) v (by simp) hv
  · rintro ⟨h1, h2⟩ u v hs hv hab
    rcases List.append_eq_append_iff.1 hs with ⟨w, rfl, rfl⟩ | ⟨w, rfl, rfl⟩
    · rw [← List.append_assoc] at hab
      exact h2 w v rfl hv hab
    · by_cases hw : w = []
      · subst hw
        exact h2 [] m' rfl hv (by simpa using hab)
      · rw [List.append_assoc] at hab
        exact h1 u w rfl hw hab

/-- The first place behind `b` where the keyword stands, as a cut of what follows `b`. -/
theorem findTopLevel_behind {keyword b rest : Text} {q : Nat} :
    findTopLevel (b ++ rest) keyword (Text.byteSize b) = some q ↔
      ∃ m t, rest = m ++ t ∧ Text.byteSize (b ++ m) = q ∧ StandsAt keyword (b ++ m) t ∧ Clear keyword b m t := by
  rw [findTopLevel_eq_some_iff]
  constructor
  · rintro ⟨a, t, hs, hq, hst, hab, hmin⟩
    obtain ⟨m, rfl, rfl⟩ := Text.cut_le hs (by omega)
    refine ⟨m, t, rfl, hq, hab, ?_⟩
    rintro u v rfl hv hu
    have := hmin (b ++ u) (v ++ t) (by simp) (by rw [Text.byteSize_append]; omega) hu
    have := Text.byteSize_pos hv
    rw [Text.byteSize_append, Text.byteSize_append, Text.byteSize_append] at *
    omega
  · rintro ⟨m, t, rfl, hq, hab, hclear⟩
    refine ⟨b ++ m, t, by simp, hq, by rw [← hq, Text.byteSize_append]; omega, hab, fun a' b' hs hst hab' => ?_⟩
    by_contra hlt
    obtain ⟨u, rfl, h⟩ := Text.cut_le hs hst
    rw [Text.byteSize_append, Text.byteSize_append] at hlt
    obtain ⟨v, rfl, rfl⟩ := Text.cut_le h.symm (by omega)
    refine hclear u v rfl ?_ hab'
    rintro rfl
    rw [List.append_nil] at hlt
    omega

theorem findTopLevel_behind_eq_none {keyword b rest : Text} :
    findTopLevel (b ++ rest) keyword (Text.byteSize b) = none ↔ Clear keyword b rest [] := by
  rw [findTopLevel_eq_none_iff]
  constructor
  · rintro h u v rfl hv
    rw [List.append_nil]
    exact h (b ++ u) v (by simp) (by rw [Text.byteSize_append]; omega)
  · intro h a t hs hst hab
    obtain ⟨m, rfl, rfl⟩ := Text.cut_le hs hst
    refine h m t rfl hab.ne_nil ?_
    rwa [List.append_nil]

/-- The first place behind `b` where any of the keywords stands. -/
theorem findFirstOf_behind {keywords : List Text} {b rest : Text} {q : Nat} :
    findFirstOf (b ++ rest) keywords (Text.byteSize b) = some q ↔
      ∃ m t, rest = m ++ t ∧ Text.byteSize (b ++ m) = q ∧ (∃ k ∈ keywords, StandsAt k (b ++ m) t) ∧
        ∀ k ∈ keywords, Clear k b m t := by
  unfold findFirstOf
  rw [List.min?_eq_some_iff]
  simp only [List.mem_filterMap]
  constructor
  · rintro ⟨⟨k, hk, hq⟩, hmin⟩
    obtain ⟨m, t, rfl, hq, hab, -⟩ := findTopLevel_behind.1 hq
    refine ⟨m, t, rfl, hq, ⟨k, hk, hab⟩, ?_⟩
    rintro k' hk' u v rfl hv hu
    -- a keyword inside the stretch would be found before its end
    cases h : findTopLevel (b ++ (u ++ v ++ t)) k' (Text.byteSize b) with
    | none =>
      refine findTopLevel_eq_none_iff.1 h (b ++ u) (v ++ t) (by simp) ?_ hu
      rw [Text.byteSize_append]; omega
    | some q' =>
      have hle := hmin q' ⟨k', hk', h⟩
      obtain ⟨a, t', hs, ha, -, -, hfirst⟩ := findTopLevel_eq_some_iff.1 h
      have := hfirst (b ++ u) (v ++ t) (by simp) (by rw [Text.byteSize_append]; omega) hu
      have := Text.byteSize_pos hv
      rw [← List.append_assoc, Text.byteSize_append] at hq
      omega
  · rintro ⟨m, t, rfl, hq, ⟨k, hk, hab⟩, hclear⟩
    refine ⟨⟨k, hk, findTopLevel_behind.2 ⟨m, t, rfl, hq, hab, hclear k hk⟩⟩, ?_⟩
    rintro q' ⟨k', hk', h⟩
    obtain ⟨m', t', hs, hq', hab', -⟩ := findTopLevel_behind.1 h
    rw [← hq, ← hq', Text.byteSize_append, Text.byteSize_append]
    by_contra hlt
    obtain ⟨v, rfl, rfl⟩ := Text.cut_le hs.symm (by omega)
    refine hclear k' hk' m' v rfl ?_ hab'
    rintro rfl
    rw [List.append_nil] at hlt
    omega

theorem findFirstOf_behind_eq_none {keywords : List Text} {b rest : Text} :
    findFirstOf (b ++ rest) keywords (Text.byteSize b) = none ↔ ∀ k ∈ keywords, Clear k b rest [] := by
  unfold findFirstOf
  rw [List.min?_eq_none_iff, List.filterMap_eq_nil_iff]
  simp only [findTopLevel_behind_eq_none]

end Sql

end SensorRegistry
