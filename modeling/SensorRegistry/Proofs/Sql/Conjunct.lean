/-
Conjuncts: texts that can stand between ANDs. One is balanced, and wherever it stands, neither OR nor
a keyword that ends a condition stands in it at top level. What conjuncts are put together from is
looked at once: a text without white space or delimiters is clear of the clause keywords exactly when
none of its identifiers is one. A conjunction of conjuncts is a conjunct again, and what a conjunction
is clear of its parts are clear of.
-/
import SensorRegistry.Proofs.Sql.Words

namespace SensorRegistry.Sql

/-! ## Balance -/

/-- Literals are closed and parentheses nested: the depth never falls below zero and ends there. -/
structure Balanced (s : Text) : Prop where
  closed : Nesting.outer.after s = .outer
  nested : ∀ p, p <+: s → 0 ≤ (Nesting.outer.after p).depth

instance (s : Text) : Decidable (Balanced s) :=
  decidable_of_iff (Nesting.outer.after s = .outer ∧ ∀ p ∈ s.inits, 0 ≤ (Nesting.outer.after p).depth)
    ⟨fun h => ⟨h.1, fun p hp => h.2 p ((List.mem_inits p s).2 hp)⟩,
      fun h => ⟨h.closed, fun p hp => h.nested p ((List.mem_inits p s).1 hp)⟩⟩

theorem Balanced.append {a b : Text} (ha : Balanced a) (hb : Balanced b) : Balanced (a ++ b) := by
  refine ⟨by rw [Nesting.after_append, ha.closed, hb.closed], fun p hp => ?_⟩
  rcases List.prefix_or_prefix_of_prefix hp (List.prefix_append a b) with h | ⟨q, rfl⟩
  · exact ha.nested p h
  · rw [Nesting.after_append, ha.closed]
    exact hb.nested q ((List.prefix_append_right_inj a).1 hp)

/-- What is balanced stays so between prefixes and suffixes that leave the top level. -/
theorem Balanced.of_append {a m b : Text} (h : Balanced (a ++ m ++ b)) (ha : Nesting.outer.after a = .outer)
    (ham : Nesting.outer.after (a ++ m) = .outer) : Balanced m := by
  rw [Nesting.after_append, ha] at ham
  refine ⟨ham, fun p hp => ?_⟩
  have := h.nested (a ++ p) (((List.prefix_append_right_inj a).2 hp).trans (List.prefix_append _ _))
  rwa [Nesting.after_append, ha] at this

/-- One level deeper everything is one level deeper. -/
theorem Nesting.after_deeper (d : Int) (n : Nesting) (s : Text) :
    (Nesting.mk (d + n.depth) n.quoted).after s = ⟨d + (n.after s).depth, (n.after s).quoted⟩ := by
  induction s generalizing n with
  | nil => rfl
  | cons c s ih =>
    have hstep : (Nesting.mk (d + n.depth) n.quoted).step c = ⟨d + (n.step c).depth, (n.step c).quoted⟩ := by
      unfold Nesting.step
      split_ifs <;> simp only [Nesting.mk.injEq, and_true] <;> omega
    rw [after_cons, after_cons, hstep, ih]

theorem after_open (s : Text) :
    Nesting.outer.after ('(' :: s) = ⟨1 + (Nesting.outer.after s).depth, (Nesting.outer.after s).quoted⟩ :=
  Nesting.after_deeper 1 .outer s

theorem Balanced.group {s : Text} (h : Balanced s) : Balanced ('(' :: s ++ [')']) := by
  have hclosed : Nesting.outer.after ('(' :: s ++ [')']) = .outer := by
    rw [Nesting.after_append, after_open, h.closed]; rfl
  refine ⟨hclosed, fun p hp => ?_⟩
  rcases List.prefix_concat_iff.1 hp with rfl | hp
  · rw [hclosed]; exact Int.le_refl 0
  · rcases List.prefix_cons_iff.1 hp with rfl | ⟨q, rfl, hq⟩
    · exact Int.le_refl 0
    · have := h.nested q hq
      rw [after_open]
      exact Int.add_nonneg (by decide) this

/-- No keyword stands in parentheses. -/
theorem Balanced.clear_group {s : Text} (h : Balanced s) (keyword : Text) {b : Text}
    (hb : Nesting.outer.after b = .outer) (t : Text) : Clear keyword b ('(' :: s ++ [')']) t := by
  intro u v hs hv hab
  have htop := hab.top
  rw [Nesting.after_append, hb] at htop
  cases u with
  | nil =>
    obtain rfl : '(' :: s ++ [')'] = v := hs
    obtain ⟨c, hc, hd⟩ := hab.head
    cases hc
    revert hd; decide
  | cons c u =>
    obtain ⟨rfl, hu⟩ : '(' = c ∧ s ++ [')'] = u ++ v := List.cons.inj hs
    -- the cut lies behind the opening parenthesis and not behind the closing one
    have hpre : u <+: s := by
      rcases List.prefix_concat_iff.1 ⟨v, hu.symm⟩ with rfl | h'
      · exact absurd (by simpa using hu) hv
      · exact h'
    have hdeep := h.nested u hpre
    rw [after_open] at htop
    have := congrArg Nesting.depth htop
    simp only [Nesting.outer] at this hdeep
    omega

/-! ## Words of clause keywords -/

/-- The words of the clause keywords, in small letters. -/
def clauseWords : List Text := (clauseKeywords.flatMap Text.words).map Text.lower

/-- None of the text's identifiers is, ignoring case, a word of a clause keyword. -/
def Wordless (s : Text) : Prop := ∀ w ∈ identifiers s, Text.lower w ∉ clauseWords

instance (s : Text) : Decidable (Wordless s) := List.decidableBAll _ (identifiers s)

theorem Wordless.append {a b : Text} (ha : Wordless a) (hb : Wordless b) {c : Char} (hc : isIdentifierChar c = false) :
    Wordless (a ++ c :: b) := by
  intro w hw
  rw [identifiers_append hc] at hw
  rcases List.mem_append.1 hw with h | h
  · exact ha w h
  · exact hb w h

theorem Wordless.clear {x : Text} (hx : Wordless x) {k : Text} (hk : k ∈ clauseKeywords) (b : Text) {t : Text}
    (ht : isBreak x.getLast? t.head? = true) : Clear k b x t := by
  have hfirst : ∀ k ∈ clauseKeywords, Text.lower (k.takeWhile isIdentifierChar) ∈ clauseWords := by decide +kernel
  exact clear_of_identifiers (clauseKeyword_of_mem hk).first (fun w hw he => hx w hw (he ▸ hfirst k hk)) ht

/-! ## Whole keywords -/

/-- None of the text's identifiers is, ignoring case, a whole clause keyword. -/
def Keywordless (s : Text) : Prop := ∀ w ∈ identifiers s, Text.lower w ∉ clauseKeywords.map Text.lower

instance (s : Text) : Decidable (Keywordless s) := List.decidableBAll _ (identifiers s)

/-- A text without white space is clear of the clause keywords in front of a fence, if none of its identifiers is one.
A keyword of two words would have to begin in the text and end in it too. -/
theorem Keywordless.clear {x : Text} (hx : Keywordless x) (hvisible : ∀ c ∈ x, Text.isBlank c = false) {k : Text}
    (hk : k ∈ clauseKeywords) (b : Text) {t : Text} (ht : Fence t) : Clear k b x t := by
  have words : ∀ k ∈ clauseKeywords, k.takeWhile isIdentifierChar = k ∨ ' ' ∈ Text.lower k := by decide +kernel
  rcases words k hk with hone | hspace
  · refine clear_of_identifiers (clauseKeyword_of_mem hk).first (fun w hw hlow => ?_) (ht.isBreak _)
    rw [hone] at hlow
    exact hx w hw (hlow ▸ List.mem_map_of_mem hk)
  · rintro u v rfl - hab
    obtain ⟨k', r, hs, hlow, -, -⟩ := startsWithKeyword_iff.1 hab.word
    obtain ⟨v', rfl, -⟩ := (clauseKeyword_of_mem hk).within hlow ht hs
    rw [← hlow] at hspace
    obtain ⟨c, hc, hlower⟩ := List.mem_map.1 hspace
    have hblank := hvisible c (by simp [hc])
    rw [← isBlank_toLower, hlower] at hblank
    revert hblank
    decide

/-- Between `b` and `t` a stretch is at top level, and no word runs on into it or out of it. -/
structure Apart (b t : Text) : Prop where
  top : Nesting.outer.after b = .outer
  left : ∀ c, Sql.isBreak b.getLast? c = true
  right : ∀ c, Sql.isBreak c t.head? = true

theorem apart_nil : Apart [] [] := ⟨rfl, fun c => isBreak_comm _ _ ▸ isBreak_nil c, isBreak_nil⟩

/-- Where an identifier of a text is a clause keyword, the text is not clear of it. -/
theorem keywordless_of_clear {x b t : Text} (h : ∀ k ∈ clauseKeywords, Clear k b x t)
    (hx : ∀ c ∈ x, isDelimiter c = false) (hbt : Apart b t) : Keywordless x := by
  intro w hw hmem
  obtain ⟨k, hk, hlow⟩ := List.mem_map.1 hmem
  obtain ⟨hword, p, q, rfl, hp, hq⟩ := exists_of_mem_identifiers hw
  have hw0 : w ≠ [] := Text.ne_nil_of_lower_eq hlow.symm (clauseKeyword_of_mem hk).ne_nil
  refine h k hk p (w ++ q) rfl (by simp [hw0]) ⟨?_, ?_, ?_⟩
  · rw [Nesting.after_append, hbt.top]
    exact Nesting.after_of_not_delimiter (fun c hc => hx c (List.mem_append_left _ hc)) _
  · exact ⟨w.head hw0, by simp [hw0, List.head?_eq_some_head],
      isDelimiter_of_isIdentifierChar (hword _ (List.head_mem hw0))⟩
  · refine startsWithKeyword_iff.2 ⟨w, q ++ t, by simp, hlow.symm, ?_, ?_⟩
    · by_cases hp0 : p = []
      · rw [hp0, List.append_nil, isBreak_comm]
        exact hbt.left _
      · rw [List.getLast?_append_of_ne_nil _ hp0, List.getLast?_eq_some_getLast hp0]
        exact isBreak_of_separator (hp _ (List.getLast?_eq_some_getLast hp0)) _
    · cases q with
      | nil => exact hbt.right _
      | cons c q => exact isBreak_of_separator (hq c rfl) _

theorem Wordless.keywordless {s : Text} (h : Wordless s) : Keywordless s := by
  intro w hw hmem
  obtain ⟨k, hk, hlow⟩ := List.mem_map.1 hmem
  have words : ∀ k ∈ clauseKeywords, Text.lower k ∈ clauseWords ∨ ' ' ∈ Text.lower k := by decide +kernel
  rcases words k hk with hword | hspace
  · exact h w hw (hlow ▸ hword)
  · -- no identifier has a space
    rw [hlow] at hspace
    obtain ⟨c, hc, hlower⟩ := List.mem_map.1 hspace
    have hident := (exists_of_mem_identifiers hw).1 c hc
    rw [← isIdentifierChar_toLower, hlower] at hident
    revert hident
    decide

/-! ## Conjuncts -/

/-- A text that can stand between ANDs. -/
structure Conjunct (x : Text) : Prop where
  balanced : Balanced x
  clear : ∀ k ∈ clauseKeywords, ∀ {b t : Text}, Nesting.outer.after b = .outer → Fence t → Clear k b x t

theorem conjunct_of_wordless {x : Text} (hb : Balanced x) (hx : Wordless x) : Conjunct x :=
  ⟨hb, fun _ hk b _ _ ht => hx.clear hk b (ht.isBreak _)⟩

theorem Balanced.conjunct_group {x : Text} (h : Balanced x) : Conjunct ('(' :: x ++ [')']) :=
  ⟨h.group, fun k _ _ t hb _ => h.clear_group k hb t⟩

/-- In a conjunct AND binds at least as tightly as everything else. -/
theorem Conjunct.isDisjunction_eq {x : Text} (h : Conjunct x) : isDisjunction x = false := by
  have hclear := h.clear "OR".toList (List.mem_cons_self) (b := []) rfl fence_nil
  have hnone := findTopLevel_behind_eq_none (b := []).2 hclear
  unfold isDisjunction
  rw [Option.isSome_eq_false_iff, Option.isNone_iff_eq_none]
  exact hnone

/-- Conjuncts with a word between them that no clause keyword has make a conjunct. -/
theorem Conjunct.joint {x y : Text} (hx : Conjunct x) (hy : Conjunct y) (word : Text)
    (hword : Balanced (' ' :: (word ++ [' '])) ∧ Wordless (' ' :: (word ++ [' '])))
    (hhead : ∃ c ∈ word.head?, c.toLower ≠ 'b') : Conjunct (x ++ ' ' :: (word ++ [' ']) ++ y) := by
  obtain ⟨hbal, hwordless⟩ := hword
  refine ⟨(hx.balanced.append hbal).append hy.balanced, fun k hk b t hb ht => ?_⟩
  have hfence : Fence (' ' :: (word ++ [' ']) ++ (y ++ t)) := by
    obtain ⟨c, hc, hletter⟩ := hhead
    have hnext : (word ++ [' '] ++ (y ++ t)).head? = some c := by
      rw [List.append_assoc, List.head?_append, Option.mem_def.1 hc]; rfl
    exact fence_space fun d hd => by cases hnext.symm.trans hd; exact hletter
  have htop : Nesting.outer.after (b ++ (x ++ ' ' :: (word ++ [' ']))) = .outer := by
    rw [Nesting.after_append, hb, (hx.balanced.append hbal).closed]
  have hlast : isBreak (' ' :: (word ++ [' '])).getLast? (y ++ t).head? = true := by
    rw [← List.cons_append, List.getLast?_concat, isBreak_comm]
    exact isBreak_of_separator rfl _
  exact clear_append_iff.2 ⟨clear_append_iff.2 ⟨hx.clear k hk hb hfence, hwordless.clear hk _ hlast⟩,
    hy.clear k hk htop ht⟩

theorem Conjunct.and {x y : Text} (hx : Conjunct x) (hy : Conjunct y) : Conjunct (x ++ " AND ".toList ++ y) :=
  hx.joint hy "AND".toList ⟨by decide, by decide +kernel⟩ ⟨'A', rfl, by decide⟩

theorem conjunct_join : ∀ {xs : List Text}, xs ≠ [] → (∀ x ∈ xs, Conjunct x) → Conjunct (Text.join " AND " xs)
  | [], h, _ => absurd rfl h
  | [x], _, h => by rw [Text.join_singleton]; exact h x (by simp)
  | x :: y :: xs, _, h => by
    rw [Text.join_cons " AND " x (List.cons_ne_nil y xs)]
    exact (h x (by simp)).and (conjunct_join (List.cons_ne_nil y xs) fun z hz => h z (List.mem_cons_of_mem x hz))

/-- What a conjunction is clear of, each of its parts is clear of in its place. -/
theorem exists_clear_of_mem_join {keywords : List Text} {x b t : Text} : ∀ {xs : List Text}, Apart b t →
    (∀ k ∈ keywords, Clear k b (Text.join " AND " xs) t) → (∀ x ∈ xs, Nesting.outer.after x = .outer) → x ∈ xs →
    ∃ b' t', Apart b' t' ∧ ∀ k ∈ keywords, Clear k b' x t'
  | [], _, _, _, hx => by cases hx
  | [y], hbt, h, _, hx => by
    rw [List.mem_singleton.1 hx]
    exact ⟨b, t, hbt, by simpa [Text.join_singleton] using h⟩
  | y :: z :: xs, hbt, h, hxs, hx => by
    obtain ⟨hy, hzs⟩ := List.forall_mem_cons.1 hxs
    have hparts : ∀ k ∈ keywords, Clear k b y (" AND ".toList ++ (Text.join " AND " (z :: xs) ++ t)) ∧
        Clear k (b ++ (y ++ " AND ".toList)) (Text.join " AND " (z :: xs)) t := by
      intro k hk
      have hjoin := h k hk
      rw [Text.join_cons " AND " y (List.cons_ne_nil z xs)] at hjoin
      obtain ⟨hfirst, hrest⟩ := clear_append_iff.1 hjoin
      exact ⟨(clear_append_iff.1 hfirst).1, hrest⟩
    rcases List.mem_cons.1 hx with rfl | hx
    · refine ⟨b, _, ⟨hbt.top, hbt.left, ?_⟩, fun k hk => (hparts k hk).1⟩
      exact isBreak_of_separator (c := ' ') (by decide)
    · refine exists_clear_of_mem_join ⟨?_, fun c => ?_, hbt.right⟩ (fun k hk => (hparts k hk).2) hzs hx
      · rw [Nesting.after_append, hbt.top, Nesting.after_append, hy]
        decide
      · rw [← List.append_assoc, List.getLast?_append_of_ne_nil _ (by simp), isBreak_comm]
        exact isBreak_of_separator (by decide) c

end SensorRegistry.Sql
