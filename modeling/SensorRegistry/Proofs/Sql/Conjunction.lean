/-
Filters are conjoined with the whole of a statement's own condition. What a group renders over columns
without keywords is a conjunct, so inserting any number of such fragments leaves one conjunction in
front of the old condition, and no OR of either side comes to the top level. A keyword in a column that
is compared stands at top level, where the condition of the result, which is clear of keywords, would
have to hold it.
-/
import SensorRegistry.Proofs.Sql.Balance
import SensorRegistry.Proofs.Sql.Site

namespace SensorRegistry.Sql

/-! ## Columns -/

/-- A column that reads as one part of a predicate: without white space, quotes, parentheses and marks. -/
structure BareColumn (column : Text) : Prop where
  nonempty : column ≠ []
  visible : ∀ c ∈ column, Text.isBlank c = false ∧ isDelimiter c = false ∧ c ≠ ';' ∧ c ≠ ','

/-- A bare column none of whose identifiers is a word of a clause keyword. -/
structure PlainColumn (column : Text) : Prop extends BareColumn column where
  wordless : Wordless column

instance (column : Text) : Decidable (BareColumn column) :=
  have : Decidable (∀ c ∈ column, Text.isBlank c = false ∧ isDelimiter c = false ∧ c ≠ ';' ∧ c ≠ ',') :=
    List.decidableBAll _ column
  decidable_of_iff (column ≠ [] ∧ ∀ c ∈ column, Text.isBlank c = false ∧ isDelimiter c = false ∧ c ≠ ';' ∧ c ≠ ',')
    ⟨fun ⟨hne, hvisible⟩ => ⟨hne, hvisible⟩, fun h => ⟨h.nonempty, h.visible⟩⟩

instance (column : Text) : Decidable (PlainColumn column) :=
  decidable_of_iff (BareColumn column ∧ Wordless column) ⟨fun ⟨h, hw⟩ => ⟨h, hw⟩, fun h => ⟨h.toBareColumn, h.wordless⟩⟩

theorem bareColumn_of_identifier {column : Text} (hne : column ≠ []) (h : ∀ c ∈ column, isIdentifierChar c = true) :
    BareColumn column := by
  refine ⟨hne, fun c hc => ⟨isBlank_of_isIdentifierChar (h c hc), isDelimiter_of_isIdentifierChar (h c hc), ?_, ?_⟩⟩
  · rintro rfl
    exact absurd (h _ hc) (by decide)
  · rintro rfl
    exact absurd (h _ hc) (by decide)

theorem isIdentifierChar_of_plain {c : Char} (h : c.isAlphanum = true ∨ c = '_') : isIdentifierChar c = true := by
  rcases h with h | rfl
  · simp [isIdentifierChar, h]
  · decide

/-- A name of ASCII letters, digits and `_` is plain unless it is a word of a clause keyword itself. -/
theorem plainColumn_of_name {column : Text} (hne : column ≠ []) (h : ∀ c ∈ column, c.isAlphanum = true ∨ c = '_')
    (hword : Text.lower column ∉ clauseWords) : PlainColumn column := by
  have hident : ∀ c ∈ column, isIdentifierChar c = true := fun c hc => isIdentifierChar_of_plain (h c hc)
  refine ⟨bareColumn_of_identifier hne hident, ?_⟩
  unfold Wordless
  rw [identifiers_of_word hident]
  simpa using hword

theorem BareColumn.undelimited {column : Text} (h : BareColumn column) : Undelimited column :=
  fun c hc => (h.visible c hc).2.1

theorem BareColumn.joinable {column : Text} (h : BareColumn column) : Joinable column := by
  refine ⟨⟨column.head h.nonempty, ?_, ?_⟩, fun c hc => (h.visible c (List.mem_of_mem_getLast? hc)).1⟩
  · rw [List.head?_eq_some_head h.nonempty]; rfl
  · obtain ⟨hblank, -, hmarks⟩ := h.visible _ (List.head_mem h.nonempty)
    exact ⟨hblank, hmarks⟩

/-! ## Predicates -/

theorem wordless_write (n : Nat) : Wordless (Placeholder.write n) := by
  have hdollar : ∀ w ∈ clauseWords, w.head? ≠ some '$' := by decide +kernel
  unfold Wordless
  rw [identifiers_of_word fun c hc => Placeholder.isIdentifierChar_of_mem_write hc]
  intro w hw hmem
  rw [List.mem_singleton.1 hw] at hmem
  exact hdollar _ hmem rfl

theorem isBlank_write_last {a : Text} {n : Nat} :
    ∀ c ∈ (a ++ Placeholder.write n).getLast?, Text.isBlank c = false := by
  intro c hc
  have hne : Placeholder.write n ≠ [] := List.cons_ne_nil _ _
  rw [List.getLast?_append_of_ne_nil _ hne] at hc
  exact isBlank_of_isIdentifierChar (Placeholder.isIdentifierChar_of_mem_write (List.mem_of_mem_getLast? hc))

/-- A comparison is the column, a separator, and behind it other words than those of clause keywords. -/
theorem exists_comparison {column sql : Text} {op : Operation} {n : Nat} (hop : op ≠ .notEquals)
    (h : Condition.predicate? column op n = some sql) :
    ∃ c rest, sql = column ++ c :: rest ∧ isIdentifierChar c = false ∧ Fence (c :: rest) ∧
      rest ≠ [] ∧ Wordless rest := by
  have order : ∀ sign : Text, sign ≠ [] → (∀ d ∈ sign.head?, d.toLower ≠ 'b') → Wordless sign →
      ∃ c rest, column ++ (' ' :: sign ++ [' ']) ++ Placeholder.write n = column ++ c :: rest ∧
        isIdentifierChar c = false ∧ Fence (c :: rest) ∧ rest ≠ [] ∧ Wordless rest := by
    intro sign hne hletter hw
    refine ⟨' ', sign ++ ' ' :: Placeholder.write n, by simp, by decide, fence_space ?_, by simp,
      hw.append (wordless_write n) (by decide)⟩
    rwa [List.head?_append_of_ne_nil _ hne]
  cases op <;> cases h
  case equals =>
    refine ⟨'=', Placeholder.write n, by simp, by decide, ?_, List.cons_ne_nil _ _, wordless_write n⟩
    rintro c ⟨⟩
    exact ⟨by decide, fun hblank => absurd hblank (by decide)⟩
  case notEquals => exact absurd rfl hop
  case oneOf =>
    have hvalue : Wordless (Placeholder.write n ++ [')']) :=
      (wordless_write n).append (b := []) (by decide +kernel) (by decide)
    exact ⟨' ', "= ANY".toList ++ '(' :: (Placeholder.write n ++ [')']), by simp, by decide,
      fence_space (by rintro d ⟨⟩; decide), by simp, Wordless.append (by decide +kernel) hvalue (by decide)⟩
  case like =>
    exact ⟨' ', "ILIKE '%' ||".toList ++ ' ' :: (Placeholder.write n ++ ' ' :: "|| '%' ESCAPE '\\'".toList), by simp,
      by decide, fence_space (by rintro d ⟨⟩; decide), by simp,
      Wordless.append (by decide +kernel) ((wordless_write n).append (by decide +kernel) (by decide)) (by decide)⟩
  case greater => exact order ">".toList (by simp) (by rintro d ⟨⟩; decide) (by decide +kernel)
  case greaterOrEqual => exact order ">=".toList (by simp) (by rintro d ⟨⟩; decide) (by decide +kernel)
  case lower => exact order "<".toList (by simp) (by rintro d ⟨⟩; decide) (by decide +kernel)
  case lowerOrEqual => exact order "<=".toList (by simp) (by rintro d ⟨⟩; decide) (by decide +kernel)

/-- Predicates over a bare column are conjuncts: comparisons if no clause keyword stands in the column, and negations
always, for their parentheses hide the column and the OR. -/
theorem conjunct_predicate {column sql : Text} {op : Operation} {n : Nat} (hcol : BareColumn column)
    (hkey : op ≠ .notEquals → Keywordless column) (h : Condition.predicate? column op n = some sql) : Conjunct sql := by
  have hbal : Balanced sql := (neutral_predicate hcol.undelimited h).balanced
  by_cases hop : op = .notEquals
  · subst hop
    cases h
    have hinner : Undelimited ("NOT ".toList ++ column ++ "=".toList ++ Placeholder.write n ++ " OR ".toList ++
        column ++ " IS NULL".toList) := by
      simp only [undelimited_append_iff]
      have hn := undelimited_write n
      exact ⟨⟨⟨⟨⟨⟨by decide, hcol.undelimited⟩, by decide⟩, hn⟩, by decide⟩, hcol.undelimited⟩, by decide⟩
    simpa using hinner.neutral.balanced.conjunct_group
  · obtain ⟨c, rest, rfl, hc, hfence, hrest, hwordless⟩ := exists_comparison hop h
    refine ⟨hbal, fun k hk b t _ ht => clear_append_iff.2 ⟨?_, ?_⟩⟩
    · exact (hkey hop).clear (fun d hd => (hcol.visible d hd).1) hk b (hfence.append hrest t)
    · have hwords : Wordless (c :: rest) := Wordless.append (a := []) (by decide +kernel) hwordless hc
      exact hwords.clear hk _ (ht.isBreak _)

theorem joinable_predicate {column sql : Text} {op : Operation} {n : Nat} (hcol : Joinable column)
    (h : Condition.predicate? column op n = some sql) : Joinable sql := by
  have compare : ∀ sign : Text, Joinable (column ++ sign ++ Placeholder.write n) := by
    intro sign
    refine ⟨?_, isBlank_write_last⟩
    rw [List.append_assoc]
    exact hcol.first_append _
  have around : ∀ (a : Text) {b : Text}, b ≠ [] → (∀ c ∈ b.getLast?, Text.isBlank c = false) →
      Joinable (column ++ a ++ Placeholder.write n ++ b) := by
    intro a b hb hlast
    refine ⟨?_, by rwa [List.getLast?_append_of_ne_nil _ hb]⟩
    rw [List.append_assoc, List.append_assoc]
    exact hcol.first_append _
  cases op <;> cases h
  case equals => exact compare _
  case notEquals =>
    refine ⟨⟨'(', rfl, by decide⟩, ?_⟩
    rw [List.getLast?_append_of_ne_nil _ (by simp)]
    rintro c ⟨⟩; decide
  case oneOf => exact around _ (by simp) (by rintro c ⟨⟩; decide)
  case like => exact around _ (by simp) (by rintro c ⟨⟩; decide)
  case greater => exact compare _
  case greaterOrEqual => exact compare _
  case lower => exact compare _
  case lowerOrEqual => exact compare _

/-! ## Fragments -/

theorem joinable_ofGroup {columns : Columns} {group : FilterGroup} {last : Nat} {w : Text} {params : List Param}
    (hne : w ≠ []) (hw : Condition.ofGroup columns group last = .ok ⟨w, params⟩)
    (hcol : ∀ m ∈ Condition.mapped columns group, Joinable m.1) : Joinable w := by
  obtain ⟨ts, hts, hc⟩ := Condition.ofGroup_eq_ok_iff.1 hw
  obtain rfl : w = Text.join " AND " (ts.map (·.1)) := congrArg Condition.sql hc
  refine joinable_join (fun hnil => hne (by rw [hnil]; rfl)) fun sql hsql => ?_
  obtain ⟨m, hm, n, hn⟩ := hts.exists_predicate hsql
  exact joinable_predicate (hcol m hm) hn

/-- What a group renders over bare columns, unless it renders nothing. -/
structure Fragment where
  columns : Columns
  group : FilterGroup
  last : Nat
  condition : Condition
  rendered : Condition.ofGroup columns group last = .ok condition
  nonempty : condition.sql ≠ []
  bare : ∀ m ∈ Condition.mapped columns group, BareColumn m.1

namespace Fragment

/-- No column that the fragment compares has a clause keyword among its identifiers. -/
def Keywordless (f : Fragment) : Prop :=
  ∀ m ∈ Condition.mapped f.columns f.group, m.2.operation ≠ .notEquals → Sql.Keywordless m.1

instance (f : Fragment) : Decidable f.Keywordless := List.decidableBAll _ _

theorem joinable (f : Fragment) : Joinable f.condition.sql :=
  joinable_ofGroup f.nonempty f.rendered fun m hm => (f.bare m hm).joinable

theorem closed (f : Fragment) : Nesting.outer.after f.condition.sql = .outer :=
  (neutral_ofGroup f.rendered fun m hm => (f.bare m hm).undelimited).closed .outer

theorem conjunct {f : Fragment} (h : f.Keywordless) : Conjunct f.condition.sql := by
  obtain ⟨ts, hts, hc⟩ := Condition.ofGroup_eq_ok_iff.1 f.rendered
  have hsql : f.condition.sql = Text.join " AND " (ts.map (·.1)) := congrArg Condition.sql hc
  have hne := f.nonempty
  rw [hsql] at hne ⊢
  refine conjunct_join (fun hnil => hne (by rw [hnil]; rfl)) fun sql hsql => ?_
  obtain ⟨m, hm, n, hn⟩ := hts.exists_predicate hsql
  exact conjunct_predicate (f.bare m hm) (h m hm) hn

/-- A keyword in a column that the fragment compares is at top level in the fragment. -/
theorem keywordless_of_clear {f : Fragment} {b t : Text} (hbt : Apart b t)
    (h : ∀ k ∈ clauseKeywords, Clear k b f.condition.sql t) : f.Keywordless := by
  obtain ⟨ts, hts, hc⟩ := Condition.ofGroup_eq_ok_iff.1 f.rendered
  have hsql : f.condition.sql = Text.join " AND " (ts.map (·.1)) := congrArg Condition.sql hc
  rw [hsql] at h
  have hclosed : ∀ sql ∈ ts.map (·.1), Nesting.outer.after sql = .outer := by
    intro sql hsql
    obtain ⟨m, hm, n, hn⟩ := hts.exists_predicate hsql
    exact (neutral_predicate (f.bare m hm).undelimited hn).closed .outer
  intro m hm hop
  obtain ⟨i, hi⟩ := List.mem_iff_getElem?.1 hm
  obtain ⟨sql, p, ht, -, hn⟩ := hts.get hi
  obtain ⟨b', t', hbt', hclear⟩ :=
    exists_clear_of_mem_join hbt h hclosed (List.mem_map_of_mem (List.mem_of_getElem? ht))
  obtain ⟨c, rest, rfl, hc, -⟩ := exists_comparison hop hn
  refine Sql.keywordless_of_clear (fun k hk => (clear_append_iff.1 (hclear k hk)).1) (f.bare m hm).undelimited
    ⟨hbt'.top, hbt'.left, isBreak_of_separator hc⟩

end Fragment

/-! ## The statement's own condition -/

/-- A balanced statement without white space at its ends has its condition, unless that is empty or
starts with a mark, at a site. -/
theorem exists_site_of_condition {s : Text} {span : Span} (hs : Text.Trimmed s) (hbal : Balanced s)
    (hspan : conditionSpan? s = some span) (hcond : ∃ c ∈ (Text.trim (span.text s)).head?, c ≠ ';' ∧ c ≠ ',') :
    ∃ b m t, s = b ++ m ++ t ∧ span = ⟨Text.byteSize b, Text.byteSize (b ++ m)⟩ ∧ Site b m t := by
  obtain ⟨b, m, t, rfl, hopen, hcut, rfl⟩ := exists_condition hspan
  rw [Span.text_between] at hcond
  obtain ⟨c, hc, hmarks⟩ := hcond
  obtain ⟨x, y, hx, hy, hm⟩ := Text.exists_trim m
  have hjoin : Joinable (Text.trim m) :=
    ⟨⟨c, hc, (Text.trimmed_trim m).first c hc, hmarks⟩, (Text.trimmed_trim m).last⟩
  have hbx : Nesting.outer.after (b ++ x) = .outer := (Nesting.after_append_blank hx _ b).trans hopen.where_top
  have htop : Nesting.outer.after (b ++ x ++ Text.trim m) = .outer := by
    rw [← Nesting.after_append_blank hy, List.append_assoc, List.append_assoc, ← List.append_assoc x, ← hm]
    exact hcut.top hbal.closed
  refine ⟨b, m, t, rfl, rfl, hopen, hcut, fun d hd => hs.first d ?_, fun d hd => hs.last d ?_, ?_, hjoin⟩
  · rwa [List.append_assoc, List.head?_append_of_ne_nil _ hopen.where_solid.ne_nil]
  · have ht : t ≠ [] := by rintro rfl; cases hd
    rwa [List.getLast?_append_of_ne_nil _ ht]
  · rw [hm] at hbal
    refine Balanced.of_append (a := b ++ x) (b := y ++ t) ?_ hbx htop
    simpa using hbal

/-! ## Runs of insertions -/

/-- Inserted one after the other into the statement `s`, whose condition is at `span`, the texts make one condition with
it: all of them, the last one first, AND the old condition, in parentheses if OR stands in it at top level. No OR is at
top level then, and the text around the condition stays. -/
def Conjoins (s : Text) (span : Span) (ws : List Text) : Prop :=
  ∃ r span', ws.foldlM insertWhere s = .ok r ∧ conditionSpan? r = some span' ∧
    Text.trim (span'.text r) = Text.join " AND " (ws.reverse ++ [conjoined (Text.trim (span.text s))]) ∧
    isDisjunction (Text.trim (span'.text r)) = false ∧
    takeBytes span'.start r = takeBytes span.start s ∧
    Text.trim (dropBytes span'.stop r) = Text.trim (dropBytes span.stop s)

theorem Site.conjoins {b m t : Text} (hsite : Site b m t) {ws : List Text} (hws : ws ≠ [])
    (hparts : ∀ w ∈ ws, Conjunct w ∧ Joinable w) :
    Conjoins (b ++ m ++ t) ⟨Text.byteSize b, Text.byteSize (b ++ m)⟩ ws := by
  obtain ⟨w, ws, rfl⟩ := List.exists_cons_of_ne_nil hws
  -- the first insertion makes the condition a conjunct, the others keep it one
  obtain ⟨hw, hj⟩ := hparts w List.mem_cons_self
  obtain ⟨m₁, t₁, hs₁, h₁, ht₁, hm₁, hc₁⟩ := hsite.insertWhere hw hj
  obtain ⟨m₂, t₂, hs₂, h₂, ht₂, hm₂, hc₂⟩ := h₁.foldlM_insertWhere ws hc₁ fun v hv =>
    hparts v (List.mem_cons_of_mem w hv)
  have htake : ∀ m t, takeBytes (Text.byteSize b) (b ++ m ++ t) = b := fun m t => by
    rw [List.append_assoc, takeBytes_append]
  refine ⟨b ++ m₂ ++ t₂, ⟨Text.byteSize b, Text.byteSize (b ++ m₂)⟩, ?_, conditionSpan?_eq h₂.opens h₂.cut, ?_, ?_,
    ?_, ?_⟩
  · rw [List.foldlM_cons, hs₁]
    exact hs₂
  · rw [Span.text_between, Span.text_between, hm₂, hm₁, List.reverse_cons]
    exact Text.join_concat " AND " ws.reverse w _
  · rw [Span.text_between]
    exact hc₂.isDisjunction_eq
  · simp only [htake]
  · simp only [dropBytes_append]
    exact ht₂.trans ht₁

/-- What the condition of the result consists of is clear of clause keywords, for the condition is. -/
theorem Conjoins.exists_clear {s w : Text} {span : Span} {ws : List Text} (h : Conjoins s span ws)
    (hws : ∀ w ∈ ws, Nesting.outer.after w = .outer)
    (hown : Nesting.outer.after (conjoined (Text.trim (span.text s))) = .outer) (hw : w ∈ ws) :
    ∃ b t, Apart b t ∧ ∀ k ∈ clauseKeywords, Clear k b w t := by
  obtain ⟨r, span', -, hspan', htext, hor, -⟩ := h
  obtain ⟨b, m, t, rfl, hopen, hcut, rfl⟩ := exists_condition hspan'
  rw [Span.text_between] at htext hor
  have hmem : w ∈ ws.reverse ++ [conjoined (Text.trim (span.text s))] := by simp [hw]
  refine exists_clear_of_mem_join apart_nil (fun k hk => ?_) (fun x hx => ?_) hmem
  · rw [← htext]
    exact clear_condition hopen hcut hor hk rfl fence_nil
  · rcases List.mem_append.1 hx with hx | hx
    · exact hws x (List.mem_reverse.1 hx)
    · rw [List.mem_singleton.1 hx]
      exact hown

/-- Filters are conjoined with the whole of the statement's own condition, however many fragments are inserted, exactly
when no clause keyword is an identifier of a column that they compare. Characters outside ASCII part identifiers, so a
column may have a keyword for one though its name is another word. In names of ASCII letters, digits and `_` none is. -/
theorem foldlM_insertWhere_conjoins_iff {s : Text} {span : Span} {fs : List Fragment} (hnorm : Text.normalize s = s)
    (hbal : Balanced s) (hspan : conditionSpan? s = some span)
    (hcond : ∃ c ∈ (Text.trim (span.text s)).head?, c ≠ ';' ∧ c ≠ ',') (hfs : fs ≠ []) :
    (Conjoins s span (fs.map (·.condition.sql)) ↔ ∀ f ∈ fs, f.Keywordless) ∧
    ((∀ f ∈ fs, ∀ m ∈ Condition.mapped f.columns f.group,
        (∀ c ∈ m.1, c.isAlphanum = true ∨ c = '_') ∧ Text.lower m.1 ∉ clauseWords) →
      Conjoins s span (fs.map (·.condition.sql))) := by
  obtain ⟨b, m, t, rfl, rfl, hsite⟩ := exists_site_of_condition (hnorm ▸ Text.trimmed_normalize s) hbal hspan hcond
  have hown := hsite.conjunct.balanced.closed
  have hiff : Conjoins (b ++ m ++ t) ⟨Text.byteSize b, Text.byteSize (b ++ m)⟩ (fs.map (·.condition.sql)) ↔
      ∀ f ∈ fs, f.Keywordless := by
    constructor
    · intro h f hf
      rw [← Span.text_between b m t] at hown
      obtain ⟨b', t', hbt, hclear⟩ := h.exists_clear (List.forall_mem_map.2 fun g _ => g.closed) hown
        (List.mem_map_of_mem hf)
      exact Fragment.keywordless_of_clear hbt hclear
    · intro h
      exact hsite.conjoins (by simpa using hfs)
        (List.forall_mem_map.2 fun f hf => ⟨Fragment.conjunct (h f hf), f.joinable⟩)
  refine ⟨hiff, fun hnames => hiff.2 fun f hf m hm _ => ?_⟩
  obtain ⟨hname, hword⟩ := hnames f hf m hm
  exact (plainColumn_of_name (f.bare m hm).nonempty hname hword).wordless.keywordless

/-- The column `éLIMIT` has the identifier `LIMIT`. In the parentheses of a negation that does no harm, but a comparison
with it is cut at the keyword when the next fragment is inserted. -/
theorem foldlM_insertWhere_conjoins_iff_accented :
    let s := "SELECT * FROM t WHERE a=1 OR b=2;".toList
    (Text.normalize s = s ∧ Balanced s ∧ conditionSpan? s = some ⟨21, 32⟩) ∧
      ∃ negated compared greater : Fragment, negated.condition.sql = "(NOT éLIMIT=$1 OR éLIMIT IS NULL)".toList ∧
        compared.condition.sql = "éLIMIT=$1".toList ∧ greater.condition.sql = "limit_1 > $2".toList ∧
        Conjoins s ⟨21, 32⟩ [negated.condition.sql, greater.condition.sql] ∧
        ¬ Conjoins s ⟨21, 32⟩ [compared.condition.sql, greater.condition.sql] ∧
        [negated.condition.sql, greater.condition.sql].foldlM insertWhere s = .ok
          "SELECT * FROM t WHERE limit_1 > $2 AND (NOT éLIMIT=$1 OR éLIMIT IS NULL) AND (a=1 OR b=2);".toList ∧
        [compared.condition.sql, greater.condition.sql].foldlM insertWhere s =
          .ok "SELECT * FROM t WHERE limit_1 > $2 AND é LIMIT=$1 AND (a=1 OR b=2);".toList := by
  intro s
  let columns : Columns := ⟨[("f".toList, "éLIMIT".toList), ("g".toList, "limit_1".toList)], []⟩
  let one (f : Filter) : FilterGroup := ⟨[f], none, .ascending⟩
  let negated : Fragment := ⟨columns, one ⟨"f".toList, .notEquals, "u".toList, .string⟩, 0, _, rfl, by decide +kernel,
    by decide +kernel⟩
  let compared : Fragment := ⟨columns, one ⟨"f".toList, .equals, "1".toList, .int⟩, 0, _, rfl, by decide +kernel,
    by decide +kernel⟩
  let greater : Fragment := ⟨columns, one ⟨"g".toList, .greater, "5".toList, .int⟩, 1, _, rfl, by decide +kernel,
    by decide +kernel⟩
  have hs : Text.normalize s = s ∧ Balanced s ∧ conditionSpan? s = some ⟨21, 32⟩ := by decide +kernel
  have conjoins_iff : ∀ fs : List Fragment, fs ≠ [] →
      (Conjoins s ⟨21, 32⟩ (fs.map (·.condition.sql)) ↔ ∀ f ∈ fs, f.Keywordless) := fun fs hfs =>
    (foldlM_insertWhere_conjoins_iff hs.1 hs.2.1 hs.2.2 ⟨'a', by decide +kernel, by decide, by decide⟩ hfs).1
  have hnegated : negated.Keywordless ∧ greater.Keywordless := by decide +kernel
  have hcompared : ¬ compared.Keywordless := by decide +kernel
  refine ⟨hs, negated, compared, greater, by decide +kernel, by decide +kernel, by decide +kernel, ?_, ?_,
    by decide +kernel, by decide +kernel⟩
  · refine (conjoins_iff [negated, greater] (List.cons_ne_nil _ _)).2 fun f hf => ?_
    rcases List.mem_cons.1 hf with rfl | hf
    · exact hnegated.1
    · rw [List.mem_singleton.1 hf]
      exact hnegated.2
  · intro h
    exact hcompared ((conjoins_iff [compared, greater] (List.cons_ne_nil _ _)).1 h compared List.mem_cons_self)

end SensorRegistry.Sql
