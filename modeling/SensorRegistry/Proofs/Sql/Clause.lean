/-
The clauses of a statement as cuts of its text: where a clause opens, where it ends, where the table
behind FROM ends and where the leading key of an order ends. Every position that the splicer computes
is the size of a prefix of the statement, and what stands at the cut is known.
-/
import SensorRegistry.Proofs.Sql.Search

namespace SensorRegistry.Sql

/-! ## Where a clause opens -/

/-- `b` ends with the keyword where it first stands in the statement `b ++ rest`. -/
def Opens (keyword b rest : Text) : Prop :=
  ∃ a k, b = a ++ k ∧ Text.lower k = Text.lower keyword ∧ StandsAt keyword a (k ++ rest) ∧
    Clear keyword [] a (k ++ rest)

theorem exists_opens {s keyword : Text} {pos : Nat} (h : findTopLevel s keyword 0 = some pos) :
    ∃ b rest, s = b ++ rest ∧ Text.byteSize b = pos + Text.byteSize keyword ∧ Opens keyword b rest := by
  obtain ⟨a, t, rfl, hpos, hab, hclear⟩ := findTopLevel_behind (b := []) |>.1 h
  rw [List.nil_append] at hpos hab
  obtain ⟨k, rest, rfl, hk, -, -⟩ := startsWithKeyword_iff.1 hab.word
  refine ⟨a ++ k, rest, by simp, ?_, a, k, rfl, hk, hab, hclear⟩
  rw [Text.byteSize_append, hpos, Text.byteSize_of_lower_eq hk]

theorem Opens.find {keyword b rest : Text} (h : Opens keyword b rest) :
    ∃ pos, findTopLevel (b ++ rest) keyword 0 = some pos ∧ pos + Text.byteSize keyword = Text.byteSize b := by
  obtain ⟨a, k, rfl, hk, hab, hclear⟩ := h
  refine ⟨Text.byteSize a, ?_, by rw [Text.byteSize_append, Text.byteSize_of_lower_eq hk]⟩
  exact (findTopLevel_behind (b := [])).2 ⟨a, k ++ rest, by simp, rfl, hab, hclear⟩

theorem Opens.isBreak {keyword b rest : Text} (h : Opens keyword b rest) :
    isBreak keyword.getLast? rest.head? = true := by
  obtain ⟨a, k, -, hk, hab, -⟩ := h
  obtain ⟨k', r, hs, hk', -, hr⟩ := startsWithKeyword_iff.1 hab.word
  have hlen : k.length = k'.length := Text.length_of_lower_eq (hk.trans hk'.symm)
  rwa [(List.append_inj hs hlen).2]

/-- What the keyword's last character says regardless of case, the last character of `b` says. -/
theorem Opens.last {α : Type} {keyword b rest : Text} (h : Opens keyword b rest) (hne : keyword ≠ [])
    {f : Char → α} (hf : ∀ c, f c.toLower = f c) : b.getLast?.map f = keyword.getLast?.map f := by
  obtain ⟨a, k, rfl, hk, -, -⟩ := h
  rw [List.getLast?_append_of_ne_nil _ (Text.ne_nil_of_lower_eq hk hne), getLast_of_lower_eq hf hk]

theorem Opens.top {keyword b rest : Text} (h : Opens keyword b rest)
    (hk : keyword.any isDelimiter = false) : Nesting.outer.after b = .outer := by
  obtain ⟨a, k, rfl, hlow, hab, -⟩ := h
  rw [Nesting.after_append, hab.top]
  refine Nesting.after_of_not_delimiter (fun c hc => ?_) _
  have hc' : c.toLower ∈ Text.lower keyword := hlow ▸ List.mem_map_of_mem hc
  obtain ⟨d, hd, hdc⟩ := List.mem_map.1 hc'
  rw [← isDelimiter_toLower, ← hdc, isDelimiter_toLower]
  simpa using List.any_eq_false.1 hk d hd

/-- A text that does not end in white space or in a semicolon, so that a body never ends in it. -/
def Solid (b : Text) : Prop := ∃ c ∈ b.getLast?, Text.isBlank c = false ∧ c ≠ ';'

theorem Opens.solid {keyword b rest : Text} (h : Opens keyword b rest) (hk : Solid keyword) : Solid b := by
  obtain ⟨c, hc, hblank, hsemi⟩ := hk
  have hne : keyword ≠ [] := by rintro rfl; cases hc
  let f : Char → Bool × Bool := fun c => (Text.isBlank c, c == ';')
  have hlast := h.last hne (f := f) (eq_toLower_of_capitals f (by decide))
  rw [Option.mem_def.1 hc, Option.map_some, Option.map_eq_some_iff] at hlast
  obtain ⟨d, hd, hdc⟩ := hlast
  simp only [f, Prod.mk.injEq, hblank, beq_eq_false_iff_ne.2 hsemi, beq_eq_false_iff_ne] at hdc
  exact ⟨d, hd, hdc⟩

/-! ## Where a clause ends -/

theorem Trailing.mem {b e : Text} (h : Trailing b e) {c : Char} (hc : c ∈ e) :
    Text.isBlank c = true ∨ c = ';' := by
  cases h with
  | blank he _ => exact .inl (he c hc)
  | semicolon hx hy =>
    rcases List.mem_append.1 hc with hc | hc
    · exact .inl (hx c hc)
    · rcases List.mem_cons.1 hc with rfl | hc
      · exact .inr rfl
      · exact .inl (hy c hc)

/-- `m` is the clause that begins behind `b` in the statement `b ++ m ++ t`: it runs up to the first
of the terminators, or else to the end of the body. -/
inductive ClauseCut (terminators : List Text) (b m t : Text) : Prop
  | terminated {k : Text} : k ∈ terminators → StandsAt k (b ++ m) t →
      (∀ k ∈ terminators, Clear k b m t) → ClauseCut terminators b m t
  | ended : (∀ k ∈ terminators, Clear k b (m ++ t) []) → body (b ++ m ++ t) = b ++ m →
      ClauseCut terminators b m t

/-- The body of a statement reaches as far as any solid prefix. -/
theorem exists_body_behind {b : Text} (hb : Solid b) (rest : Text) :
    ∃ m t, rest = m ++ t ∧ body (b ++ rest) = b ++ m ∧ Trailing (b ++ m) t := by
  obtain ⟨e, hs, he, -⟩ := exists_body (b ++ rest)
  -- a body that ended within `b` would leave the end of `b`, which is solid, to what trails it
  have hle : Text.byteSize b ≤ Text.byteSize (body (b ++ rest)) := by
    by_contra hlt
    obtain ⟨x, hx, rfl⟩ := Text.cut_le hs.symm (by omega)
    have hx0 : x ≠ [] := by
      rintro rfl
      rw [List.append_nil] at hx
      exact hlt (le_of_eq (congrArg Text.byteSize hx))
    obtain ⟨c, hc, hblank, hsemi⟩ := hb
    rw [hx, List.getLast?_append_of_ne_nil _ hx0] at hc
    rcases he.mem (List.mem_append_left rest (List.mem_of_mem_getLast? hc)) with h | h
    · rw [h] at hblank; cases hblank
    · exact hsemi h
  obtain ⟨m, hm, rfl⟩ := Text.cut_le hs hle
  exact ⟨m, e, rfl, hm, hm ▸ he⟩

theorem exists_clause (terminators : List Text) {b : Text} (hb : Solid b) (rest : Text) :
    ∃ m t, rest = m ++ t ∧ clauseEnd (b ++ rest) terminators (Text.byteSize b) = Text.byteSize (b ++ m) ∧
      ClauseCut terminators b m t := by
  unfold clauseEnd
  cases h : findFirstOf (b ++ rest) terminators (Text.byteSize b) with
  | some q =>
    obtain ⟨m, t, rfl, rfl, ⟨k, hk, hab⟩, hclear⟩ := findFirstOf_behind.1 h
    refine ⟨m, t, rfl, ?_, .terminated hk hab hclear⟩
    rw [Option.getD_some, Text.byteSize_append]; omega
  | none =>
    obtain ⟨m, t, rfl, hm, -⟩ := exists_body_behind hb rest
    refine ⟨m, t, rfl, ?_, .ended (findFirstOf_behind_eq_none.1 h) (by rw [List.append_assoc, hm])⟩
    rw [Option.getD_none, bodyEnd, hm, Text.byteSize_append]; omega

theorem ClauseCut.clauseEnd {terminators : List Text} {b m t : Text} (h : ClauseCut terminators b m t) :
    clauseEnd (b ++ m ++ t) terminators (Text.byteSize b) = Text.byteSize (b ++ m) := by
  unfold Sql.clauseEnd
  cases h with
  | terminated hk hab hclear =>
    have := findFirstOf_behind.2 ⟨m, t, rfl, rfl, ⟨_, hk, hab⟩, hclear⟩
    rw [List.append_assoc, this, Option.getD_some, Text.byteSize_append]; omega
  | ended hclear hbody =>
    have := findFirstOf_behind_eq_none.2 hclear
    rw [bodyEnd, hbody, List.append_assoc, this, Option.getD_none, Text.byteSize_append]; omega

theorem Trailing.not_delimiter {b e : Text} (h : Trailing b e) : ∀ c ∈ e, isDelimiter c = false := by
  intro c hc
  rcases h.mem hc with hc | rfl
  · exact isDelimiter_of_isBlank hc
  · decide

/-- A clause of a statement that ends at top level ends there too. -/
theorem ClauseCut.top {terminators : List Text} {b m t : Text} (h : ClauseCut terminators b m t)
    (hs : Nesting.outer.after (b ++ m ++ t) = .outer) : Nesting.outer.after (b ++ m) = .outer := by
  cases h with
  | terminated _ hab _ => exact hab.top
  | ended _ hbody =>
    rwa [Nesting.after_append, Nesting.after_of_not_delimiter (trailing_of_body hbody).1.not_delimiter] at hs

/-! ## The condition -/

theorem exists_condition {s : Text} {span : Span} (h : conditionSpan? s = some span) :
    ∃ b m t, s = b ++ m ++ t ∧ Opens "WHERE".toList b (m ++ t) ∧ ClauseCut whereTerminators b m t ∧
      span = ⟨Text.byteSize b, Text.byteSize (b ++ m)⟩ := by
  obtain ⟨pos, hpos, rfl⟩ := Option.map_eq_some_iff.1 h
  obtain ⟨b, rest, rfl, hb, hopen⟩ := exists_opens hpos
  obtain ⟨m, t, rfl, hend, hcut⟩ := exists_clause whereTerminators (hopen.solid ⟨'E', rfl, by decide, by decide⟩) rest
  have hstart : pos + "WHERE".length = Text.byteSize b := hb.symm
  exact ⟨b, m, t, by simp, hopen, hcut, by simp only [hstart, hend]⟩

theorem conditionSpan?_eq {b m t : Text} (hopen : Opens "WHERE".toList b (m ++ t))
    (hcut : ClauseCut whereTerminators b m t) :
    conditionSpan? (b ++ m ++ t) = some ⟨Text.byteSize b, Text.byteSize (b ++ m)⟩ := by
  obtain ⟨pos, hpos, hb⟩ := hopen.find
  have hstart : pos + "WHERE".length = Text.byteSize b := hb
  unfold conditionSpan?
  rw [List.append_assoc, hpos, Option.map_some]
  simp only [hstart]
  rw [← List.append_assoc, hcut.clauseEnd]

/-! ## The table -/

theorem exists_table : ∀ (s : Text) (depth : Int), ∃ m t, s = m ++ t ∧ Text.byteSize m = tableSize depth s ∧
    ∀ c ∈ t.head?, c = ' ' ∨ c = ';'
  | [], _ => ⟨[], [], rfl, rfl, by simp⟩
  | c :: s, depth => by
    rw [tableSize]
    split
    · rename_i hc
      exact ⟨[], c :: s, rfl, rfl, fun d hd => by cases hd; exact hc.1⟩
    · obtain ⟨m, t, rfl, hm, ht⟩ := exists_table s
        (if c = '(' then depth + 1 else if c = ')' then depth - 1 else depth)
      exact ⟨c :: m, t, rfl, by rw [Text.byteSize, hm], ht⟩

/-- The search for the end of a table begins behind the spaces in front of it. -/
theorem exists_tableStart (b rest : Text) :
    ∃ x table, rest = x ++ table ∧ (∀ c ∈ x, c = ' ') ∧
      tableEnd (b ++ rest) (Text.byteSize b) = Text.byteSize (b ++ x) + tableSize 0 table := by
  refine ⟨rest.takeWhile (· == ' '), rest.dropWhile (· == ' '), List.takeWhile_append_dropWhile.symm, ?_, ?_⟩
  · intro c hc
    have hsatisfies := List.mem_takeWhile_imp hc
    simpa using hsatisfies
  · unfold tableEnd
    simp only [dropBytes_append]
    rw [Text.byteSize_append]

/-- The table behind `b` ends at a space, at a semicolon or with the statement. -/
theorem exists_tableEnd (b rest : Text) :
    ∃ m t, rest = m ++ t ∧ tableEnd (b ++ rest) (Text.byteSize b) = Text.byteSize (b ++ m) ∧
      ∀ c ∈ t.head?, c = ' ' ∨ c = ';' := by
  obtain ⟨x, table, rfl, -, hend⟩ := exists_tableStart b rest
  obtain ⟨m, t, rfl, hm, ht⟩ := exists_table table 0
  refine ⟨x ++ m, t, by simp, ?_, ht⟩
  rw [hend, ← hm, ← Text.byteSize_append, List.append_assoc]

/-! ## The leading key -/

/-- The span of the leading key of a statement's order. -/
def leadingKeySpan? (s : Text) : Option Span :=
  (findTopLevel s "ORDER BY".toList 0).map fun pos =>
    let start := pos + "ORDER BY".length
    let stop := clauseEnd s orderTerminators start
    ⟨start, ((findTopLevel s [','] start).filter (· < stop)).getD stop⟩

/-- `key` is the leading key of the order that begins behind `b` in the statement `b ++ key ++ t`: it
runs up to the first comma in the order, or else to the end of the order. -/
inductive KeyCut (b key t : Text) : Prop
  | comma {m u : Text} : key ++ t = m ++ u → ClauseCut orderTerminators b m u →
      Text.byteSize key < Text.byteSize m → StandsAt [','] (b ++ key) t → Clear [','] b key t → KeyCut b key t
  | clause : ClauseCut orderTerminators b key t → Clear [','] b key t → KeyCut b key t

theorem exists_leadingKey {s : Text} {span : Span} (h : leadingKeySpan? s = some span) :
    ∃ b key t, s = b ++ key ++ t ∧ Opens "ORDER BY".toList b (key ++ t) ∧ KeyCut b key t ∧
      span = ⟨Text.byteSize b, Text.byteSize (b ++ key)⟩ := by
  obtain ⟨pos, hpos, rfl⟩ := Option.map_eq_some_iff.1 h
  obtain ⟨b, rest, rfl, hb, hopen⟩ := exists_opens hpos
  obtain ⟨m, u, rfl, hend, hcut⟩ := exists_clause orderTerminators (hopen.solid ⟨'Y', rfl, by decide, by decide⟩) rest
  have hstart : pos + "ORDER BY".length = Text.byteSize b := hb.symm
  simp only [hstart, hend]
  cases hcomma : findTopLevel (b ++ (m ++ u)) [','] (Text.byteSize b) with
  | none =>
    have hclear := (clear_append_iff.1 (findTopLevel_behind_eq_none.1 hcomma)).1
    rw [List.append_nil] at hclear
    exact ⟨b, m, u, by simp, hopen, .clause hcut hclear, rfl⟩
  | some q =>
    obtain ⟨key, t, hs, rfl, hab, hclear⟩ := findTopLevel_behind.1 hcomma
    by_cases hlt : Text.byteSize (b ++ key) < Text.byteSize (b ++ m)
    · rw [hs] at hopen
      refine ⟨b, key, t, by rw [hs, List.append_assoc], hopen, .comma hs.symm hcut ?_ hab hclear, ?_⟩
      · rw [Text.byteSize_append, Text.byteSize_append] at hlt; omega
      · simp [Option.filter, hlt]
    · obtain ⟨v, rfl, rfl⟩ := Text.cut_le hs (by rw [Text.byteSize_append, Text.byteSize_append] at hlt; omega)
      refine ⟨b, m, v ++ t, by simp, hopen, .clause hcut (clear_append_iff.1 hclear).1, ?_⟩
      simp [Option.filter, hlt]

end SensorRegistry.Sql
