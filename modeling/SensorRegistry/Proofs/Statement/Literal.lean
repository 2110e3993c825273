/-
Literals under a filter. The whole template is normalized before a condition goes in, its literals too, and where it has
no condition of its own, the end of its table is searched without looking at literals. So the literals of a template
survive a filter exactly when the white space in each of them is single spaces, and the table does not end in one.
-/
import SensorRegistry.Proofs.Sql.Literal
import SensorRegistry.Proofs.Sql.Table
import SensorRegistry.Proofs.Statement.Run

namespace SensorRegistry

namespace Sql

/-! ## The cut behind the table -/

/-- The condition of a statement that has none would go into a literal: the table ends in one. -/
def CutsLiteral (s : Text) : Prop :=
  findTopLevel s "WHERE".toList 0 = none ∧ ∃ pos ∈ findTopLevel s "FROM".toList 0, ¬ Closed (tableCut s pos)

instance (s : Text) : Decidable (CutsLiteral s) := inferInstanceAs (Decidable (_ ∧ ∃ pos ∈ findTopLevel s _ 0, _))

/-- A condition that goes into no literal leaves all of them as they are, and brings its own into one place. -/
theorem literals_insertWhere {s f r : Text} (hs : Closed s) (hf : Closed f) (hcut : f ≠ [] → ¬ CutsLiteral s)
    (h : insertWhere s f = .ok r) :
    ∃ pre post, literals s = pre ++ post ∧ literals r = pre ++ literals f ++ post := by
  by_cases hne : f = []
  · rw [hne, insertWhere_nil] at h
    cases h
    exact ⟨literals s, [], by simp, by simp [hne, literals_plain]⟩
  have hand : Closed "AND".toList ∧ literals "AND".toList = [] := ⟨.plain (by decide), literals_plain (by decide)⟩
  have hword : Closed "WHERE".toList ∧ literals "WHERE".toList = [] := ⟨.plain (by decide), literals_plain (by decide)⟩
  rcases insertWhere_cases h with ⟨hnil, -⟩ | ⟨b, m, t, rfl, hopen, hclause, rfl⟩ | ⟨b, m, t, hst, hnone, hopen, -, -⟩
  · exact absurd hnil hne
  · have hb : Closed b := closed_iff.2 (congrArg Nesting.quoted (hopen.top (by decide)))
    have hbm : Closed (b ++ m) := hclause.closed hs
    obtain ⟨hm, hown⟩ := (hbm.of_append hb).ownCondition
    have hparts : ∀ p ∈ [b, f, "AND".toList, Sql.ownCondition m, t], Closed p := by
      simp only [List.forall_mem_cons]
      exact ⟨hb, hf, hand.1, hm, hs.of_append hbm, List.forall_mem_nil _⟩
    refine ⟨literals b, literals m ++ literals t, ?_, ?_⟩
    · rw [literals_append hbm, literals_append hb, List.append_assoc]
    · rw [Closed.joinParts hparts]
      simp only [List.flatMap_cons, List.flatMap_nil, hand.2, hown]
      simp
  · have hwhere : findTopLevel s "WHERE".toList 0 = none := Option.map_eq_none_iff.1 hnone
    obtain ⟨pos, hfrom, -⟩ := hopen.find
    rw [← List.append_assoc, ← hst] at hfrom
    obtain ⟨-, t, hst, -, hr⟩ := exists_tableCut hfrom hwhere hne
    obtain rfl := Except.ok.inj (hr.symm.trans h)
    have htable : Closed (tableCut s pos) := by_contra fun hopen => hcut hne ⟨hwhere, pos, hfrom, hopen⟩
    have ht : Closed t := (hst ▸ hs).of_append htable
    have hparts : ∀ p ∈ [tableCut s pos, "WHERE".toList, f, t], Closed p := by
      simp only [List.forall_mem_cons]
      exact ⟨htable, hword.1, hf, ht, List.forall_mem_nil _⟩
    refine ⟨literals (tableCut s pos), literals t, ?_, ?_⟩
    · conv_lhs => rw [hst]
      exact literals_append htable t
    · rw [Closed.joinParts hparts]
      simp only [List.flatMap_cons, List.flatMap_nil, hword.2]
      simp

/-- A condition without literals that goes into a literal changes its visible characters, and no other literal. So no
texts with the visible characters of the old literals are among the new ones. -/
theorem not_sublist_of_cutsLiteral {s f r : Text} {ls : List Text} (hs : Closed s) (hf : '\'' ∉ f) (hne : f ≠ [])
    (hcut : CutsLiteral s) (h : insertWhere s f = .ok r) (hls : ls.map Text.visible = (literals s).map Text.visible) :
    ¬ ls.Sublist (literals r) := by
  have hquote : Text.isBlank '\'' = false := by decide
  obtain ⟨hwhere, pos, hfrom, hopen⟩ := hcut
  obtain ⟨-, t, hst, -, hr⟩ := exists_tableCut hfrom hwhere hne
  obtain rfl := Except.ok.inj (hr.symm.trans h)
  obtain ⟨a, l, hcut, ha, hl⟩ := (closed_or_open _).resolve_left hopen
  rw [hcut] at hst ⊢
  -- the literal that the table leaves open is closed behind it
  obtain ⟨l', t, rfl, hl'⟩ := Closed.exists_quote (hst ▸ hs) ha hl
  have hkeeps := keepsQuotes_visible
  have henclosed : ∀ {x : Text}, '\'' ∉ x → literals (Text.visible a ++ '\'' :: (x ++ '\'' :: Text.visible t)) =
      literals (Text.visible a) ++ x :: literals (Text.visible t) :=
    fun hx => literals_enclosed (hkeeps.closed ha).1 hx _
  have hold : (literals s).map Text.visible =
      literals (Text.visible a) ++ (Text.visible l ++ Text.visible l') :: literals (Text.visible t) := by
    rw [← hkeeps.literals, hst, ← henclosed (List.not_mem_append (hkeeps.plain hl) (hkeeps.plain hl'))]
    simp [Text.visible_append, Text.visible_cons hquote]
  have hnew : (literals (joinParts [a ++ '\'' :: l, "WHERE".toList, f, l' ++ '\'' :: t])).map Text.visible =
      literals (Text.visible a) ++
        (Text.visible l ++ ("WHERE".toList ++ (Text.visible f ++ Text.visible l'))) :: literals (Text.visible t) := by
    rw [← hkeeps.literals, markSeparated_visible.joinParts, ← henclosed]
    · simp [Text.visible_append, Text.visible_cons hquote]
      rfl
    · simp [hkeeps.plain, hl, hl', hf]
  intro hsub
  have heq := (hsub.map Text.visible).eq_of_length (by rw [hls, hold, hnew]; simp)
  rw [hls, hold, hnew] at heq
  have hlength := congrArg List.length (List.cons.inj (List.append_cancel_left heq)).1
  simp only [List.length_append, String.length_toList] at hlength
  have hword : "WHERE".length = 5 := rfl
  omega

end Sql

namespace Condition

/-! ## The literals of a condition -/

/-- A text that leaves no literal open, with the white space in its literals as single spaces. -/
structure Tidy (f : Text) : Prop where
  closed : Sql.Closed f
  spaced : ∀ l ∈ Sql.literals f, Text.Spaced l

theorem Tidy.append {f g : Text} (hf : Tidy f) (hg : Tidy g) : Tidy (f ++ g) := by
  refine ⟨hf.closed.append hg.closed, fun l hl => ?_⟩
  rw [Sql.literals_append hf.closed] at hl
  exact (List.mem_append.1 hl).elim (hf.spaced l) (hg.spaced l)

theorem tidy_plain {f : Text} (hf : '\'' ∉ f) : Tidy f := ⟨.plain hf, by simp [Sql.literals_plain hf]⟩

theorem not_mem_quote_write (n : Nat) : '\'' ∉ Placeholder.write n := fun h =>
  absurd (Placeholder.isIdentifierChar_of_mem_write h) (by decide)

/-- A predicate over a column without quotes has no literals, if it is no match. -/
theorem not_mem_quote_predicate {column sql : Text} {op : Operation} {n : Nat} (hcol : '\'' ∉ column) (hop : op ≠ .like)
    (h : predicate? column op n = some sql) : '\'' ∉ sql := by
  have hwrite := not_mem_quote_write n
  cases op <;> cases h <;> simp_all

theorem tidy_predicate {column sql : Text} {op : Operation} {n : Nat} (hcol : '\'' ∉ column)
    (h : predicate? column op n = some sql) : Tidy sql := by
  by_cases hop : op = .like
  · subst hop
    cases h
    have hbefore : Tidy " ILIKE '%' || ".toList := ⟨by decide +kernel, by decide +kernel⟩
    have hbehind : Tidy " || '%' ESCAPE '\\'".toList := ⟨by decide +kernel, by decide +kernel⟩
    exact (((tidy_plain hcol).append hbefore).append (tidy_plain (not_mem_quote_write n))).append hbehind
  · exact tidy_plain (not_mem_quote_predicate hcol hop h)

theorem Rendered.tidy {last : Nat} {ms : List (Text × Filter)} {ts : List (Text × Param)} (h : Rendered last ms ts)
    (hcol : ∀ m ∈ ms, '\'' ∉ m.1) : Tidy (Text.join " AND " (ts.map (·.1))) := by
  have hand : Tidy " AND ".toList := tidy_plain (by decide)
  refine Text.join_induction " AND " (tidy_plain (by simp))
    (fun _ _ ha hb => (ha.append hand).append hb) fun sql hsql => ?_
  obtain ⟨m, hm, n, hn⟩ := h.exists_predicate hsql
  exact tidy_predicate (hcol m hm) hn

theorem Rendered.not_mem_quote {last : Nat} {ms : List (Text × Filter)} {ts : List (Text × Param)}
    (h : Rendered last ms ts) (hcol : ∀ m ∈ ms, '\'' ∉ m.1) (hop : ∀ m ∈ ms, m.2.operation ≠ .like) :
    '\'' ∉ Text.join " AND " (ts.map (·.1)) := by
  refine Text.join_induction (P := ('\'' ∉ ·)) " AND " (by simp) (fun a b ha hb => ?_) fun sql hsql => ?_
  · exact List.not_mem_append (List.not_mem_append ha (by decide)) hb
  · obtain ⟨m, hm, n, hn⟩ := h.exists_predicate hsql
    exact not_mem_quote_predicate (hcol m hm) (hop m hm) hn

end Condition

/-! ## Filtered statements -/

namespace Statement

/-- Literals that are squeezed, with spaced ones put among them, contain the old ones if these were spaced already. -/
theorem sublist_squeezed_iff {ls pre added post : List Text} (hls : ls.map Text.squeeze = pre ++ post)
    (hadded : ∀ l ∈ added, Text.Spaced l) : ls.Sublist (pre ++ added ++ post) ↔ ∀ l ∈ ls, Text.Spaced l := by
  constructor
  · intro hsub l hl
    have hmem : l ∈ added ∨ l ∈ pre ++ post := by
      have := hsub.subset hl
      simp only [List.mem_append] at this ⊢
      tauto
    rcases hmem with hmem | hmem
    · exact hadded l hmem
    · rw [← hls] at hmem
      obtain ⟨k, -, rfl⟩ := List.mem_map.1 hmem
      exact Text.spaced_squeeze k
  · intro hspaced
    have hsame : ls.map Text.squeeze = ls :=
      (List.map_congr_left fun l hl => Text.squeeze_eq_self_iff.2 (hspaced l hl)).trans (List.map_id ls)
    rw [← hsame, hls, List.append_assoc]
    exact (List.Sublist.refl pre).append (List.sublist_append_right added post)

/-- The literals of a template survive a filter exactly when the white space in each of them is single spaces, and the
condition goes into none of them. Where it goes into one, a match is left out: its own quotes make other literals of the
pieces, and these may by chance read like the old one. -/
theorem literals_survive_iff {s s' : Statement} {columns : Columns} {group : FilterGroup} (hs : Sql.Closed s.sql)
    (hcol : columns.All ('\'' ∉ ·)) (horder : group.order = none)
    (hlike : Sql.CutsLiteral (Text.normalize s.sql) → ∀ m ∈ Condition.mapped columns group, m.2.operation ≠ .like)
    (h : s.applyFilter group columns = .ok s') :
    (Sql.literals s.sql).Sublist (Sql.literals s'.sql) ↔ (∀ l ∈ Sql.literals s.sql, Text.Spaced l) ∧
      (Condition.mapped columns group ≠ [] → ¬ Sql.CutsLiteral (Text.normalize s.sql)) := by
  obtain ⟨ts, sql, hts, hsql, rfl⟩ := applyFilter_eq_ok_iff.1 h
  have hkey : group.orderKey? columns = none := by rw [orderKey?_eq_map, horder]; rfl
  rw [hkey] at hsql
  obtain ⟨_, hw, rfl⟩ := splice_eq_ok_iff.1 hsql
  have hquotes : ∀ m ∈ Condition.mapped columns group, '\'' ∉ m.1 := fun m hm => hcol.mapped hm
  obtain ⟨hclosed, hlit⟩ := hs.normalize
  by_cases hcut : Condition.mapped columns group ≠ [] ∧ Sql.CutsLiteral (Text.normalize s.sql)
  · obtain ⟨hne, hcut⟩ := hcut
    have hvisible : (Sql.literals s.sql).map Text.visible = (Sql.literals (Text.normalize s.sql)).map Text.visible := by
      rw [hlit, List.map_map]
      exact List.map_congr_left fun l _ => (Text.visible_squeeze l).symm
    have hlost := Sql.not_sublist_of_cutsLiteral hclosed (hts.not_mem_quote hquotes (hlike hcut))
      (hts.join_eq_nil_iff.not.2 hne) hcut hw hvisible
    exact ⟨fun hsub => absurd hsub hlost, fun hkept => absurd hcut (hkept.2 hne)⟩
  · rw [and_iff_left fun hne hcut' => hcut ⟨hne, hcut'⟩]
    have htidy := hts.tidy hquotes
    obtain ⟨pre, post, hold, hnew⟩ := Sql.literals_insertWhere hclosed htidy.closed
      (fun hne hcut' => hcut ⟨hts.join_eq_nil_iff.not.1 hne, hcut'⟩) hw
    have hiff := sublist_squeezed_iff (hlit.symm.trans hold) htidy.spaced
    rwa [← hnew] at hiff

/-- The two ways to lose a literal: one has two spaces in it, which become one, and one has a parenthesis that seems to
close the table in front of it, so the condition goes in there. -/
theorem literals_survive_iff_lost :
    let columns : Columns := ⟨[("type".toList, "type".toList)], []⟩
    let group : FilterGroup := ⟨[⟨"type".toList, .equals, "x".toList, .string⟩], none, .ascending⟩
    let s := ofText "SELECT * FROM t WHERE name='a  b'".toList
    let t := ofText "SELECT * FROM f(') ') ORDER BY id".toList
    Sql.Closed s.sql ∧ Sql.Closed t.sql ∧ columns.All ('\'' ∉ ·) ∧
      (∃ s', s.applyFilter group columns = .ok s' ∧ ¬ (Sql.literals s.sql).Sublist (Sql.literals s'.sql)) ∧
      ∃ t', t.applyFilter group columns = .ok t' ∧ ¬ (Sql.literals t.sql).Sublist (Sql.literals t'.sql) := by
  intro columns group s t
  have hs : Sql.Closed s.sql := by decide +kernel
  have ht : Sql.Closed t.sql := by decide +kernel
  have hcol : columns.All ('\'' ∉ ·) := Columns.all_of_entries (by decide) (by decide)
  have hlike : ∀ m ∈ Condition.mapped columns group, m.2.operation ≠ .like := by decide +kernel
  have hspaces : s.applyFilter group columns =
      .ok ⟨"SELECT * FROM t WHERE type=$1 AND name='a b'".toList, [.text "x".toList]⟩ := by decide +kernel
  have hcut : t.applyFilter group columns =
      .ok ⟨"SELECT * FROM f(') WHERE type=$1 ') ORDER BY id".toList, [.text "x".toList]⟩ := by decide +kernel
  refine ⟨hs, ht, hcol, ⟨_, hspaces, fun hsub => ?_⟩, ⟨_, hcut, fun hsub => ?_⟩⟩
  · have hkept := ((literals_survive_iff hs hcol rfl (fun _ => hlike) hspaces).1 hsub).1
    exact absurd hkept (by decide +kernel)
  · have hkept := ((literals_survive_iff ht hcol rfl (fun _ => hlike) hcut).1 hsub).2 (by decide +kernel)
    exact absurd hkept (by decide +kernel)

end Statement

end SensorRegistry
