/-
Idle groups: those without a filter and without an order that have a column. Applied to a statement they normalize its
text and change nothing else. Whatever was compiled is normalized already, so an idle group leaves it as it is, byte for
byte.

A compiled text is put together from trimmed parts, each behind one space or attached by a mark, and what holds of the
parts carries over: the white space in each of them is single spaces. Of the parts of the template that is so since it
was normalized, of the conditions and keys since their columns are.
-/
import SensorRegistry.Proofs.Statement.Run
import SensorRegistry.Proofs.Sql.Splice
import SensorRegistry.Proofs.Text.Squeeze

namespace SensorRegistry

/-! ## Conditions and keys -/

theorem Placeholder.phrase_write (n : Nat) : Text.Phrase (write n) :=
  Text.phrase_of_visible (fun _ hc => Sql.isBlank_of_isIdentifierChar (isIdentifierChar_of_mem_write hc))
    (List.cons_ne_nil _ _)

namespace Condition

theorem phrase_predicate {column sql : Text} {op : Operation} {n : Nat} (hcol : Text.Phrase column)
    (h : predicate? column op n = some sql) : Text.Phrase sql := by
  have hvalue := Placeholder.phrase_write n
  have compare : ∀ {mark : Text}, Text.Spaced mark → Text.Phrase (column ++ mark ++ Placeholder.write n) :=
    fun hmark => hcol.around hvalue hmark
  have closed : ∀ {sql m e : Text}, Text.Phrase sql → Text.Phrase e → Text.Spaced m →
      Text.Phrase (sql ++ (m ++ e)) := by
    intro sql m e hsql hlast hm
    rw [← List.append_assoc]
    exact hsql.around hlast hm
  cases op <;> cases h
  case equals => exact compare (by decide)
  case notEquals =>
    have hnot := Text.Phrase.around (a := "(NOT".toList) (m := " ".toList) (by decide) hcol (by decide)
    have hequal := hnot.around hvalue (m := "=".toList) (by decide)
    have hor := hequal.around hcol (m := " OR ".toList) (by decide)
    exact closed hor (e := "NULL)".toList) (m := " IS ".toList) (by decide) (by decide)
  case oneOf => exact closed (compare (by decide)) (e := ")".toList) (m := []) (by decide) (by decide)
  case like =>
    exact closed (compare (by decide)) (e := "'\\'".toList) (m := " || '%' ESCAPE ".toList) (by decide) (by decide)
  case greater => exact compare (by decide)
  case greaterOrEqual => exact compare (by decide)
  case lower => exact compare (by decide)
  case lowerOrEqual => exact compare (by decide)

theorem Rendered.spaced {last : Nat} {ms : List (Text × Filter)} {ts : List (Text × Param)} (h : Rendered last ms ts)
    (hcol : ∀ m ∈ ms, Text.Phrase m.1) : Text.Spaced (Text.join " AND " (ts.map (·.1))) := by
  by_cases hts : ts.map (·.1) = []
  · rw [hts]
    exact Text.spaced_of_visible (by simp [Text.join_nil])
  · refine (Text.phrase_iff.1 (Text.phrase_join (by decide) hts fun sql hsql => ?_)).2.1
    obtain ⟨m, hm, n, hn⟩ := h.exists_predicate hsql
    exact phrase_predicate (hcol m hm) hn

end Condition

theorem FilterGroup.spaced_orderKey {group : FilterGroup} {columns : Columns} {key : Text}
    (hcol : columns.All Text.Phrase) (h : group.orderKey? columns = some key) : Text.Spaced key := by
  rw [Statement.orderKey?_eq_map, Option.map_eq_some_iff] at h
  obtain ⟨column, hcolumn, rfl⟩ := h
  obtain ⟨field, -, hfield⟩ := Option.bind_eq_some_iff.1 hcolumn
  have hdirection : Text.Phrase group.direction.sql := by cases group.direction <;> decide
  have hkey := (hcol.orders hfield).around hdirection Text.spaced_space
  rw [List.append_assoc] at hkey
  exact (Text.phrase_iff.1 hkey).2.1

/-! ## Splices -/

namespace Sql

theorem phrase_foldl_attach {parts : List Text} (h : ∀ p ∈ parts, Text.Phrase p) {out : Text} (hout : Text.Phrase out) :
    Text.Phrase (parts.foldl attach out) := by
  induction parts generalizing out with
  | nil => exact hout
  | cons p parts ih =>
    obtain ⟨hp, hparts⟩ := List.forall_mem_cons.1 h
    refine ih hparts ?_
    unfold attach
    split
    · simpa using hout.around hp (m := []) (Text.spaced_of_visible (by simp))
    · simpa using hout.around hp Text.spaced_space

/-- Spaced parts are joined to a normalized text, whatever they begin and end with. -/
theorem normalize_joinParts {parts : List Text} (h : ∀ p ∈ parts, Text.Spaced p) :
    Text.normalize (joinParts parts) = joinParts parts := by
  have hkept : ∀ p ∈ (parts.map Text.trim).filter (! ·.isEmpty), Text.Phrase p := by
    intro p hp
    obtain ⟨hmem, hne⟩ := List.mem_filter.1 hp
    obtain ⟨q, hq, rfl⟩ := List.mem_map.1 hmem
    exact Text.phrase_iff.2 ⟨by simpa using hne, (h q hq).within (Text.infix_trim q), Text.trimmed_trim q⟩
  unfold joinParts
  generalize (parts.map Text.trim).filter (! ·.isEmpty) = kept at hkept
  cases kept with
  | nil => rfl
  | cons p kept =>
    obtain ⟨hp, hkept⟩ := List.forall_mem_cons.1 hkept
    have hfirst : attach [] p = p := if_pos (.inl rfl)
    rw [List.foldl_cons, hfirst]
    exact (phrase_foldl_attach hkept hp).normal

theorem spaced_ownCondition {m : Text} (hm : Text.Spaced m) : Text.Spaced (ownCondition m) := by
  have htrim : Text.Spaced (Text.trim m) := hm.within (Text.infix_trim m)
  have hopen : Text.Spaced ['('] := by decide
  have hclose : Text.Spaced [')'] := by decide
  unfold ownCondition
  split
  · refine (hopen.append htrim (.inl ?_)).append hclose (.inr ?_)
    all_goals
      rintro c ⟨⟩
      decide
  · exact hm

theorem normalize_insertWhere {s f r : Text} (hs : Text.normalize s = s) (hf : Text.Spaced f)
    (h : insertWhere s f = .ok r) : Text.normalize r = r := by
  have hspaced : Text.Spaced s := (Text.normalize_eq_self_iff.1 hs).1
  rcases insertWhere_cases h with ⟨-, rfl⟩ | ⟨b, m, t, rfl, -, -, rfl⟩ | ⟨b, m, t, rfl, -, -, -, rfl⟩
  · exact hs
  · have hb : Text.Spaced b := hspaced.within (List.append_assoc b m t ▸ (List.prefix_append _ _).isInfix)
    have hm : Text.Spaced m := hspaced.within (List.infix_append b m t)
    have ht : Text.Spaced t := hspaced.within (List.suffix_append _ _).isInfix
    refine normalize_joinParts ?_
    simp only [List.forall_mem_cons]
    exact ⟨hb, hf, by decide, spaced_ownCondition hm, ht, List.forall_mem_nil _⟩
  · have hbm : Text.Spaced (b ++ m) := hspaced.within (List.prefix_append _ _).isInfix
    have ht : Text.Spaced t := hspaced.within (List.suffix_append _ _).isInfix
    refine normalize_joinParts ?_
    simp only [List.forall_mem_cons]
    exact ⟨hbm, by decide, hf, ht, List.forall_mem_nil _⟩

theorem normalize_insertOrder {s key : Text} (hs : Text.normalize s = s) (hk : Text.Spaced key) :
    Text.normalize (insertOrder s key) = insertOrder s key := by
  have hspaced : Text.Spaced s := (Text.normalize_eq_self_iff.1 hs).1
  by_cases hne : key = []
  · rw [hne]
    exact hs
  cases h : leadingKeySpan? s with
  | some span =>
    obtain ⟨b, lead, t, rfl, -, -, rfl⟩ := exists_leadingKey h
    have hb : Text.Spaced b := hspaced.within (List.append_assoc b lead t ▸ (List.prefix_append _ _).isInfix)
    have ht : Text.Spaced t := hspaced.within (List.suffix_append _ _).isInfix
    rw [insertOrder_key h hne]
    refine normalize_joinParts ?_
    simp only [List.forall_mem_cons]
    exact ⟨hb, hk, ht, List.forall_mem_nil _⟩
  | none =>
    obtain ⟨b, t, rfl, hr, -⟩ := insertOrder_clause h hne
    have hb : Text.Spaced b := hspaced.within (List.prefix_append _ _).isInfix
    have ht : Text.Spaced t := hspaced.within (List.suffix_append _ _).isInfix
    rw [hr]
    refine normalize_joinParts ?_
    simp only [List.forall_mem_cons]
    exact ⟨hb, by decide, hk, ht, List.forall_mem_nil _⟩

end Sql

/-! ## Idle groups -/

/-- No filter of the group has a column, nor has its order. -/
structure FilterGroup.Idle (columns : Columns) (group : FilterGroup) : Prop where
  filters : ∀ f ∈ group.filters, columns.filterColumn? f.field = none
  order : ∀ field ∈ group.order, columns.orderColumn? field = none

theorem FilterGroup.idle_empty (columns : Columns) : FilterGroup.empty.Idle columns :=
  ⟨fun _ hf => (by cases hf), fun _ hfield => (by cases hfield)⟩

namespace Statement

theorem normalize_splice {template condition sql : Text} {key : Option Text} (hcondition : Text.Spaced condition)
    (hkey : ∀ k ∈ key, Text.Spaced k) (h : splice template condition key = .ok sql) : Text.normalize sql = sql := by
  have htemplate : Text.normalize (Text.normalize template) = Text.normalize template :=
    Text.normalize_eq_self_iff.2 ⟨Text.spaced_normalize _, Text.trimmed_normalize _⟩
  obtain ⟨w, hw, rfl⟩ := splice_eq_ok_iff.1 h
  have hfiltered := Sql.normalize_insertWhere htemplate hcondition hw
  cases key with
  | none => exact hfiltered
  | some k => exact Sql.normalize_insertOrder hfiltered (hkey k rfl)

/-- A statement that comes out of a filter has a normalized text. -/
theorem normalize_applyFilter {s s' : Statement} {columns : Columns} {group : FilterGroup}
    (hcol : columns.All Text.Phrase) (h : s.applyFilter group columns = .ok s') : Text.normalize s'.sql = s'.sql := by
  obtain ⟨ts, sql, hts, hsql, rfl⟩ := applyFilter_eq_ok_iff.1 h
  exact normalize_splice (hts.spaced fun m hm => hcol.mapped hm) (fun k hk => FilterGroup.spaced_orderKey hcol hk) hsql

/-- An idle group normalizes the text and changes nothing else. -/
theorem applyFilter_of_idle {columns : Columns} {idle : FilterGroup} (hidle : idle.Idle columns) (s : Statement) :
    s.applyFilter idle columns = .ok ⟨Text.normalize s.sql, s.params⟩ := by
  have hmapped : Condition.mapped columns idle = [] :=
    List.filterMap_eq_nil_iff.2 fun f hf => by rw [hidle.filters f hf]; rfl
  have hkey : idle.orderKey? columns = none := by
    rw [orderKey?_eq_map, Option.map_eq_none_iff, Option.bind_eq_none_iff]
    exact hidle.order
  refine applyFilter_eq_ok_iff.2 ⟨[], Text.normalize s.sql, hmapped ▸ .nil, ?_, by simp⟩
  rw [hkey]
  exact splice_eq_ok_iff.2 ⟨_, Sql.insertWhere_nil _, rfl⟩

/-- Idle groups leave compiled statements alone. Whatever template, parameters and group a statement was compiled from,
over columns that are not blank and normalized, its text is normalized, and every group without a filter and an order
that have a column, in this or in any other map of columns, compiles it to itself. -/
theorem applyFilter_settles {s s' : Statement} {columns : Columns} {group : FilterGroup}
    (hcol : columns.All Text.Phrase) (h : s.applyFilter group columns = .ok s') :
    Text.normalize s'.sql = s'.sql ∧
      ∀ (columns' : Columns) (idle : FilterGroup), idle.Idle columns' → s'.applyFilter idle columns' = .ok s' := by
  have hnormal := normalize_applyFilter hcol h
  refine ⟨hnormal, fun columns' idle hidle => ?_⟩
  rw [applyFilter_of_idle hidle, hnormal]

/-- A template full of white space, a column of two words, and an order; behind them a group of a filter that is faulty
and an order that has no column, which would still take the white space out of the template. -/
theorem applyFilter_settles_spaced_out :
    let s : Statement := ⟨"\tSELECT  * FROM t\u3000WHERE a=$1 OR b ;\n".toList, [.int 7]⟩
    let columns : Columns := ⟨[("name".toList, "first name".toList)], [("at".toList, "updated".toList)]⟩
    let group : FilterGroup := ⟨[⟨"name".toList, .notEquals, "x".toList, .string⟩], some "at".toList, .descending⟩
    let idle : FilterGroup := ⟨[⟨"at".toList, .unknown, "y".toList, .int⟩], some "name".toList, .ascending⟩
    let s' : Statement := ⟨("SELECT * FROM t WHERE (NOT first name=$2 OR first name IS NULL) AND (a=$1 OR b)"
      ++ " ORDER BY updated DESC NULLS LAST;").toList, [.int 7, .text "x".toList]⟩
    columns.All Text.Phrase ∧ s.applyFilter group columns = .ok s' ∧ idle.Idle columns ∧
      s'.applyFilter idle columns = .ok s' ∧ s.applyFilter idle columns ≠ .ok s := by
  intro s columns group idle s'
  have hcol : columns.All Text.Phrase := Columns.all_of_entries (by decide +kernel) (by decide +kernel)
  have h : s.applyFilter group columns = .ok s' := by decide +kernel
  have hidle : idle.Idle columns := ⟨by decide, by decide⟩
  exact ⟨hcol, h, hidle, (applyFilter_settles hcol h).2 columns idle hidle, by decide +kernel⟩

end Statement

end SensorRegistry
