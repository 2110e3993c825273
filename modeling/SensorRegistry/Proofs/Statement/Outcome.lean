/-
What applying a filter group ends in. Two things can go wrong: the request, when a filter that has a column does not
fit, and the template, when there is a condition to add and no place for it. The request is looked at first, and each
fault is reported as what it is. Otherwise there is a statement.
-/
import SensorRegistry.Proofs.Sql.Position
import SensorRegistry.Proofs.Sql.Splice
import SensorRegistry.Proofs.Statement.Mapped

namespace SensorRegistry

/-! ## Faulty filters -/

namespace Filter

/-- The value does not fit its type, or the operation has no meaning. -/
def Faulty (f : Filter) : Prop := (∃ problem, f.coerce = .error problem) ∨ f.operation = .unknown

theorem problem?_isSome_iff {f : Filter} : f.problem?.isSome = true ↔ f.Faulty := by
  unfold problem? Faulty
  cases f.coerce with
  | error problem => simp
  | ok p => by_cases hop : f.operation = .unknown <;> simp [hop]

end Filter

namespace Condition

/-- A group that does not compile reports one problem for each faulty filter that has a column, in order. -/
theorem ofGroup_eq_error_iff_withColumns {columns : Columns} {group : FilterGroup} {last : Nat}
    {problems : List Problem} :
    ofGroup columns group last = .error problems ↔
      problems ≠ [] ∧ problems = (group.withColumns columns).filters.filterMap Filter.problem? := by
  rw [ofGroup_eq_error_iff, ← map_mapped, List.filterMap_map]
  rfl

theorem exists_ofGroup_eq_error_iff {columns : Columns} {group : FilterGroup} (last : Nat) :
    (∃ problems, ofGroup columns group last = .error problems) ↔
      ∃ f ∈ (group.withColumns columns).filters, f.Faulty := by
  constructor
  · rintro ⟨problems, h⟩
    obtain ⟨hne, rfl⟩ := ofGroup_eq_error_iff_withColumns.1 h
    obtain ⟨problem, hproblem⟩ := List.exists_mem_of_ne_nil _ hne
    obtain ⟨f, hf, hsome⟩ := List.mem_filterMap.1 hproblem
    exact ⟨f, hf, Filter.problem?_isSome_iff.1 (Option.isSome_of_eq_some hsome)⟩
  · rintro ⟨f, hf, hfaulty⟩
    obtain ⟨problem, hsome⟩ := Option.isSome_iff_exists.1 (Filter.problem?_isSome_iff.2 hfaulty)
    exact ⟨_, ofGroup_eq_error_iff_withColumns.2 ⟨List.ne_nil_of_mem (List.mem_filterMap.2 ⟨f, hf, hsome⟩), rfl⟩⟩

theorem exists_ofGroup_eq_ok_iff {columns : Columns} {group : FilterGroup} {last : Nat} :
    (∃ c, ofGroup columns group last = .ok c) ↔ ¬ ∃ f ∈ (group.withColumns columns).filters, f.Faulty := by
  rw [← exists_ofGroup_eq_error_iff last]
  cases ofGroup columns group last <;> simp

theorem ofGroup_sql_eq_nil_iff {columns : Columns} {group : FilterGroup} {last : Nat} {c : Condition}
    (h : ofGroup columns group last = .ok c) : c.sql = [] ↔ (group.withColumns columns).filters = [] := by
  obtain ⟨ts, hts, rfl⟩ := ofGroup_eq_ok_iff.1 h
  rw [hts.join_eq_nil_iff, ← map_mapped, List.map_eq_nil_iff]

end Condition

/-! ## Templates without a place -/

namespace Sql

/-- The statement has no place for a condition: at top level it has neither one of its own nor a table. -/
structure Placeless (s : Text) : Prop where
  condition : ∀ i, ¬ KeywordAt (Text.bytes "WHERE".toList) (Text.bytes s) i
  table : ∀ i, ¬ KeywordAt (Text.bytes "FROM".toList) (Text.bytes s) i

theorem placeless_iff {s : Text} :
    Placeless s ↔ conditionSpan? s = none ∧ findTopLevel s "FROM".toList 0 = none := by
  unfold conditionSpan?
  rw [Option.map_eq_none_iff, findTopLevel_eq_none_iff_keywordAt (by decide),
    findTopLevel_eq_none_iff_keywordAt (by decide)]
  exact ⟨fun ⟨hcondition, htable⟩ => ⟨fun i _ => hcondition i, fun i _ => htable i⟩,
    fun ⟨hcondition, htable⟩ => ⟨fun i => hcondition i i.zero_le, fun i => htable i i.zero_le⟩⟩

/-- Only a condition that has no place is refused. -/
theorem insertWhere_eq_error_iff {s f : Text} {fault : TemplateFault} :
    insertWhere s f = .error fault ↔ f ≠ [] ∧ Placeless s ∧ fault = .missingFrom s := by
  rw [placeless_iff]
  constructor
  · intro h
    have hf : f ≠ [] := by
      rintro rfl
      cases h
    cases hcondition : conditionSpan? s with
    | some span =>
      obtain ⟨b, m, t, rfl, hopen, hcut, -⟩ := exists_condition hcondition
      rw [insertWhere_condition hopen hcut hf] at h
      cases h
    | none =>
      cases hfrom : findTopLevel s "FROM".toList 0 with
      | none =>
        rw [insertWhere_missing hcondition hfrom hf] at h
        cases h
        exact ⟨hf, ⟨rfl, rfl⟩, rfl⟩
      | some pos =>
        obtain ⟨b, rest, rfl, -, hopen⟩ := exists_opens hfrom
        obtain ⟨m, t, rfl, -, -, hr⟩ := insertWhere_table hcondition hopen hf
        rw [hr] at h
        cases h
  · rintro ⟨hf, ⟨hcondition, hfrom⟩, rfl⟩
    exact insertWhere_missing hcondition hfrom hf

end Sql

/-! ## Statements -/

namespace Statement

theorem splice_eq_error_iff {template condition : Text} {key : Option Text} {fault : TemplateFault} :
    splice template condition key = .error fault ↔
      condition ≠ [] ∧ Sql.Placeless (Text.normalize template) ∧ fault = .missingFrom (Text.normalize template) := by
  rw [← Sql.insertWhere_eq_error_iff]
  unfold splice
  cases Sql.insertWhere (Text.normalize template) condition <;> simp [Except.map]

theorem applyFilter_eq_request_iff {s : Statement} {group : FilterGroup} {columns : Columns} {problems : List Problem} :
    s.applyFilter group columns = .error (.request problems) ↔
      Condition.ofGroup columns group (Placeholder.last s.sql) = .error problems := by
  unfold applyFilter
  cases Condition.ofGroup columns group (Placeholder.last s.sql) with
  | error problems' => simp
  | ok c =>
    dsimp only
    split <;> simp

theorem applyFilter_eq_template_iff {s : Statement} {group : FilterGroup} {columns : Columns} {fault : TemplateFault} :
    s.applyFilter group columns = .error (.template fault) ↔
      ∃ c, Condition.ofGroup columns group (Placeholder.last s.sql) = .ok c ∧
        splice s.sql c.sql (group.orderKey? columns) = .error fault := by
  unfold applyFilter
  cases Condition.ofGroup columns group (Placeholder.last s.sql) with
  | error problems => simp
  | ok c => cases hsql : splice s.sql c.sql (group.orderKey? columns) <;> simp [hsql]

/-- The template is at fault when nothing is wrong with the request, there is a condition to add and no place for it;
the fault then carries the normalized text. -/
theorem applyFilter_eq_template_iff_placeless {s : Statement} {group : FilterGroup} {columns : Columns}
    {fault : TemplateFault} :
    s.applyFilter group columns = .error (.template fault) ↔
      (¬ ∃ f ∈ (group.withColumns columns).filters, f.Faulty) ∧ (group.withColumns columns).filters ≠ [] ∧
        Sql.Placeless (Text.normalize s.sql) ∧ fault = .missingFrom (Text.normalize s.sql) := by
  rw [applyFilter_eq_template_iff, ← Condition.exists_ofGroup_eq_ok_iff]
  constructor
  · rintro ⟨c, hc, hsplice⟩
    obtain ⟨hsql, hplaceless, hfault⟩ := splice_eq_error_iff.1 hsplice
    exact ⟨⟨c, hc⟩, mt (Condition.ofGroup_sql_eq_nil_iff hc).2 hsql, hplaceless, hfault⟩
  · rintro ⟨⟨c, hc⟩, hfilters, hplaceless, hfault⟩
    exact ⟨c, hc, splice_eq_error_iff.2 ⟨mt (Condition.ofGroup_sql_eq_nil_iff hc).1 hfilters, hplaceless, hfault⟩⟩

/-- What applying a group ends in. It is the request's fault exactly when some filter that has a column is faulty, and
then there is one problem for each of these, in order. It is the template's fault exactly when there is no such filter,
but one with a column, and no place for its condition. Otherwise there is a statement. So a template without a place
neither hides a fault of the client nor is reported as one. -/
theorem applyFilter_outcome (s : Statement) (group : FilterGroup) (columns : Columns) :
    let filters := (group.withColumns columns).filters
    let template := Text.normalize s.sql
    ((∃ problems, s.applyFilter group columns = .error (.request problems)) ↔ ∃ f ∈ filters, f.Faulty) ∧
    (∀ problems, s.applyFilter group columns = .error (.request problems) →
      problems = filters.filterMap Filter.problem?) ∧
    (∀ fault, s.applyFilter group columns = .error (.template fault) ↔
      (¬ ∃ f ∈ filters, f.Faulty) ∧ filters ≠ [] ∧ Sql.Placeless template ∧ fault = .missingFrom template) ∧
    ((∃ s', s.applyFilter group columns = .ok s') ↔
      (¬ ∃ f ∈ filters, f.Faulty) ∧ (filters = [] ∨ ¬ Sql.Placeless template)) ∧
    ∀ fault, s.applyFilter group columns = .error fault →
      (fault.isClientFault = true ↔ ∃ f ∈ filters, f.Faulty) := by
  intro filters template
  have hrequest : (∃ problems, s.applyFilter group columns = .error (.request problems)) ↔ ∃ f ∈ filters, f.Faulty := by
    simp only [applyFilter_eq_request_iff]
    exact Condition.exists_ofGroup_eq_error_iff _
  have htemplate : ∀ fault, s.applyFilter group columns = .error (.template fault) ↔
      (¬ ∃ f ∈ filters, f.Faulty) ∧ filters ≠ [] ∧ Sql.Placeless template ∧ fault = .missingFrom template :=
    fun fault => applyFilter_eq_template_iff_placeless
  refine ⟨hrequest, fun problems h => ?_, htemplate, ?_, fun fault h => ?_⟩
  · exact (Condition.ofGroup_eq_error_iff_withColumns.1 (applyFilter_eq_request_iff.1 h)).2
  · cases h : s.applyFilter group columns with
    | ok s' =>
      have hsound : ¬ ∃ f ∈ filters, f.Faulty := by simp [← hrequest, h]
      have hplaced : filters = [] ∨ ¬ Sql.Placeless template := by
        by_contra hnone
        push Not at hnone
        rw [(htemplate _).2 ⟨hsound, hnone.1, hnone.2, rfl⟩] at h
        cases h
      simp [hsound, hplaced]
    | error fault =>
      cases fault with
      | request problems =>
        have hfaulty : ∃ f ∈ filters, f.Faulty := hrequest.1 ⟨problems, h⟩
        simp [hfaulty]
      | template fault =>
        obtain ⟨-, hfilters, hplaceless, -⟩ := (htemplate fault).1 h
        simp [hfilters, hplaceless]
  · cases fault with
    | request problems => exact iff_of_true rfl (hrequest.1 ⟨problems, h⟩)
    | template fault => exact iff_of_false Bool.false_ne_true ((htemplate fault).1 h).1

/-- The text has no place for a condition. A group with faults is refused for these, for the value of a filter before
its operation, whatever the text is; a group without any is refused for the text. -/
theorem applyFilter_outcome_placeless :
    let s := ofText "SELECT 1".toList
    let columns : Columns := ⟨[("rate".toList, "rate".toList), ("name".toList, "alias".toList)], []⟩
    let faulty : FilterGroup := ⟨[⟨"tag".toList, .equals, "x".toList, .int⟩,
      ⟨"rate".toList, .unknown, "x".toList, .int⟩, ⟨"name".toList, .equals, "a".toList, .string⟩,
      ⟨"name".toList, .unknown, "b".toList, .string⟩], none, .ascending⟩
    let sound : FilterGroup := ⟨[⟨"tag".toList, .equals, "x".toList, .int⟩,
      ⟨"name".toList, .equals, "a".toList, .string⟩], none, .ascending⟩
    s.applyFilter faulty columns =
      .error (.request [.coercion "x".toList "int".toList, .unknownOperation "unknown".toList Operation.tokens]) ∧
    (∃ f ∈ (faulty.withColumns columns).filters, f.Faulty) ∧
    s.applyFilter sound columns = .error (.template (.missingFrom "SELECT 1".toList)) ∧
    Sql.Placeless "SELECT 1".toList := by
  intro s columns faulty sound
  have hfaulty : s.applyFilter faulty columns = .error (.request [.coercion "x".toList "int".toList,
      .unknownOperation "unknown".toList Operation.tokens]) := by decide +kernel
  have hsound : s.applyFilter sound columns = .error (.template (.missingFrom "SELECT 1".toList)) := by decide +kernel
  obtain ⟨hrequest, -⟩ := applyFilter_outcome s faulty columns
  obtain ⟨-, -, htemplate, -⟩ := applyFilter_outcome s sound columns
  have hnormalized : Text.normalize s.sql = "SELECT 1".toList := by decide +kernel
  obtain ⟨-, -, hplaceless, -⟩ := (htemplate _).1 hsound
  exact ⟨hfaulty, hrequest.1 ⟨_, hfaulty⟩, hsound, hnormalized ▸ hplaceless⟩

end Statement

end SensorRegistry
