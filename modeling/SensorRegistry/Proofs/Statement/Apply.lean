/-
Applying a filter group to a statement, taken apart: the mapped filters render, their conjunction and
the order key are spliced into the normalized text, and the parameters follow the old ones. What of a
request reaches the text is then read off: operations, columns and the direction, and nothing else.
-/
import SensorRegistry.Sql.Statement
import SensorRegistry.Proofs.Sql.Condition
import Mathlib.Data.List.Forall2

namespace SensorRegistry.Statement

theorem splice_eq_ok_iff {template condition r : Text} {key : Option Text} :
    splice template condition key = .ok r ↔
      ∃ w, Sql.insertWhere (Text.normalize template) condition = .ok w ∧
        r = match key with
          | some key => Sql.insertOrder w key
          | none => w := by
  unfold splice
  cases Sql.insertWhere (Text.normalize template) condition with
  | error e => simp [Except.map]
  | ok w => cases key <;> simp [Except.map, eq_comm]

theorem applyFilter_of_rendered {s : Statement} {group : FilterGroup} {columns : Columns}
    {ts : List (Text × Param)}
    (h : Condition.Rendered (Placeholder.last s.sql) (Condition.mapped columns group) ts) :
    s.applyFilter group columns =
      match splice s.sql (Text.join " AND " (ts.map (·.1))) (group.orderKey? columns) with
      | .error fault => .error (.template fault)
      | .ok sql => .ok ⟨sql, s.params ++ ts.map (·.2)⟩ := by
  have hc := Condition.ofGroup_eq_ok_iff.2 ⟨ts, h, rfl⟩
  cases hsql : splice s.sql (Text.join " AND " (ts.map (·.1))) (group.orderKey? columns) <;>
    simp [applyFilter, hc, hsql]

/-- Applying a group succeeds exactly when its mapped filters render and their conjunction fits the
text; then these are the new text and the new parameters. -/
theorem applyFilter_eq_ok_iff {s s' : Statement} {group : FilterGroup} {columns : Columns} :
    s.applyFilter group columns = .ok s' ↔
      ∃ ts sql, Condition.Rendered (Placeholder.last s.sql) (Condition.mapped columns group) ts ∧
        splice s.sql (Text.join " AND " (ts.map (·.1))) (group.orderKey? columns) = .ok sql ∧
        s' = ⟨sql, s.params ++ ts.map (·.2)⟩ := by
  constructor
  · intro h
    cases hc : Condition.ofGroup columns group (Placeholder.last s.sql) with
    | error problems =>
      unfold applyFilter at h
      rw [hc] at h
      cases h
    | ok c =>
      obtain ⟨ts, hts, -⟩ := Condition.ofGroup_eq_ok_iff.1 hc
      rw [applyFilter_of_rendered hts] at h
      split at h
      · cases h
      · rename_i sql hsql
        cases h
        exact ⟨ts, sql, hts, hsql, rfl⟩
  · rintro ⟨ts, sql, hts, hsql, rfl⟩
    rw [applyFilter_of_rendered hts, hsql]

/-! ## The order key -/

theorem orderKey?_eq_map (group : FilterGroup) (columns : Columns) :
    group.orderKey? columns = (group.order.bind columns.orderColumn?).map (· ++ ' ' :: group.direction.sql) := by
  unfold FilterGroup.orderKey?
  cases group.order with
  | none => rfl
  | some field => cases h : columns.orderColumn? field <;> simp [h]

theorem orderKey?_ne_nil {group : FilterGroup} {columns : Columns} {key : Text}
    (h : group.orderKey? columns = some key) : key ≠ [] := by
  rw [orderKey?_eq_map, Option.map_eq_some_iff] at h
  obtain ⟨column, -, rfl⟩ := h
  simp

/-! ## What of a request reaches the text -/

/-- The groups ask the same operations of the same columns in the same order; the fields that they
name, the values that they compare with and the types of these may differ. -/
structure SameShape (columns : Columns) (g h : FilterGroup) : Prop where
  filters : List.Forall₂ (fun f f' => f.operation = f'.operation ∧
    columns.filterColumn? f.field = columns.filterColumn? f'.field) g.filters h.filters
  order : g.order.bind columns.orderColumn? = h.order.bind columns.orderColumn?
  direction : g.direction = h.direction

theorem SameShape.orderKey?_eq {columns : Columns} {g h : FilterGroup} (hs : SameShape columns g h) :
    g.orderKey? columns = h.orderKey? columns := by
  rw [orderKey?_eq_map, orderKey?_eq_map, hs.order, hs.direction]

theorem SameShape.mapped {columns : Columns} {g h : FilterGroup} (hs : SameShape columns g h) :
    List.Forall₂ (fun m n : Text × Filter => m.1 = n.1 ∧ m.2.operation = n.2.operation)
      (Condition.mapped columns g) (Condition.mapped columns h) := by
  obtain ⟨hfilters, -, -⟩ := hs
  unfold Condition.mapped
  generalize g.filters = fs, h.filters = fs' at hfilters
  induction hfilters with
  | nil => exact .nil
  | @cons f f' fs fs' hf _ ih =>
    obtain ⟨hop, hcol⟩ := hf
    rw [List.filterMap_cons, List.filterMap_cons, hcol]
    cases columns.filterColumn? f'.field with
    | none => exact ih
    | some column => exact .cons ⟨rfl, hop⟩ ih

/-- Client text never reaches the statement text: two groups of one shape, applied to one statement,
give the same text byte for byte, and as many parameters behind the old ones. -/
theorem applyFilter_text_of_shape {s s₁ s₂ : Statement} {columns : Columns} {g h : FilterGroup}
    (hs : SameShape columns g h) (h₁ : s.applyFilter g columns = .ok s₁) (h₂ : s.applyFilter h columns = .ok s₂) :
    s₁.sql = s₂.sql ∧
      ∃ ps qs, s₁.params = s.params ++ ps ∧ s₂.params = s.params ++ qs ∧ ps.length = qs.length := by
  obtain ⟨ts, sql₁, hts, hsql₁, rfl⟩ := applyFilter_eq_ok_iff.1 h₁
  obtain ⟨us, sql₂, hus, hsql₂, rfl⟩ := applyFilter_eq_ok_iff.1 h₂
  constructor
  · rw [hts.predicates_eq hus hs.mapped, hs.orderKey?_eq, hsql₂] at hsql₁
    cases hsql₁; rfl
  · refine ⟨_, _, rfl, rfl, ?_⟩
    rw [List.length_map, List.length_map, hts.length_eq, hus.length_eq, hs.mapped.length_eq]

/-- A number on one field and a hostile text on another one leave one and the same text. -/
theorem applyFilter_text_of_shape_hostile :
    let columns : Columns := ⟨[("a".toList, "c".toList), ("b".toList, "c".toList)], []⟩
    let g : FilterGroup := ⟨[⟨"a".toList, .equals, "1".toList, .int⟩], none, .ascending⟩
    let h : FilterGroup := ⟨[⟨"b".toList, .equals, "' OR TRUE;--".toList, .string⟩], none, .ascending⟩
    ∃ s₁ s₂, (ofText "SELECT * FROM t;".toList).applyFilter g columns = .ok s₁ ∧
      (ofText "SELECT * FROM t;".toList).applyFilter h columns = .ok s₂ ∧ s₁.sql = s₂.sql := by
  intro columns g h
  have h₁ : (ofText "SELECT * FROM t;".toList).applyFilter g columns =
      .ok ⟨"SELECT * FROM t WHERE c=$1;".toList, [.int 1]⟩ := by decide +kernel
  have h₂ : (ofText "SELECT * FROM t;".toList).applyFilter h columns =
      .ok ⟨"SELECT * FROM t WHERE c=$1;".toList, [.text "' OR TRUE;--".toList]⟩ := by decide +kernel
  have shape : SameShape columns g h := ⟨.cons ⟨rfl, rfl⟩ .nil, rfl, rfl⟩
  exact ⟨_, _, h₁, h₂, (applyFilter_text_of_shape shape h₁ h₂).1⟩

end SensorRegistry.Statement
