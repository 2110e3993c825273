/-
Runs of statement steps: a statement is filtered, replaced by its count and paged, any number of
times and in any order. A step that fails leaves the statement as it was.

Every step is an insertion as far as placeholders go: it puts fresh consecutive ones into one place
of the text and as many values behind the parameters.
-/
import SensorRegistry.Proofs.Statement.Apply

namespace SensorRegistry

/-- All columns of a map have the property. -/
structure Columns.All (P : Text → Prop) (c : Columns) : Prop where
  filters : ∀ {field column}, c.filterColumn? field = some column → P column
  orders : ∀ {field column}, c.orderColumn? field = some column → P column

theorem Columns.All.mapped {P : Text → Prop} {c : Columns} (h : c.All P) {group : FilterGroup} {m : Text × Filter}
    (hm : m ∈ Condition.mapped c group) : P m.1 :=
  h.filters (Condition.mem_mapped_iff.1 hm).2

/-- The columns of a map are those of its entries. -/
theorem Columns.all_of_entries {P : Text → Prop} {c : Columns} (hf : ∀ p ∈ c.filters, P p.2)
    (ho : ∀ p ∈ c.orders, P p.2) : c.All P := by
  have hlook : ∀ {l : List (Text × Text)} {field column : Text}, l.lookup field = some column →
      ∃ p ∈ l, p.2 = column := by
    intro l field column h
    obtain ⟨l₁, l₂, rfl, -⟩ := List.lookup_eq_some_iff.1 h
    exact ⟨(field, column), by simp, rfl⟩
  constructor
  · intro field column h
    obtain ⟨p, hp, rfl⟩ := hlook h
    exact hf p hp
  · intro field column h
    obtain ⟨p, hp, rfl⟩ := hlook h
    exact ho p hp

namespace Statement

/-! ## Steps and runs -/

/-- What can be done with a statement. -/
inductive Step
  | filter (group : FilterGroup) (columns : Columns)
  | count
  | paginate (page : Page)

/-- The statement after a step. -/
def perform (s : Statement) : Step → Statement
  | .filter group columns =>
    match s.applyFilter group columns with
    | .ok s' => s'
    | .error _ => s
  | .count => s.count
  | .paginate page => s.paginate page

/-- The statement after a run. -/
def run (s : Statement) (steps : List Step) : Statement := steps.foldl perform s

theorem run_concat (s : Statement) (steps : List Step) (step : Step) :
    run s (steps ++ [step]) = (run s steps).perform step := by
  rw [run, List.foldl_append]; rfl

/-- A filter step succeeds as `applyFilter` does, or changes nothing. -/
theorem perform_filter_cases (s : Statement) (group : FilterGroup) (columns : Columns) :
    s.applyFilter group columns = .ok (s.perform (.filter group columns)) ∨
      (∃ fault, s.applyFilter group columns = .error fault) ∧ s.perform (.filter group columns) = s := by
  cases h : s.applyFilter group columns with
  | error fault => exact .inr ⟨⟨fault, rfl⟩, by rw [perform, h]⟩
  | ok s' => left; rw [perform, h]

theorem prefix_perform_params (s : Statement) (step : Step) : s.params <+: (s.perform step).params := by
  cases step with
  | filter group columns =>
    rcases perform_filter_cases s group columns with h | ⟨-, h⟩
    · obtain ⟨ts, sql, -, -, hs⟩ := applyFilter_eq_ok_iff.1 h
      rw [hs]
      exact List.prefix_append _ _
    · rw [h]
  | count => exact List.prefix_refl _
  | paginate page => exact List.prefix_append _ _

/-! ## The text of a step -/

theorem runs_inner (sql : Text) : Placeholder.runs (inner sql) = Placeholder.runs sql := by
  obtain ⟨x, hx, h⟩ := Text.exists_trimStart sql
  rw [inner, Placeholder.runs_body]
  conv_rhs => rw [h]
  rw [Placeholder.markSeparated_runs.blank_append hx]

theorem runs_countText (sql : Text) : Placeholder.runs (countText sql) = Placeholder.runs sql := by
  unfold countText
  rw [List.append_assoc, Placeholder.runs_append_of_no_dollar (by decide), Placeholder.runs_append (by simp),
    Placeholder.runs_of_no_dollar (s := ") AS subquery".toList) (by decide), List.append_nil, runs_inner]

theorem runs_pageTail (a b : Nat) :
    Placeholder.runs (" LIMIT ".toList ++ Placeholder.write a ++ " OFFSET ".toList ++ Placeholder.write b ++
      ";".toList) = [Text.ofNat a, Text.ofNat b] := by
  have limit : Placeholder.runs (" LIMIT ".toList ++ Placeholder.write a) = [Text.ofNat a] := by
    rw [Placeholder.runs_append_of_no_dollar (by decide), Placeholder.runs_write]
  have offset : Placeholder.runs (" OFFSET ".toList ++ Placeholder.write b ++ ";".toList) = [Text.ofNat b] :=
    Placeholder.runs_around (by decide) (by decide) (by simp) b
  rw [List.append_assoc, List.append_assoc, ← List.append_assoc " OFFSET ".toList, Placeholder.runs_append (by simp),
    limit, offset]
  rfl

theorem pageText_eq (sql : Text) :
    pageText sql = inner sql ++ (" LIMIT ".toList ++ Placeholder.write (Placeholder.last sql + 1) ++
      " OFFSET ".toList ++ Placeholder.write (Placeholder.last sql + 1 + 1) ++ ";".toList) := by
  simp [pageText]

theorem runs_pageText (sql : Text) :
    Placeholder.runs (pageText sql) =
      Placeholder.runs sql ++ (List.range' (Placeholder.last sql + 1) 2).map Text.ofNat := by
  rw [pageText_eq, Placeholder.runs_append (by simp), runs_pageTail, runs_inner]
  rfl

/-- Applying a group without an order key puts the placeholders of its condition into one place of
the text. -/
theorem runs_splice {template condition r : Text} (h : splice template condition none = .ok r) :
    ∃ pre post, Placeholder.runs template = pre ++ post ∧
      Placeholder.runs r = pre ++ Placeholder.runs condition ++ post := by
  obtain ⟨w, hw, rfl⟩ := splice_eq_ok_iff.1 h
  obtain ⟨pre, post, h1, h2⟩ := Placeholder.runs_insertWhere hw
  exact ⟨pre, post, by rw [← h1, Placeholder.markSeparated_runs.normalize], h2⟩

end Statement

end SensorRegistry
