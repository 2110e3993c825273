/-
Balance over whole runs. The conditions and order keys of columns without quotes and parentheses are
neutral, and counting and paging put balanced text around the whole statement. So every step keeps a
balanced statement balanced, and by induction every run does, wherever its splices cut.
-/
import SensorRegistry.Proofs.Sql.Balance
import SensorRegistry.Proofs.Statement.Run

namespace SensorRegistry.Statement

open Sql

/-! ## One step -/

theorem neutral_orderKey {group : FilterGroup} {columns : Columns} {key : Text} (hcol : columns.All Undelimited)
    (h : group.orderKey? columns = some key) : Neutral key := by
  rw [orderKey?_eq_map, Option.map_eq_some_iff] at h
  obtain ⟨column, hc, rfl⟩ := h
  obtain ⟨field, -, hfield⟩ := Option.bind_eq_some_iff.1 hc
  have hdir : Undelimited (' ' :: group.direction.sql) := by cases group.direction <;> decide
  exact (hcol.orders hfield).neutral.append hdir.neutral

theorem balanced_applyFilter {s s' : Statement} {group : FilterGroup} {columns : Columns} (hs : Balanced s.sql)
    (hcol : columns.All Undelimited) (h : s.applyFilter group columns = .ok s') : Balanced s'.sql := by
  obtain ⟨ts, sql, hts, hsql, rfl⟩ := applyFilter_eq_ok_iff.1 h
  obtain ⟨w, hw, rfl⟩ := splice_eq_ok_iff.1 hsql
  have hnorm : Balanced (Text.normalize s.sql) := hs.congr (markSeparated_delimiters.normalize s.sql).symm
  have hbal : Balanced w := balanced_insertWhere hnorm (neutral_rendered hts fun m hm => hcol.mapped hm) hw
  cases hkey : group.orderKey? columns with
  | none => exact hbal
  | some key => exact balanced_insertOrder hbal (neutral_orderKey hcol hkey)

theorem balanced_inner {sql : Text} (h : Balanced sql) : Balanced (inner sql) := by
  obtain ⟨x, hx, hs⟩ := Text.exists_trimStart sql
  refine h.congr ?_
  rw [inner, delimiters_body]
  conv_lhs => rw [hs]
  exact markSeparated_delimiters.blank_append hx _

theorem balanced_countText {sql : Text} (h : Balanced sql) : Balanced (countText sql) := by
  have hcount : Balanced "SELECT COUNT(*) FROM ".toList := by decide +kernel
  have halias : Undelimited " AS subquery".toList := by decide
  have hbal := (hcount.append (balanced_inner h).group).append halias.neutral.balanced
  have hopen : "SELECT COUNT(*) FROM (".toList = "SELECT COUNT(*) FROM ".toList ++ ['('] := by decide
  have hclose : ") AS subquery".toList = ')' :: " AS subquery".toList := by decide
  unfold countText
  rw [hopen, hclose]
  simp only [List.append_assoc, List.cons_append, List.nil_append] at hbal ⊢
  exact hbal

theorem balanced_pageText {sql : Text} (h : Balanced sql) : Balanced (pageText sql) := by
  have htail : ∀ a b, Undelimited
      (" LIMIT ".toList ++ Placeholder.write a ++ " OFFSET ".toList ++ Placeholder.write b ++ ";".toList) := by
    intro a b
    simp only [undelimited_append_iff]
    exact ⟨⟨⟨⟨by decide, undelimited_write a⟩, by decide⟩, undelimited_write b⟩, by decide⟩
  rw [pageText_eq]
  exact (balanced_inner h).append (htail _ _).neutral.balanced

/-- A step that names no column with a quote or a parenthesis. -/
def Step.Undelimited : Step → Prop
  | .filter _ columns => columns.All Sql.Undelimited
  | .count => True
  | .paginate _ => True

theorem perform_balanced {s : Statement} {step : Step} (hs : Balanced s.sql) (hstep : step.Undelimited) :
    Balanced (s.perform step).sql := by
  cases step with
  | filter group columns =>
    rcases perform_filter_cases s group columns with h | ⟨-, h⟩
    · exact balanced_applyFilter hs hstep h
    · rwa [h]
  | count => exact balanced_countText hs
  | paginate page => exact balanced_pageText hs

/-! ## Runs -/

/-- A balanced statement is balanced after every step of every run over columns without quotes and
parentheses: whatever is filtered, ordered, counted and paged, and however often, no literal is left
open, no parenthesis is left over, and none is closed too early. -/
theorem run_balanced {s : Statement} (hs : Balanced s.sql) {steps : List Step}
    (hsteps : ∀ step ∈ steps, step.Undelimited) {done : List Step} (hdone : done <+: steps) :
    Balanced (run s done).sql := by
  have hall : ∀ step ∈ done, step.Undelimited := fun step hstep => hsteps step (hdone.subset hstep)
  clear hdone
  induction done using List.reverseRecOn with
  | nil => exact hs
  | append_singleton done step ih =>
    rw [run_concat]
    exact perform_balanced (ih fun t ht => hall t (List.mem_append_left _ ht)) (hall step (by simp))

/-- The table ends in a literal, so two patterns and a negation go in there; then the statement is
counted, filtered as a whole, ordered and paged. -/
theorem run_balanced_cut_literal :
    let s : Statement := ofText "SELECT f(a, ')') FROM 'left (right' ORDER BY g(a, (b)), id;".toList
    let columns : Columns := ⟨[("name".toList, "name".toList)], [("name".toList, "name".toList)]⟩
    let filters : List Filter :=
      [⟨"name".toList, .like, "x".toList, .string⟩, ⟨"name".toList, .notEquals, "y".toList, .string⟩]
    let filter : Step := .filter ⟨filters, some "name".toList, .ascending⟩ columns
    Balanced (run s [filter, .count, filter, .paginate ⟨0, 10, 0⟩]).sql := by
  intro s columns filters filter
  have hs : Balanced s.sql := by decide +kernel
  have hcol : columns.All Sql.Undelimited := Columns.all_of_entries (by decide) (by decide)
  have hsteps : ∀ step ∈ [filter, .count, filter, .paginate ⟨0, 10, 0⟩], step.Undelimited := by
    simp only [List.forall_mem_cons]
    exact ⟨hcol, trivial, hcol, trivial, by simp⟩
  exact run_balanced hs hsteps (List.prefix_refl _)

end SensorRegistry.Statement
