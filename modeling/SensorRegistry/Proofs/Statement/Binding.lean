/-
Placeholder binding over whole runs. As long as no order key is replaced, the highest placeholder of
the text stays the number of parameters: every step inserts the next placeholders in one place and
adds their values behind the parameters, and disturbs no other placeholder. So each placeholder that
a step writes names the position of its own value.

The invariant is `Numbered`, the step is `Inserted`, and the run is an induction on its length.
-/
import SensorRegistry.Proofs.Statement.Run
import Mathlib.Data.List.Induction

namespace SensorRegistry.Statement

/-- The highest placeholder of the text is the number of parameters. -/
def Numbered (s : Statement) : Prop := Placeholder.last s.sql = s.params.length

instance (s : Statement) : Decidable s.Numbered := inferInstanceAs (Decidable (_ = _))

/-- The parameter that the placeholder of an index stands for: positions count from one. -/
def value? (s : Statement) (index : Nat) : Option Param := s.params[index - 1]?

/-! ## One insertion -/

/-- The statement `s'` is `s` with the next placeholders in one place of its text and their values
behind its parameters. -/
structure Inserted (s s' : Statement) (added : List Param) : Prop where
  params : s'.params = s.params ++ added
  text : ∃ pre post, Placeholder.runs s.sql = pre ++ post ∧ Placeholder.runs s'.sql =
    pre ++ (List.range' (s.params.length + 1) added.length).map Text.ofNat ++ post

theorem Inserted.refl (s : Statement) : Inserted s s [] :=
  ⟨by simp, Placeholder.runs s.sql, [], by simp, by simp⟩

theorem Inserted.numbered {s s' : Statement} {added : List Param} (h : Inserted s s' added) (hs : s.Numbered)
    (hlen : s'.params.length ≤ Placeholder.greatest) : s'.Numbered := by
  obtain ⟨hp, pre, post, h1, h2⟩ := h
  rw [hp, List.length_append] at hlen
  have hold : max (Placeholder.highest pre) (Placeholder.highest post) = s.params.length := by
    rw [← Placeholder.highest_append, ← h1, ← Placeholder.last_eq]; exact hs
  -- the fresh placeholders go up to the new number of parameters, the others stay below the old one
  have hnew := Placeholder.highest_fresh hlen
  rw [Numbered, Placeholder.last_eq, h2, Placeholder.highest_append, Placeholder.highest_append, hp,
    List.length_append, max_right_comm, hold, hnew]

/-- The placeholders of the new text are those of the old one, each as often as before, and the next
ones, each once. -/
theorem Inserted.occurrences {s s' : Statement} {added : List Param} (h : Inserted s s' added) :
    (Placeholder.occurrences s'.sql).Perm (Placeholder.occurrences s.sql ++
      (List.range' (s.params.length + 1) (s'.params.length - s.params.length)).map Text.ofNat) := by
  obtain ⟨hp, pre, post, h1, h2⟩ := h
  have hcount : s'.params.length - s.params.length = added.length := by
    rw [hp, List.length_append, Nat.add_sub_cancel_left]
  unfold Placeholder.occurrences
  rw [h1, h2, hcount, List.filter_append, List.filter_append, List.filter_append]
  have hfresh : ((List.range' (s.params.length + 1) added.length).map Text.ofNat).filter (! ·.isEmpty) =
      (List.range' (s.params.length + 1) added.length).map Text.ofNat := by
    refine List.filter_eq_self.2 fun d hd => ?_
    simpa using Placeholder.fresh_ne_nil hd
  rw [hfresh, List.append_assoc, List.append_assoc]
  exact List.Perm.append_left _ List.perm_append_comm

/-! ## One step -/

/-- A step that replaces no order key and compares columns without `$`. -/
def Step.Plain : Step → Prop
  | .filter group columns =>
    (∀ field ∈ group.order, columns.orderColumn? field = none) ∧ columns.All ('$' ∉ ·)
  | .count => True
  | .paginate _ => True

/-- What a step binds. The predicates of a filter step stand in the new text as one condition, and
the placeholder in each names the position of that filter's value; the placeholders of a page name
the positions of its limit and its offset. A filter step that fails binds nothing. -/
def Step.Binds (s s' : Statement) : Step → Prop
  | .filter group columns =>
    (s' = s ∧ ∃ fault, s.applyFilter group columns = .error fault) ∨
    ∃ texts, s.applyFilter group columns = .ok s' ∧ texts.length = (Condition.mapped columns group).length ∧
      s'.params.length = s.params.length + texts.length ∧ Text.trim (Text.join " AND " texts) <:+: s'.sql ∧
      ∀ i column f, (Condition.mapped columns group)[i]? = some (column, f) →
        ∃ text p, texts[i]? = some text ∧
          Condition.predicate? column f.operation (s.params.length + i + 1) = some text ∧ f.coerce = .ok p ∧
          s'.value? (s.params.length + i + 1) = some p
  | .count => s' = s.count ∧ s'.params = s.params
  | .paginate page =>
    ∃ a b,
      " LIMIT ".toList ++ Placeholder.write a ++ " OFFSET ".toList ++ Placeholder.write b ++ ";".toList <:+ s'.sql ∧
      s'.value? a = some (.int page.limit) ∧ s'.value? b = some (.int page.offset)

theorem applyFilter_inserted {s s' : Statement} {group : FilterGroup} {columns : Columns} (hs : s.Numbered)
    (hkey : group.orderKey? columns = none) (hcol : columns.All ('$' ∉ ·))
    (h : s.applyFilter group columns = .ok s') : ∃ added, Inserted s s' added := by
  obtain ⟨ts, sql, hts, hsql, rfl⟩ := applyFilter_eq_ok_iff.1 h
  rw [hkey] at hsql
  obtain ⟨pre, post, h1, h2⟩ := runs_splice hsql
  rw [hts.runs fun m hm => hcol.mapped hm, hs] at h2
  exact ⟨ts.map (·.2), rfl, pre, post, h1, by rw [h2, List.length_map]⟩

theorem applyFilter_binds {s s' : Statement} {group : FilterGroup} {columns : Columns} (hs : s.Numbered)
    (hkey : group.orderKey? columns = none) (h : s.applyFilter group columns = .ok s') :
    Step.Binds s s' (.filter group columns) := by
  obtain ⟨ts, sql, hts, hsql, rfl⟩ := applyFilter_eq_ok_iff.1 h
  rw [hkey] at hsql
  obtain ⟨w, hw, rfl⟩ := splice_eq_ok_iff.1 hsql
  refine .inr ⟨ts.map (·.1), h, by rw [List.length_map, hts.length_eq], by simp, Sql.infix_insertWhere hw, ?_⟩
  intro i column f hi
  obtain ⟨text, p, ht, hp, htext⟩ := hts.get hi
  rw [hs] at htext
  refine ⟨text, p, by rw [List.getElem?_map, ht]; rfl, htext, hp, ?_⟩
  rw [value?, Nat.add_sub_cancel, List.getElem?_append_right (by omega), Nat.add_sub_cancel_left,
    List.getElem?_map, ht]
  rfl

theorem Step.Plain.orderKey? {group : FilterGroup} {columns : Columns} (h : (Step.filter group columns).Plain) :
    group.orderKey? columns = none := by
  rw [orderKey?_eq_map]
  cases ho : group.order with
  | none => rfl
  | some field => rw [Option.bind_some, h.1 field ho]; rfl

/-- Every plain step is an insertion. -/
theorem perform_inserted {s : Statement} {step : Step} (hs : s.Numbered) (hp : step.Plain) :
    ∃ added, Inserted s (s.perform step) added := by
  cases step with
  | filter group columns =>
    rcases perform_filter_cases s group columns with h | ⟨-, h⟩
    · exact applyFilter_inserted hs hp.orderKey? hp.2 h
    · rw [h]
      exact ⟨[], Inserted.refl s⟩
  | count =>
    refine ⟨[], by simp [perform, count], _, [], (List.append_nil _).symm, ?_⟩
    simp [perform, count, runs_countText]
  | paginate page =>
    refine ⟨pageParams page, rfl, _, [], (List.append_nil _).symm, ?_⟩
    rw [List.append_nil, ← hs]
    exact runs_pageText s.sql

theorem perform_binds {s : Statement} {step : Step} (hs : s.Numbered) (hp : step.Plain) :
    step.Binds s (s.perform step) := by
  cases step with
  | filter group columns =>
    rcases perform_filter_cases s group columns with h | ⟨hfault, h⟩
    · exact applyFilter_binds hs hp.orderKey? h
    · exact .inl ⟨h, hfault⟩
  | count => exact ⟨rfl, rfl⟩
  | paginate page =>
    refine ⟨s.params.length + 1, s.params.length + 1 + 1, ⟨inner s.sql, ?_⟩, ?_, ?_⟩
    · rw [← hs]
      exact (pageText_eq s.sql).symm
    · simp [value?, perform, paginate, pageParams]
    · simp [value?, perform, paginate, pageParams]

/-! ## Runs -/

/-- What holds after a step: the text is numbered again, the parameters so far are kept, exactly the
next placeholders are new, and each stands for its own value. -/
structure Bound (s : Statement) (step : Step) (s' : Statement) : Prop where
  numbered : s'.Numbered
  kept : s.params <+: s'.params
  occurrences : (Placeholder.occurrences s'.sql).Perm (Placeholder.occurrences s.sql ++
    (List.range' (s.params.length + 1) (s'.params.length - s.params.length)).map Text.ofNat)
  binds : step.Binds s s'

theorem perform_bound {s : Statement} {step : Step} (hs : s.Numbered) (hp : step.Plain)
    (hlen : (s.perform step).params.length ≤ Placeholder.greatest) : Bound s step (s.perform step) := by
  obtain ⟨added, h⟩ := perform_inserted hs hp
  exact ⟨h.numbered hs hlen, prefix_perform_params s step, h.occurrences, perform_binds hs hp⟩

theorem run_numbered {s : Statement} (hs : s.Numbered) (steps : List Step) (hp : ∀ step ∈ steps, step.Plain)
    (hlen : (run s steps).params.length ≤ Placeholder.greatest) : (run s steps).Numbered := by
  induction steps using List.reverseRecOn with
  | nil => exact hs
  | append_singleton steps step ih =>
    rw [run_concat] at hlen ⊢
    have hshort := (prefix_perform_params (run s steps) step).length_le
    have hnum := ih (fun t ht => hp t (List.mem_append_left _ ht)) (by omega)
    exact (perform_bound hnum (hp step (by simp)) hlen).numbered

/-- Placeholder binding over whole runs: from a numbered statement, and as long as the indices fit
64 bits, every step of every run of plain steps keeps the parameters and the placeholders so far,
numbers the new ones consecutively, and writes for each value the placeholder of its position. -/
theorem run_binds {s : Statement} (hs : s.Numbered) (steps : List Step) (step : Step)
    (hp : ∀ t ∈ steps ++ [step], t.Plain)
    (hlen : (run s (steps ++ [step])).params.length ≤ Placeholder.greatest) :
    Bound (run s steps) step (run s (steps ++ [step])) := by
  rw [run_concat] at hlen ⊢
  have hshort := (prefix_perform_params (run s steps) step).length_le
  have hnum := run_numbered hs steps (fun t ht => hp t (List.mem_append_left _ ht)) (by omega)
  exact perform_bound hnum (hp step (by simp)) hlen

/-- A filter and then a page on a statement that has a parameter already. -/
theorem run_binds_filter_page :
    let s : Statement := ⟨"SELECT * FROM sensors WHERE site=$1 ORDER BY id".toList, [.int 7]⟩
    let columns : Columns := ⟨[("name".toList, "name".toList)], []⟩
    let group : FilterGroup := ⟨[⟨"name".toList, .like, "a_b".toList, .string⟩], none, .ascending⟩
    let filtered := run s [.filter group columns]
    let paged := run s [.filter group columns, .paginate ⟨0, 10, 0⟩]
    Bound filtered (.paginate ⟨0, 10, 0⟩) paged ∧
      filtered = ⟨"SELECT * FROM sensors WHERE name ILIKE '%' || $2 || '%' ESCAPE '\\' AND site=$1 ORDER BY id".toList,
        [.int 7, .text "a\\_b".toList]⟩ ∧
      paged = ⟨filtered.sql ++ " LIMIT $3 OFFSET $4;".toList, filtered.params ++ [.int 10, .int 0]⟩ := by
  intro s columns group filtered paged
  have hs : s.Numbered := by decide +kernel
  have hcol : columns.All ('$' ∉ ·) := Columns.all_of_entries (by decide) (by decide)
  have hp : ∀ t ∈ [Step.filter group columns] ++ [.paginate ⟨0, 10, 0⟩], t.Plain := by
    simp only [List.cons_append, List.nil_append, List.forall_mem_cons]
    exact ⟨⟨by simp [group], hcol⟩, trivial, by simp⟩
  have hlen : (run s ([Step.filter group columns] ++ [.paginate ⟨0, 10, 0⟩])).params.length ≤ Placeholder.greatest := by
    decide +kernel
  exact ⟨run_binds hs [.filter group columns] (.paginate ⟨0, 10, 0⟩) hp hlen, by decide +kernel, by decide +kernel⟩

end SensorRegistry.Statement
