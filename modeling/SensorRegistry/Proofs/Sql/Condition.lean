/-
What a filter group compiles to. A condition is compiled exactly when every mapped filter renders:
its value coerces and its operation has a meaning. Then the terms stand in filter order, numbered
without a gap after the given index, each beside the parameter of its own placeholder. Otherwise there
is one problem for each filter that does not render.
-/
import SensorRegistry.Sql.Where
import SensorRegistry.Proofs.Sql.Placeholder

namespace SensorRegistry

/-! ## Outcomes -/

theorem Outcomes.values_map_ok {ε α : Type} (vs : List α) : values (vs.map (.ok : α → Except ε α)) = vs := by
  induction vs with
  | nil => rfl
  | cons v vs ih => exact congrArg (v :: ·) ih

theorem Outcomes.failures_eq_nil_iff {ε α : Type} {os : List (Except ε α)} :
    failures os = [] ↔ ∃ vs : List α, os = vs.map .ok := by
  constructor
  · intro h
    induction os with
    | nil => exact ⟨[], rfl⟩
    | cons o os ih =>
      cases o with
      | error e => cases h
      | ok v =>
        obtain ⟨vs, rfl⟩ := ih h
        exact ⟨v :: vs, rfl⟩
  · rintro ⟨vs, rfl⟩
    induction vs with
    | nil => rfl
    | cons v vs ih => exact ih

theorem Outcomes.mem_failures {ε α : Type} {os : List (Except ε α)} {e : ε} : e ∈ failures os ↔ .error e ∈ os := by
  unfold failures
  rw [List.mem_filterMap]
  constructor
  · rintro ⟨o, ho, he⟩
    cases o with
    | error e' => cases he; exact ho
    | ok v => cases he
  · exact fun h => ⟨_, h, rfl⟩

theorem Problem.check_eq_ok_iff {α : Type} {problems : List Problem} {a b : α} :
    check problems a = .ok b ↔ problems = [] ∧ a = b := by
  cases problems with
  | nil => simp [check]
  | cons p ps => simp [check]

theorem Problem.check_eq_error_iff {α : Type} {problems ps : List Problem} {a : α} :
    check problems a = .error ps ↔ problems ≠ [] ∧ problems = ps := by
  cases problems with
  | nil => simp [check]
  | cons p problems => simp [check]

/-! ## Terms -/

/-- What is reported of a filter. A value that does not fit comes before an operation without a meaning. -/
def Filter.problem? (f : Filter) : Option Problem :=
  match f.coerce with
  | .error problem => some problem
  | .ok _ => if f.operation = .unknown then some (.unknownOperation f.operation.token Operation.tokens) else none

theorem Filter.problem?_of_known {f : Filter} {p : Problem} (hknown : f.operation ≠ .unknown) :
    f.problem? = some p ↔ f.coerce = .error p := by
  unfold problem?
  cases f.coerce <;> simp [hknown]

namespace Condition

theorem predicate?_eq_none_iff {column : Text} {op : Operation} {n : Nat} :
    predicate? column op n = none ↔ op = .unknown := by
  cases op <;> simp [predicate?]

theorem term_eq_ok_iff {column sql : Text} {f : Filter} {n : Nat} {p : Param} :
    term column f n = .ok (sql, p) ↔ f.coerce = .ok p ∧ predicate? column f.operation n = some sql := by
  unfold term
  cases f.coerce with
  | error e => simp
  | ok q => cases predicate? column f.operation n <;> simp [and_comm]

theorem term_eq_error_iff {column : Text} {f : Filter} {n : Nat} {problem : Problem} :
    term column f n = .error problem ↔ f.problem? = some problem := by
  unfold term Filter.problem?
  cases f.coerce with
  | error e => simp
  | ok p =>
    cases hsql : predicate? column f.operation n with
    | none => simp [predicate?_eq_none_iff.1 hsql]
    | some sql =>
      have hop : f.operation ≠ .unknown := fun h => by
        rw [predicate?_eq_none_iff.2 h] at hsql
        cases hsql
      simp [hop]

/-- The mapped filters render, with placeholders numbered after `last`, to these predicates and
parameters. -/
inductive Rendered : Nat → List (Text × Filter) → List (Text × Param) → Prop
  | nil {last : Nat} : Rendered last [] []
  | cons {last : Nat} {column sql : Text} {f : Filter} {p : Param} {ms : List (Text × Filter)}
      {ts : List (Text × Param)} : f.coerce = .ok p → predicate? column f.operation (last + 1) = some sql →
      Rendered (last + 1) ms ts → Rendered last ((column, f) :: ms) ((sql, p) :: ts)

theorem rendered_iff {ms : List (Text × Filter)} {last : Nat} {ts : List (Text × Param)} :
    Rendered last ms ts ↔ ms.mapIdx (fun i (column, f) => term column f (last + i + 1)) = ts.map .ok := by
  induction ms generalizing last ts with
  | nil =>
    rw [List.mapIdx_nil]
    constructor
    · rintro ⟨⟩; rfl
    · intro h
      rw [List.map_eq_nil_iff.1 h.symm]
      exact .nil
  | cons m ms ih =>
    obtain ⟨column, f⟩ := m
    have hshift : ms.mapIdx (fun i (m : Text × Filter) => term m.1 m.2 (last + (i + 1) + 1)) =
        ms.mapIdx (fun i (m : Text × Filter) => term m.1 m.2 (last + 1 + i + 1)) := by
      congr 1
      funext i m
      rw [Nat.add_right_comm last 1 i, Nat.add_assoc last i 1]
    rw [List.mapIdx_cons]
    constructor
    · rintro ⟨⟩
      rename_i sql p ts hp hsql h
      rw [List.map_cons, ← ih.1 h]
      exact congrArg₂ _ (term_eq_ok_iff.2 ⟨hp, hsql⟩) hshift
    · intro h
      cases ts with
      | nil => cases h
      | cons t ts =>
        obtain ⟨sql, p⟩ := t
        obtain ⟨ht, hts⟩ := List.cons.inj h
        obtain ⟨hp, hsql⟩ := term_eq_ok_iff.1 ht
        exact .cons hp hsql (ih.2 (hshift.symm.trans hts))

/-- A group compiles exactly when its mapped filters render, to the conjunction of the predicates
with their parameters. -/
theorem ofGroup_eq_ok_iff {columns : Columns} {group : FilterGroup} {last : Nat} {c : Condition} :
    ofGroup columns group last = .ok c ↔
      ∃ ts, Rendered last (mapped columns group) ts ∧ c = ⟨Text.join " AND " (ts.map (·.1)), ts.map (·.2)⟩ := by
  unfold ofGroup
  rw [Problem.check_eq_ok_iff, Outcomes.failures_eq_nil_iff]
  constructor
  · rintro ⟨⟨ts, hts⟩, rfl⟩
    refine ⟨ts, rendered_iff.2 hts, ?_⟩
    rw [hts, Outcomes.values_map_ok]
  · rintro ⟨ts, hts, rfl⟩
    have h : terms columns group last = ts.map .ok := rendered_iff.1 hts
    refine ⟨⟨ts, h⟩, ?_⟩
    rw [h, Outcomes.values_map_ok]

/-! ## Problems -/

theorem mem_mapped_iff {columns : Columns} {group : FilterGroup} {m : Text × Filter} :
    m ∈ mapped columns group ↔ m.2 ∈ group.filters ∧ columns.filterColumn? m.2.field = some m.1 := by
  obtain ⟨column, f⟩ := m
  unfold mapped
  rw [List.mem_filterMap]
  constructor
  · rintro ⟨g, hg, hm⟩
    obtain ⟨d, hd, heq⟩ := Option.map_eq_some_iff.1 hm
    cases heq
    exact ⟨hg, hd⟩
  · rintro ⟨hf, hcolumn⟩
    exact ⟨f, hf, by rw [hcolumn]; rfl⟩

/-- Which numbers the terms get does not matter for what fails. -/
theorem failures_mapIdx_term (ms : List (Text × Filter)) (number : Nat → Nat) :
    Outcomes.failures (ms.mapIdx fun i m => term m.1 m.2 (number i)) = ms.filterMap (·.2.problem?) := by
  induction ms generalizing number with
  | nil => rfl
  | cons m ms ih =>
    have htail := ih fun i => number (i + 1)
    rw [List.mapIdx_cons, List.filterMap_cons]
    cases hterm : term m.1 m.2 (number 0) with
    | error problem =>
      rw [term_eq_error_iff.1 hterm, ← htail]
      rfl
    | ok t =>
      have hnone : m.2.problem? = none := Option.eq_none_iff_forall_ne_some.2 fun problem h => by
        rw [term_eq_error_iff.2 h] at hterm
        cases hterm
      rw [hnone, ← htail]
      rfl

/-- A group that does not compile reports one problem for each mapped filter that has one, in order. -/
theorem ofGroup_eq_error_iff {columns : Columns} {group : FilterGroup} {last : Nat} {problems : List Problem} :
    ofGroup columns group last = .error problems ↔
      problems ≠ [] ∧ problems = (mapped columns group).filterMap (·.2.problem?) := by
  have hfailures : Outcomes.failures (terms columns group last) = (mapped columns group).filterMap (·.2.problem?) :=
    failures_mapIdx_term (mapped columns group) fun i => last + i + 1
  unfold ofGroup
  rw [Problem.check_eq_error_iff, hfailures]
  constructor
  · rintro ⟨hne, rfl⟩
    exact ⟨hne, rfl⟩
  · rintro ⟨hne, rfl⟩
    exact ⟨hne, rfl⟩

/-- A group whose operations all have a meaning fails only on values that do not fit, one problem for
each of them. -/
theorem problems_of_ofGroup {columns : Columns} {group : FilterGroup} {last : Nat} {problems : List Problem}
    (hknown : ∀ f ∈ group.filters, f.operation ≠ .unknown) (h : ofGroup columns group last = .error problems) :
    problems ≠ [] ∧ ∀ p ∈ problems, ∃ m ∈ mapped columns group, m.2.coerce = .error p := by
  obtain ⟨hne, rfl⟩ := ofGroup_eq_error_iff.1 h
  refine ⟨hne, fun p hp => ?_⟩
  obtain ⟨m, hm, hproblem⟩ := List.mem_filterMap.1 hp
  exact ⟨m, hm, (Filter.problem?_of_known (hknown _ (mem_mapped_iff.1 hm).1)).1 hproblem⟩

/-! ## Rendered terms -/

theorem Rendered.length_eq {last : Nat} {ms : List (Text × Filter)} {ts : List (Text × Param)}
    (h : Rendered last ms ts) : ts.length = ms.length := by
  induction h with
  | nil => rfl
  | cons _ _ _ ih => rw [List.length_cons, List.length_cons, ih]

/-- The term at a position is that of the filter at this position, with its own placeholder. -/
theorem Rendered.get {last : Nat} {ms : List (Text × Filter)} {ts : List (Text × Param)}
    (h : Rendered last ms ts) : ∀ {i : Nat} {column : Text} {f : Filter}, ms[i]? = some (column, f) →
      ∃ sql p, ts[i]? = some (sql, p) ∧ f.coerce = .ok p ∧ predicate? column f.operation (last + i + 1) = some sql := by
  induction h with
  | nil => intro i column f hi; cases hi
  | @cons last column sql f p ms ts hp hsql _ ih =>
    intro i column' f' hi
    cases i with
    | zero =>
      cases hi
      exact ⟨sql, p, rfl, hp, hsql⟩
    | succ i =>
      obtain ⟨sql', p', ht, hp', hsql'⟩ := ih hi
      refine ⟨sql', p', ht, hp', ?_⟩
      rwa [show last + (i + 1) + 1 = last + 1 + i + 1 by omega]

theorem Rendered.exists_predicate {last : Nat} {ms : List (Text × Filter)} {ts : List (Text × Param)}
    (h : Rendered last ms ts) {sql : Text} (hs : sql ∈ ts.map (·.1)) :
    ∃ m ∈ ms, ∃ n, predicate? m.1 m.2.operation n = some sql := by
  induction h with
  | nil => cases hs
  | cons _ hsql _ ih =>
    rcases List.mem_cons.1 hs with rfl | hs
    · exact ⟨_, List.mem_cons_self, _, hsql⟩
    · obtain ⟨m, hm, hn⟩ := ih hs
      exact ⟨m, List.mem_cons_of_mem _ hm, hn⟩

theorem predicate?_ne_nil {column sql : Text} {op : Operation} {n : Nat} (h : predicate? column op n = some sql) :
    sql ≠ [] := by
  cases op <;> cases h <;> simp

theorem Rendered.join_eq_nil_iff {last : Nat} {ms : List (Text × Filter)} {ts : List (Text × Param)}
    (h : Rendered last ms ts) : Text.join " AND " (ts.map (·.1)) = [] ↔ ms = [] := by
  constructor
  · intro hnil
    by_contra hne
    refine Text.join_ne_nil " AND " (fun hts => hne ?_) (fun sql hsql => ?_) hnil
    · rw [← List.length_eq_zero_iff, ← h.length_eq, ← List.length_map, hts, List.length_nil]
    · obtain ⟨m, -, n, hn⟩ := h.exists_predicate hsql
      exact predicate?_ne_nil hn
  · rintro rfl
    cases h
    rfl

/-- The predicates depend on the columns and the operations alone. -/
theorem Rendered.predicates_eq {last : Nat} {ms ns : List (Text × Filter)} {ts us : List (Text × Param)}
    (h : Rendered last ms ts) (h' : Rendered last ns us)
    (hm : List.Forall₂ (fun m n => m.1 = n.1 ∧ m.2.operation = n.2.operation) ms ns) :
    ts.map (·.1) = us.map (·.1) := by
  induction h generalizing ns us with
  | nil => cases hm; cases h'; rfl
  | cons hp hsql _ ih =>
    cases hm with
    | cons hmn hm =>
      cases h' with
      | cons hp' hsql' h' =>
        obtain ⟨rfl, hop⟩ := hmn
        rw [hop, hsql'] at hsql
        cases hsql
        rw [List.map_cons, List.map_cons, ih h' hm]

/-! ## Placeholders of a condition -/

/-- A predicate over a column without `$` has exactly the placeholder that it is given. -/
theorem predicate?_runs {column sql : Text} {op : Operation} {n : Nat} (hcol : '$' ∉ column)
    (h : predicate? column op n = some sql) : Placeholder.runs sql = [Text.ofNat n] := by
  have around : ∀ {a b : Text}, '$' ∉ a → '$' ∉ b → (∀ c ∈ b.head?, c.isDigit = false) →
      Placeholder.runs (a ++ Placeholder.write n ++ b) = [Text.ofNat n] :=
    fun ha hb hd => Placeholder.runs_around ha hb hd n
  have compare : ∀ {mark : Text}, '$' ∉ mark →
      Placeholder.runs (column ++ mark ++ Placeholder.write n) = [Text.ofNat n] :=
    fun hm => by simpa using around (b := []) (List.not_mem_append hcol hm) (by simp) (by simp)
  cases op <;> cases h
  case equals => exact compare (by decide)
  case notEquals =>
    have := around (a := "(NOT ".toList ++ column ++ "=".toList) (b := " OR ".toList ++ column ++ " IS NULL)".toList)
      (by simp [hcol]) (by simp [hcol]) (by simp)
    simpa using this
  case oneOf => exact around (List.not_mem_append hcol (by decide)) (by decide) (by simp)
  case like => exact around (List.not_mem_append hcol (by decide)) (by decide) (by simp)
  case greater => exact compare (by decide)
  case greaterOrEqual => exact compare (by decide)
  case lower => exact compare (by decide)
  case lowerOrEqual => exact compare (by decide)

/-- The placeholders of rendered terms over columns without `$` are fresh and consecutive. -/
theorem Rendered.runs {last : Nat} {ms : List (Text × Filter)} {ts : List (Text × Param)}
    (h : Rendered last ms ts) (hcol : ∀ m ∈ ms, '$' ∉ m.1) :
    Placeholder.runs (Text.join " AND " (ts.map (·.1))) = (List.range' (last + 1) ts.length).map Text.ofNat := by
  have hjoin := Text.flatMap_join (f := Placeholder.runs) " AND " rfl fun a b => by
    rw [show a ++ " AND ".toList ++ b = a ++ ' ' :: ("AND ".toList ++ b) by simp,
      Placeholder.runs_separated (by decide) (by decide)]
    rfl
  rw [hjoin]
  induction h with
  | nil => rfl
  | cons _ hsql _ ih =>
    rw [List.map_cons, List.flatMap_cons, ih fun m hm => hcol m (List.mem_cons_of_mem _ hm),
      predicate?_runs (hcol _ List.mem_cons_self) hsql]
    rfl

end Condition

end SensorRegistry
