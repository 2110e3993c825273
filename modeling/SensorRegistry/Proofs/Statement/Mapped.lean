/-
The filters of a group that have a column. They alone decide what a group compiles to: the others leave no trace in
the text, in the parameters or in the problems, whatever their values and operations are. A group compiles exactly when
the value of each of these filters coerces and its operation has a meaning, and then the k-th of them gives the k-th
predicate and the k-th parameter.
-/
import SensorRegistry.Proofs.Statement.Apply

namespace SensorRegistry

/-- The group with those filters only whose field has a column. -/
def FilterGroup.withColumns (group : FilterGroup) (columns : Columns) : FilterGroup :=
  { group with filters := group.filters.filter fun f => (columns.filterColumn? f.field).isSome }

theorem FilterGroup.mem_withColumns {group : FilterGroup} {columns : Columns} {f : Filter} :
    f ∈ (group.withColumns columns).filters ↔ f ∈ group.filters ∧ (columns.filterColumn? f.field).isSome = true :=
  List.mem_filter

namespace Condition

/-! ## Mapped filters -/

theorem mapped_withColumns (columns : Columns) (group : FilterGroup) :
    mapped columns (group.withColumns columns) = mapped columns group := by
  unfold mapped FilterGroup.withColumns
  rw [List.filterMap_filter]
  refine congrArg (List.filterMap · group.filters) (funext fun f => ?_)
  cases columns.filterColumn? f.field <;> rfl

theorem map_mapped (columns : Columns) (group : FilterGroup) :
    (mapped columns group).map (·.2) = (group.withColumns columns).filters := by
  unfold mapped FilterGroup.withColumns
  induction group.filters with
  | nil => rfl
  | cons f fs ih =>
    cases hcolumn : columns.filterColumn? f.field with
    | none => simpa [hcolumn] using ih
    | some column => simpa [hcolumn] using ih

/-- The mapped filters with their columns, by position. -/
theorem getElem?_mapped_iff {columns : Columns} {group : FilterGroup} {k : Nat} {column : Text} {f : Filter} :
    (mapped columns group)[k]? = some (column, f) ↔
      (group.withColumns columns).filters[k]? = some f ∧ columns.filterColumn? f.field = some column := by
  rw [← map_mapped, List.getElem?_map, Option.map_eq_some_iff]
  constructor
  · intro h
    exact ⟨⟨_, h, rfl⟩, (mem_mapped_iff.1 (List.mem_of_getElem? h)).2⟩
  · rintro ⟨⟨⟨column', f'⟩, h, rfl⟩, hcolumn⟩
    have hcolumn' := (mem_mapped_iff.1 (List.mem_of_getElem? h)).2
    dsimp only at hcolumn hcolumn'
    rw [hcolumn] at hcolumn'
    cases hcolumn'
    exact h

/-! ## Terms by position -/

theorem rendered_of_getElem? {ms : List (Text × Filter)} {last : Nat} {ts : List (Text × Param)}
    (hlen : ts.length = ms.length)
    (h : ∀ k column f, ms[k]? = some (column, f) → ∃ sql p, ts[k]? = some (sql, p) ∧ f.coerce = .ok p ∧
      predicate? column f.operation (last + k + 1) = some sql) : Rendered last ms ts := by
  induction ms generalizing last ts with
  | nil =>
    rw [List.length_eq_zero_iff.1 hlen]
    exact .nil
  | cons m ms ih =>
    obtain ⟨column, f⟩ := m
    obtain ⟨sql, p, hterm, hp, hsql⟩ := h 0 column f rfl
    cases ts with
    | nil => cases hterm
    | cons t ts =>
      cases hterm
      refine .cons hp hsql (ih (Nat.succ.inj hlen) fun k column' f' hk => ?_)
      have htail := h (k + 1) column' f' hk
      rwa [show last + (k + 1) + 1 = last + 1 + k + 1 by omega] at htail

/-- A group compiles exactly when its filters that have a column give one predicate and one parameter each, in order:
the k-th predicate compares the k-th column with the k-th placeholder behind `last`, and the k-th parameter is the
k-th value. -/
theorem ofGroup_eq_ok_iff_getElem? {columns : Columns} {group : FilterGroup} {last : Nat} {c : Condition} :
    ofGroup columns group last = .ok c ↔
      ∃ predicates, c.sql = Text.join " AND " predicates ∧
        predicates.length = (group.withColumns columns).filters.length ∧
        c.params.length = (group.withColumns columns).filters.length ∧
        ∀ k f, (group.withColumns columns).filters[k]? = some f → ∃ column sql p,
          columns.filterColumn? f.field = some column ∧ predicates[k]? = some sql ∧
            predicate? column f.operation (last + (k + 1)) = some sql ∧ c.params[k]? = some p ∧ f.coerce = .ok p := by
  have hsize : (group.withColumns columns).filters.length = (mapped columns group).length := by
    rw [← map_mapped, List.length_map]
  rw [ofGroup_eq_ok_iff, hsize]
  constructor
  · rintro ⟨ts, hts, rfl⟩
    refine ⟨ts.map (·.1), rfl, by rw [List.length_map, hts.length_eq], by rw [List.length_map, hts.length_eq],
      fun k f hk => ?_⟩
    obtain ⟨column, hcolumn⟩ := Option.isSome_iff_exists.1
      (FilterGroup.mem_withColumns.1 (List.mem_of_getElem? hk)).2
    obtain ⟨sql, p, hterm, hp, hsql⟩ := hts.get (getElem?_mapped_iff.2 ⟨hk, hcolumn⟩)
    exact ⟨column, sql, p, hcolumn, by rw [List.getElem?_map, hterm]; rfl, hsql,
      by rw [List.getElem?_map, hterm]; rfl, hp⟩
  · rintro ⟨predicates, hjoin, hpredicates, hparams, hterms⟩
    have hlen : predicates.length = c.params.length := hpredicates.trans hparams.symm
    refine ⟨predicates.zip c.params, rendered_of_getElem? ?_ fun k column f hk => ?_, ?_⟩
    · rw [List.length_zip, hlen, Nat.min_self, hparams]
    · obtain ⟨hf, hcolumn⟩ := getElem?_mapped_iff.1 hk
      obtain ⟨column', sql, p, hcolumn', hpredicate, hsql, hparam, hp⟩ := hterms k f hf
      rw [hcolumn] at hcolumn'
      cases hcolumn'
      exact ⟨sql, p, List.getElem?_zip_eq_some.2 ⟨hpredicate, hparam⟩, hp, hsql⟩
    · rw [List.map_fst_zip (by omega), List.map_snd_zip (by omega), ← hjoin]

end Condition

/-! ## Statements -/

namespace Statement

theorem applyFilter_withColumns (s : Statement) (group : FilterGroup) (columns : Columns) :
    s.applyFilter (group.withColumns columns) columns = s.applyFilter group columns := by
  have hgroup : ∀ last,
      Condition.ofGroup columns (group.withColumns columns) last = Condition.ofGroup columns group last := by
    intro last
    unfold Condition.ofGroup Condition.terms
    rw [Condition.mapped_withColumns]
  unfold applyFilter
  rw [hgroup]
  rfl

/-- Filters without a column leave no trace: applying a group gives the same result, a statement or a fault, as
applying those of its filters that have one. These compile exactly when each value coerces and each operation has a
meaning, and then the k-th of them gives the k-th predicate, over the k-th placeholder behind `last`, and the k-th
parameter. -/
theorem applyFilter_ignores_unmapped (group : FilterGroup) (columns : Columns) :
    (∀ s : Statement, s.applyFilter (group.withColumns columns) columns = s.applyFilter group columns) ∧
    ∀ last c, Condition.ofGroup columns group last = .ok c ↔
      ∃ predicates, c.sql = Text.join " AND " predicates ∧
        predicates.length = (group.withColumns columns).filters.length ∧
        c.params.length = (group.withColumns columns).filters.length ∧
        ∀ k f, (group.withColumns columns).filters[k]? = some f → ∃ column sql p,
          columns.filterColumn? f.field = some column ∧ predicates[k]? = some sql ∧
            Condition.predicate? column f.operation (last + (k + 1)) = some sql ∧ c.params[k]? = some p ∧
            f.coerce = .ok p :=
  ⟨fun s => applyFilter_withColumns s group columns, fun _ _ => Condition.ofGroup_eq_ok_iff_getElem?⟩

/-- The filters without a column have a value that is no number and an operation without a meaning; they take no
placeholder and no parameter. -/
theorem applyFilter_ignores_unmapped_faulty :
    let columns : Columns := ⟨[("rate".toList, "rate".toList), ("name".toList, "alias".toList)], []⟩
    let group : FilterGroup := ⟨[⟨"tag".toList, .equals, "x".toList, .int⟩,
      ⟨"name".toList, .equals, "a".toList, .string⟩, ⟨"tag".toList, .unknown, "y".toList, .string⟩,
      ⟨"rate".toList, .greater, "5".toList, .int⟩], none, .ascending⟩
    let s : Statement := ⟨"SELECT id FROM t WHERE id=$3".toList, []⟩
    let c : Condition := ⟨"alias=$4 AND rate > $5".toList, [.text "a".toList, .int 5]⟩
    s.applyFilter (group.withColumns columns) columns =
      .ok ⟨"SELECT id FROM t WHERE alias=$4 AND rate > $5 AND id=$3".toList, c.params⟩ ∧
    Condition.ofGroup columns group 3 = .ok c ∧
    ∃ predicates, c.sql = Text.join " AND " predicates ∧ predicates[1]? = some "rate > $5".toList := by
  intro columns group s c
  have happlied : s.applyFilter group columns =
      .ok ⟨"SELECT id FROM t WHERE alias=$4 AND rate > $5 AND id=$3".toList, c.params⟩ := by decide +kernel
  have hc : Condition.ofGroup columns group 3 = .ok c := by decide +kernel
  have hlast : (group.withColumns columns).filters[1]? = some ⟨"rate".toList, .greater, "5".toList, .int⟩ := by
    decide +kernel
  have hcolumn : columns.filterColumn? "rate".toList = some "rate".toList := by decide +kernel
  obtain ⟨hsame, hcompiled⟩ := applyFilter_ignores_unmapped group columns
  obtain ⟨predicates, hjoin, -, -, hterms⟩ := (hcompiled 3 c).1 hc
  obtain ⟨column, sql, p, hcolumn', hpredicate, hsql, -⟩ := hterms 1 _ hlast
  cases hcolumn.symm.trans hcolumn'
  cases hsql
  exact ⟨(hsame s).trans happlied, hc, predicates, hjoin, hpredicate⟩

end Statement

end SensorRegistry
