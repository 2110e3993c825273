/-
Well-typed conditions. A filter that a whitelist lets through compares its column with a parameter of
the kind that the comparison takes, and the only thing that can still go wrong is a value that does not
read as a number or a truth value. Both are facts about one filter, by cases on its declared type and
its operation; rendering carries them to each placeholder of a condition.
-/
import SensorRegistry.Proofs.Filter.Acceptance

namespace SensorRegistry

/-- The type whose values are bound as the parameter is. -/
def Param.kind : Param → ValueType
  | .int _ => .int
  | .float _ => .float
  | .bool _ => .bool
  | .text _ => .string
  | .textArray _ => .stringList

/-- What a comparison can be bound to, given the declared type of its field: membership takes a list of
texts, matching a text, order a number, and equality whatever the field holds. -/
def Operation.Takes (declared : ValueType) (p : Param) : Operation → Prop
  | .oneOf => p.kind = .stringList
  | .like => p.kind = .string
  | .greater | .greaterOrEqual | .lower | .lowerOrEqual => p.kind = .int ∨ p.kind = .float
  | .equals | .notEquals => p.kind = declared
  | .unknown => False

/-! ## One filter -/

namespace Filter

theorem kind_of_coerce {f : Filter} {p : Param} (h : f.coerce = .ok p) :
    p.kind = if f.valueType = .string ∧ f.operation = .oneOf then .stringList else f.valueType := by
  unfold coerce at h
  cases htype : f.valueType <;> rw [htype] at h <;> dsimp only at h
  case string => cases hop : f.operation <;> (rw [hop] at h; cases h; rfl)
  case stringList => cases h; rfl
  all_goals
    split at h <;> cases h
    rfl

/-- An allowed operation takes the parameter that its filter's value becomes. -/
theorem takes_of_coerce {f : Filter} {p : Param} (hallowed : f.operation.allows f.valueType = true)
    (h : f.coerce = .ok p) : f.operation.Takes f.valueType p := by
  have hkind := kind_of_coerce h
  -- membership and matching are allowed for texts only, order for numbers only
  cases hop : f.operation <;> rw [hop] at hallowed hkind
  case equals | notEquals => simpa [Operation.Takes] using hkind
  case oneOf =>
    have htype : f.valueType = .string := by simpa [Operation.allows] using hallowed
    simpa [Operation.Takes, htype] using hkind
  case like =>
    have htype : f.valueType = .string := by simpa [Operation.allows] using hallowed
    simpa [Operation.Takes, htype] using hkind
  case greater | greaterOrEqual | lower | lowerOrEqual =>
    cases htype : f.valueType <;> rw [htype] at hallowed hkind
    case int => exact .inl hkind
    case float => exact .inr hkind
    all_goals cases hallowed
  case unknown => cases hallowed

/-- Texts always coerce; what does not is reported with its value and its declared type. -/
theorem coerce_eq_error {f : Filter} {p : Problem} (h : f.coerce = .error p) :
    f.valueType ∈ [ValueType.int, .float, .bool] ∧ p = .coercion f.value f.valueType.name := by
  unfold coerce at h
  cases htype : f.valueType <;> rw [htype] at h <;> dsimp only at h
  case string | stringList => cases h
  all_goals
    refine ⟨by decide, ?_⟩
    split at h
    · cases h
    · cases h
      rfl

end Filter

/-! ## Conditions -/

/-- What the whitelist accepts compiles to well-typed conditions, whatever columns the query maps and
however many placeholders it has. The group is as the whitelist declares it. Compiling it fails only on
the values of number and truth fields. Otherwise there is one predicate and one parameter for each mapped
filter, in order, and each predicate is bound at its own placeholder to a parameter that it takes. -/
theorem Whitelist.parse_compiles_typed {w : Whitelist} {query : Option Text} {group : FilterGroup}
    (h : w.parse query = .ok group) (columns : Columns) (last : Nat) :
    ((∀ f ∈ group.filters, w.type? f.field = some f.valueType ∧ f.operation.allows f.valueType = true) ∧
      ∀ field ∈ group.order, field ∈ w.orderable) ∧
    (∀ problems, Condition.ofGroup columns group last = .error problems →
      ∀ p ∈ problems, ∃ f ∈ group.filters, f.valueType ∈ [ValueType.int, .float, .bool] ∧
        p = .coercion f.value f.valueType.name) ∧
    ∀ c, Condition.ofGroup columns group last = .ok c →
      ∃ predicates, c.sql = Text.join " AND " predicates ∧
        predicates.length = (Condition.mapped columns group).length ∧
        c.params.length = (Condition.mapped columns group).length ∧
        ∀ i column f, (Condition.mapped columns group)[i]? = some (column, f) →
          ∃ sql p, predicates[i]? = some sql ∧ Condition.predicate? column f.operation (last + i + 1) = some sql ∧
            c.params[i]? = some p ∧ f.coerce = .ok p ∧ f.operation.Takes f.valueType p := by
  have hadmits := parse_admits h
  refine ⟨⟨fun f hf => ⟨hadmits.declared f hf, hadmits.allowed f hf⟩, hadmits.orderable⟩, ?_, ?_⟩
  · intro problems hproblems p hp
    obtain ⟨-, hmapped⟩ := Condition.problems_of_ofGroup hadmits.known hproblems
    obtain ⟨m, hm, hcoerce⟩ := hmapped p hp
    exact ⟨m.2, (Condition.mem_mapped_iff.1 hm).1, Filter.coerce_eq_error hcoerce⟩
  · intro c hc
    obtain ⟨ts, hts, rfl⟩ := Condition.ofGroup_eq_ok_iff.1 hc
    refine ⟨_, rfl, by rw [List.length_map, hts.length_eq], by rw [List.length_map, hts.length_eq], ?_⟩
    intro i column f hi
    obtain ⟨sql, p, ht, hp, hsql⟩ := hts.get hi
    have hf : f ∈ group.filters := (Condition.mem_mapped_iff.1 (List.mem_of_getElem? hi)).1
    exact ⟨sql, p, by rw [List.getElem?_map, ht]; rfl, hsql, by rw [List.getElem?_map, ht]; rfl, hp,
      Filter.takes_of_coerce (hadmits.allowed f hf) hp⟩

/-- The first filter has no column and takes no placeholder, so the number of the third is bound behind
the list of the second. -/
theorem Whitelist.parse_compiles_typed_unmapped_field :
    let w := ((empty.filter "tag".toList .string).filter "name".toList .string).filter "rate".toList .int
    let query := "filters=tag:eq:x&filters=name:in:a,b&filters=rate:ge:5".toList
    let columns : Columns := ⟨[("name".toList, "alias".toList), ("rate".toList, "rate".toList)], []⟩
    ∃ group c p, w.parse (some query) = .ok group ∧ Condition.ofGroup columns group 3 = .ok c ∧
      c.sql = "alias = ANY($4) AND rate >= $5".toList ∧ c.params[1]? = some p ∧
      Operation.greaterOrEqual.Takes .int p := by
  intro w query columns
  let third : Filter := ⟨"rate".toList, .greaterOrEqual, "5".toList, .int⟩
  let group : FilterGroup := ⟨[⟨"tag".toList, .equals, "x".toList, .string⟩,
    ⟨"name".toList, .oneOf, "a,b".toList, .string⟩, third], none, .ascending⟩
  let c : Condition := ⟨"alias = ANY($4) AND rate >= $5".toList, [.textArray ["a".toList, "b".toList], .int 5]⟩
  have hparse : w.parse (some query) = .ok group := by decide +kernel
  have hc : Condition.ofGroup columns group 3 = .ok c := by decide +kernel
  have hmapped : (Condition.mapped columns group)[1]? = some ("rate".toList, third) := by decide +kernel
  obtain ⟨-, -, hcompiled⟩ := parse_compiles_typed hparse columns 3
  obtain ⟨predicates, -, -, -, hterms⟩ := hcompiled c hc
  obtain ⟨sql, p, -, -, hp, -, htakes⟩ := hterms 1 _ _ hmapped
  exact ⟨group, c, p, hparse, hc, rfl, hp, htakes⟩

end SensorRegistry
