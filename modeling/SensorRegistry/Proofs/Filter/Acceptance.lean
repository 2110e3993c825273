/-
What a whitelist lets through. A query string is accepted when each filter token reads as a filter and
the order parameters have no problem; the group holds these filters, one a token, and this order. Each
filter is as the whitelist declares its field, which is all that compiling it relies on.
-/
import SensorRegistry.Filter.Whitelist
import SensorRegistry.Proofs.Sql.Condition

namespace SensorRegistry

/-! ## Parts of a request -/

theorem OrderRequest.field_ne_nil {query field : Text} (h : field? query = some field) : field ≠ [] := by
  unfold field? at h
  dsimp only at h
  split at h
  · cases h
  · rename_i hne
    obtain rfl := Option.some.inj h
    rintro hnil
    exact hne (List.isEmpty_iff.2 hnil)

namespace Whitelist

theorem mem_fields {w : Whitelist} {field : Text} {t : ValueType} (h : w.type? field = some t) :
    (field, t) ∈ w.fields := by
  obtain ⟨l₁, l₂, hl, -⟩ := List.lookup_eq_some_iff.1 h
  rw [hl]
  simp

/-- A token reads as a filter exactly when its three parts name a declared field, an operation with a
meaning that the field's type allows, and a value that decodes. -/
theorem readToken_eq_ok_iff {w : Whitelist} {token : Text} {f : Filter} :
    w.readToken token = .ok f ↔
      ∃ operation raw, token.splitOn ':' = [f.field, operation, raw] ∧ QueryString.decodeValue? raw = some f.value ∧
        w.type? f.field = some f.valueType ∧ f.operation = Operation.ofToken operation ∧
        f.operation.allows f.valueType = true := by
  unfold readToken
  constructor
  · intro h
    split at h
    · rename_i field operation raw htoken
      split at h
      · cases h
      · rename_i value hvalue
        split at h
        · cases h
        · rename_i valueType htype
          dsimp only at h
          split at h
          · cases h
          · split at h
            · rename_i hallows
              cases h
              exact ⟨operation, raw, htoken, hvalue, htype, rfl, hallows⟩
            · cases h
    · cases h
  · rintro ⟨operation, raw, htoken, hvalue, htype, hop, hallows⟩
    have hknown : f.operation ≠ .unknown := by
      intro hu
      rw [hu] at hallows
      cases hallows
    simp [htoken, hvalue, htype, ← hop, hknown, hallows]

/-! ## Groups -/

/-- A query string is accepted exactly when every token reads as a filter and the order has no problem;
then the group is these filters with this order. -/
theorem parse_eq_ok_iff {w : Whitelist} {query : Option Text} {group : FilterGroup} :
    w.parse query = .ok group ↔
      w.outcomes (query.getD []) = group.filters.map .ok ∧
        (OrderRequest.read w.orderable (query.getD [])).2 = [] ∧
        (OrderRequest.read w.orderable (query.getD [])).1 = ⟨group.order, group.direction⟩ := by
  have hmake : ∀ fs,
      FilterGroup.make fs (OrderRequest.field? (query.getD [])) (OrderRequest.direction? (query.getD [])) =
        ⟨fs, OrderRequest.field? (query.getD []), OrderRequest.direction? (query.getD [])⟩ := by
    intro fs
    unfold FilterGroup.make
    cases hf : OrderRequest.field? (query.getD []) with
    | none => rfl
    | some field =>
      have hne := OrderRequest.field_ne_nil hf
      simp [hne]
  unfold parse problems
  rw [Problem.check_eq_ok_iff, List.append_eq_nil_iff, Outcomes.failures_eq_nil_iff]
  unfold OrderRequest.read
  dsimp only
  rw [hmake]
  constructor
  · rintro ⟨⟨⟨fs, hfs⟩, horder⟩, rfl⟩
    rw [hfs, Outcomes.values_map_ok]
    exact ⟨rfl, horder, rfl⟩
  · rintro ⟨hfs, horder, heq⟩
    refine ⟨⟨⟨_, hfs⟩, horder⟩, ?_⟩
    obtain ⟨hfield, hdirection⟩ := OrderRequest.mk.inj heq
    rw [hfs, Outcomes.values_map_ok, hfield, hdirection]

/-- The group is as the whitelist declares it: every filter has a declared field, the type of that field
and an operation that goes with this type, and the order is by an orderable field. -/
structure Admits (w : Whitelist) (group : FilterGroup) : Prop where
  declared : ∀ f ∈ group.filters, w.type? f.field = some f.valueType
  allowed : ∀ f ∈ group.filters, f.operation.allows f.valueType = true
  orderable : ∀ field ∈ group.order, field ∈ w.orderable

theorem Admits.known {w : Whitelist} {group : FilterGroup} (h : w.Admits group) :
    ∀ f ∈ group.filters, f.operation ≠ .unknown := by
  intro f hf hunknown
  have := h.allowed f hf
  rw [hunknown] at this
  cases this

theorem parse_admits {w : Whitelist} {query : Option Text} {group : FilterGroup} (h : w.parse query = .ok group) :
    w.Admits group := by
  obtain ⟨hfilters, hproblems, horder⟩ := parse_eq_ok_iff.1 h
  have hread : ∀ f ∈ group.filters, ∃ token, w.readToken token = .ok f := by
    intro f hf
    have hmem : (.ok f : Except Problem Filter) ∈ w.outcomes (query.getD []) := by
      rw [hfilters]
      exact List.mem_map_of_mem hf
    obtain ⟨token, -, htoken⟩ := List.mem_map.1 hmem
    exact ⟨token, htoken⟩
  refine ⟨fun f hf => ?_, fun f hf => ?_, fun field hfield => ?_⟩
  · obtain ⟨token, htoken⟩ := hread f hf
    obtain ⟨-, -, -, -, htype, -⟩ := readToken_eq_ok_iff.1 htoken
    exact htype
  · obtain ⟨token, htoken⟩ := hread f hf
    obtain ⟨-, -, -, -, -, -, hallows⟩ := readToken_eq_ok_iff.1 htoken
    exact hallows
  · have hnone : OrderRequest.fieldProblem? w.orderable (query.getD []) = none :=
      Option.toList_eq_nil_iff.1 (List.append_eq_nil_iff.1 hproblems).1
    have hnamed : OrderRequest.field? (query.getD []) = some field :=
      (congrArg OrderRequest.field horder).trans hfield
    unfold OrderRequest.fieldProblem? at hnone
    rw [hnamed] at hnone
    by_contra hout
    simp [hout] at hnone

/-- One filter a token, none dropped. -/
theorem parse_length {w : Whitelist} {query : Option Text} {group : FilterGroup} (h : w.parse query = .ok group) :
    group.filters.length = (tokens (query.getD [])).length := by
  obtain ⟨hfilters, -, -⟩ := parse_eq_ok_iff.1 h
  have := congrArg List.length hfilters
  rw [outcomes, List.length_map, List.length_map] at this
  exact this.symm

end Whitelist

end SensorRegistry
