/-
Headers whose names differ in case only. A header is found by its spelling, while registrations are found in lower case
and the last one of a name counts. So a name that is registered anew in another spelling, between two writes, gets a
second header beside the first. The headers of a run are one for each name exactly when all its writes of a name use one
spelling, and so it is where every name is registered in one spelling only.
-/
import SensorRegistry.Proofs.Scope.Run

namespace SensorRegistry.Scope

/-- No two headers have one name up to ASCII case. -/
def OnePerName (s : Scope) : Prop := s.headers.Pairwise fun a b => Text.sameIgnoringCase a.1 b.1 = false

instance (s : Scope) : Decidable s.OnePerName := inferInstanceAs (Decidable (List.Pairwise _ _))

/-- The texts have one spelling for each name. -/
def OneSpelling (names : List Text) : Prop :=
  ∀ x ∈ names, ∀ y ∈ names, Text.sameIgnoringCase x y = true → x = y

theorem sameIgnoringCase_comm (x y : Text) : Text.sameIgnoringCase x y = Text.sameIgnoringCase y x := Bool.beq_comm

theorem Lawful.onePerName_iff {s : Scope} (hs : s.Lawful) : s.OnePerName ↔ OneSpelling (Fields.names s.headers) := by
  have hmap : s.OnePerName ↔ (Fields.names s.headers).Pairwise fun x y => Text.sameIgnoringCase x y = false := by
    rw [OnePerName, Fields.names, List.pairwise_map]
  rw [hmap]
  constructor
  · intro h x hx y hy hsame
    have : Std.Symm fun x y => Text.sameIgnoringCase x y = false :=
      ⟨fun x y hxy => (sameIgnoringCase_comm y x).trans hxy⟩
    by_contra hne
    rw [h.forall hx hy hne] at hsame
    cases hsame
  · intro h
    exact hs.once.imp_of_mem fun hx hy hne => Bool.eq_false_iff.2 fun hsame => hne (h _ hx _ hy hsame)

/-- A spelling that a run writes is one that it registers. -/
theorem exists_register_of_mem_writes {steps : List Step} {x : Text} (hx : x ∈ writes empty steps) :
    ∃ name, .register name ∈ steps ∧ x = Text.trim name := by
  induction steps using List.reverseRecOn with
  | nil => cases hx
  | append_singleton steps step ih =>
    rw [writes_concat, List.mem_append, Option.mem_toList, Option.map_eq_some_iff] at hx
    have hregister : ∃ name, Step.register name ∈ steps ∧ x = Text.trim name := by
      rcases hx with hx | ⟨field, hfield, rfl⟩
      · exact ih hx
      · obtain ⟨name, value, hfield⟩ := Step.exists_field? hfield
        obtain ⟨before, after, hnames, -⟩ := List.lookup_eq_some_iff.1 (field?_eq_some_iff.1 hfield).1
        have hentry : (key name, field.1) ∈ (run empty steps).names := by rw [hnames]; simp
        rw [names_run, List.mem_reverse, List.mem_filterMap] at hentry
        obtain ⟨step, hstep, hregistration⟩ := hentry
        obtain ⟨name, rfl, -, hpair⟩ := Step.registration?_eq_some_iff.1 hregistration
        exact ⟨name, hstep, (Prod.ext_iff.1 hpair).2⟩
    obtain ⟨name, hname, rfl⟩ := hregister
    exact ⟨name, List.mem_append_left _ hname, rfl⟩

/-- After a run no two headers have one name up to ASCII case exactly when the run writes each name in one spelling.
That is so where it registers each name in one spelling. -/
theorem onePerName_run_iff (steps : List Step) :
    ((run empty steps).OnePerName ↔ OneSpelling (writes empty steps)) ∧
    ((∀ x y, .register x ∈ steps → .register y ∈ steps → key x = key y → Text.trim x = Text.trim y) →
      (run empty steps).OnePerName) := by
  have hiff : (run empty steps).OnePerName ↔ OneSpelling (writes empty steps) := by
    rw [(lawful_run steps).onePerName_iff, names_headers_run]
    simp only [OneSpelling, List.mem_eraseDups]
  refine ⟨hiff, fun hone => hiff.2 fun x hx y hy hsame => ?_⟩
  obtain ⟨m, hm, rfl⟩ := exists_register_of_mem_writes hx
  obtain ⟨n, hn, rfl⟩ := exists_register_of_mem_writes hy
  exact hone m n hm hn (beq_iff_eq.1 hsame)

/-- A source is registered anew in lower case between two writes: its second value stands beside the first. -/
theorem onePerName_run_iff_respelled :
    let steps : List Step := [.register "X-Source".toList, .setHeader "x-source".toList "db".toList,
      .register "x-source".toList, .setHeader "x-source".toList "cache".toList]
    writes empty steps = ["X-Source".toList, "x-source".toList] ∧
      (run empty steps).headers = [("X-Source".toList, "db".toList), ("x-source".toList, "cache".toList)] ∧
      ¬ (run empty steps).OnePerName := by
  intro steps
  have hwrites : writes empty steps = ["X-Source".toList, "x-source".toList] := by decide +kernel
  refine ⟨hwrites, by decide +kernel, fun hone => ?_⟩
  have hspelling := (onePerName_run_iff steps).1.1 hone
  rw [hwrites] at hspelling
  exact absurd (hspelling "X-Source".toList (by simp) "x-source".toList (by simp) (by decide)) (by decide)

end SensorRegistry.Scope
