/-
Runs of operations on a scope: filters and pages are set, header names registered, headers and totals recorded, in
any order. Whatever the run, a recorded header has a visible value under a registered name, each name stands once, and
the names stand in the order in which they were first written. So a write changes the one header that it names, a
refused one changes nothing, and a total changes the page in its total alone.

The invariant is `Lawful`. A step writes one field or none, `Step.field?`, and everything about headers follows from it.
-/
import SensorRegistry.Scope
import SensorRegistry.Proofs.Fields
import SensorRegistry.Proofs.Number.Integer
import SensorRegistry.Proofs.Text.Blank
import Mathlib.Data.List.Induction

namespace SensorRegistry.Scope

/-! ## Steps and runs -/

/-- What can be done with a scope. -/
inductive Step
  | withFilter (group : FilterGroup)
  | withPage (page : Page)
  | register (name : Text)
  | setHeader (name value : Text)
  | recordTotal (total : Int)
  deriving DecidableEq

/-- The scope after a step. -/
def perform (s : Scope) : Step → Scope
  | .withFilter group => s.withFilter group
  | .withPage page => s.withPage page
  | .register name => s.register name
  | .setHeader name value => (s.setHeader name value).2
  | .recordTotal total => s.recordTotal total

/-- The scope after a run. -/
def run (s : Scope) (steps : List Step) : Scope := steps.foldl perform s

theorem run_concat (s : Scope) (steps : List Step) (step : Step) :
    run s (steps ++ [step]) = (run s steps).perform step := by
  rw [run, List.foldl_concat]
  rfl

/-- What holds of a scope and is kept by every step holds after every run. -/
theorem run_induction {motive : Scope → Prop} {s : Scope} (steps : List Step) (hs : motive s)
    (hstep : ∀ s, ∀ step ∈ steps, motive s → motive (s.perform step)) : motive (run s steps) :=
  List.foldlRecOn steps perform hs fun s hs step hmem => hstep s step hmem hs

/-! ## Writes -/

/-- The field that a value becomes: under the registered spelling of its name, without white space at its ends. A
blank value and a name that is not registered give none. -/
def field? (s : Scope) (name value : Text) : Option (Text × Text) :=
  (s.spelling? name).bind fun spelled => if (Text.trim value).isEmpty then none else some (spelled, Text.trim value)

theorem field?_eq_some_iff {s : Scope} {name value : Text} {field : Text × Text} :
    s.field? name value = some field ↔
      s.spelling? name = some field.1 ∧ Text.trim value ≠ [] ∧ field.2 = Text.trim value := by
  obtain ⟨spelled, v⟩ := field
  rw [field?, Option.bind_eq_some_iff]
  constructor
  · rintro ⟨n, hn, h⟩
    split_ifs at h with hblank
    cases h
    exact ⟨hn, fun hnil => hblank (by rw [hnil]; rfl), rfl⟩
  · rintro ⟨hn, hne, rfl⟩
    exact ⟨spelled, hn, if_neg (by simpa using hne)⟩

theorem isSome_field?_iff {s : Scope} {name value : Text} :
    (s.field? name value).isSome ↔ Text.trim value ≠ [] ∧ (s.spelling? name).isSome := by
  simp only [Option.isSome_iff_exists, field?_eq_some_iff, Prod.exists]
  constructor
  · rintro ⟨n, v, hn, hne, -⟩
    exact ⟨hne, n, hn⟩
  · rintro ⟨hne, n, hn⟩
    exact ⟨n, _, hn, hne, rfl⟩

/-- A write puts the field that it names, or is refused. -/
theorem setHeader_eq (s : Scope) (name value : Text) :
    s.setHeader name value = match s.field? name value with
      | none => (false, s)
      | some field => (true, { s with headers := Fields.put field.1 field.2 s.headers }) := by
  unfold setHeader field?
  cases s.spelling? name with
  | none => rfl
  | some spelled =>
    rw [Option.bind_some]
    dsimp only
    split_ifs <;> rfl

/-- A total is recorded as a header is, and on the page. -/
theorem recordTotal_eq (s : Scope) (total : Int) :
    s.recordTotal total =
      { (s.setHeader totalHeader (Text.ofInt total)).2 with page := s.page.map (·.withTotal total) } := by
  let counted : Scope := { s with page := s.page.map (·.withTotal total) }
  -- the field depends on the registered names alone, which the count leaves as they are
  have hfield : counted.field? totalHeader (Text.ofInt total) = s.field? totalHeader (Text.ofInt total) := rfl
  show (counted.setHeader totalHeader (Text.ofInt total)).2 = _
  rw [setHeader_eq, setHeader_eq, hfield]
  cases s.field? totalHeader (Text.ofInt total) <;> rfl

namespace Step

/-- The field that a step writes. -/
def field? (s : Scope) : Step → Option (Text × Text)
  | .setHeader name value => s.field? name value
  | .recordTotal total => s.field? totalHeader (Text.ofInt total)
  | .withFilter _ | .withPage _ | .register _ => none

/-- The registration that a step makes: the name as it is found, and as it is written. -/
def registration? : Step → Option (Text × Text)
  | .register name => if (Text.trim name).isEmpty then none else some (key name, Text.trim name)
  | .withFilter _ | .withPage _ | .setHeader _ _ | .recordTotal _ => none

/-- A step that writes a field writes a value under a name. -/
theorem exists_field? {s : Scope} {step : Step} {field : Text × Text} (h : step.field? s = some field) :
    ∃ name value, s.field? name value = some field := by
  cases step with
  | setHeader name value => exact ⟨name, value, h⟩
  | recordTotal total => exact ⟨totalHeader, Text.ofInt total, h⟩
  | withFilter group | withPage page | register name => cases h

theorem registration?_eq_some_iff {step : Step} {entry : Text × Text} :
    step.registration? = some entry ↔
      ∃ name, step = .register name ∧ Text.trim name ≠ [] ∧ entry = (key name, Text.trim name) := by
  cases step with
  | register name =>
    rw [registration?]
    constructor
    · intro h
      split_ifs at h with hblank
      cases h
      exact ⟨name, rfl, by simpa using hblank, rfl⟩
    · rintro ⟨name, hname, hne, rfl⟩
      cases hname
      exact if_neg (by simpa using hne)
  | withFilter group | withPage page | setHeader name value | recordTotal total => simp [registration?]

end Step

theorem perform_headers (s : Scope) (step : Step) :
    (s.perform step).headers = (step.field? s).elim s.headers fun field => Fields.put field.1 field.2 s.headers := by
  cases step with
  | withFilter group | withPage page => rfl
  | register name =>
    dsimp only [perform, register]
    split_ifs <;> rfl
  | setHeader name value =>
    rw [perform, setHeader_eq, Step.field?]
    cases s.field? name value <;> rfl
  | recordTotal total =>
    rw [perform, recordTotal_eq, setHeader_eq, Step.field?]
    cases s.field? totalHeader (Text.ofInt total) <;> rfl

theorem perform_names (s : Scope) (step : Step) : (s.perform step).names = step.registration?.toList ++ s.names := by
  cases step with
  | withFilter group | withPage page => rfl
  | register name =>
    dsimp only [perform, register, Step.registration?]
    split_ifs <;> rfl
  | setHeader name value =>
    rw [perform, setHeader_eq]
    cases s.field? name value <;> rfl
  | recordTotal total =>
    rw [perform, recordTotal_eq, setHeader_eq]
    cases s.field? totalHeader (Text.ofInt total) <;> rfl

theorem setHeader_page (s : Scope) (name value : Text) : (s.setHeader name value).2.page = s.page := by
  rw [setHeader_eq]
  cases s.field? name value <;> rfl

theorem recordTotal_page (s : Scope) (total : Int) : (s.recordTotal total).page = s.page.map (·.withTotal total) := by
  rw [recordTotal_eq]

/-- A run that sets no page changes at most the total of the one it finds. -/
theorem page_run {s : Scope} {steps : List Step} (h : ∀ page, .withPage page ∉ steps) :
    (run s steps).page.map (fun page => (page.offset, page.limit)) =
      s.page.map fun page => (page.offset, page.limit) := by
  refine run_induction (motive := fun t => t.page.map (fun page => (page.offset, page.limit)) = _) steps rfl
    fun t step hstep ht => ?_
  cases step with
  | withFilter group => exact ht
  | withPage page => exact absurd hstep (h page)
  | register name =>
    dsimp only [perform, register]
    split_ifs <;> exact ht
  | setHeader name value => rw [perform, setHeader_page, ht]
  | recordTotal total =>
    rw [perform, recordTotal_page, Option.map_map, ← ht]
    rfl

/-- The names of a run are those that it registers, the last one first. -/
theorem names_run (steps : List Step) : (run empty steps).names = (steps.filterMap Step.registration?).reverse := by
  induction steps using List.reverseRecOn with
  | nil => rfl
  | append_singleton steps step ih =>
    rw [run_concat, perform_names, ih, List.filterMap_append, List.reverse_append]
    cases h : step.registration? with
    | none => rw [List.filterMap_cons_none h]; rfl
    | some entry => rw [List.filterMap_cons_some h]; rfl

/-! ## What every run keeps -/

/-- A header as a scope records it: a visible value under a registered name, no white space at the ends of either. -/
structure Recorded (s : Scope) (field : Text × Text) : Prop where
  name_ne_nil : field.1 ≠ []
  name_trim : Text.trim field.1 = field.1
  registered : (s.names.lookup (Text.lower field.1)).isSome
  value_ne_nil : field.2 ≠ []
  value_trim : Text.trim field.2 = field.2

/-- The state of every scope: names are registered by their lower case, headers are recorded under registered names,
and each name of a header stands once. -/
structure Lawful (s : Scope) : Prop where
  names : ∀ entry ∈ s.names, entry.1 = Text.lower entry.2 ∧ entry.2 ≠ [] ∧ Text.trim entry.2 = entry.2
  headers : ∀ field ∈ s.headers, s.Recorded field
  once : (Fields.names s.headers).Nodup

theorem lawful_empty : Lawful empty := ⟨by simp [empty], by simp [empty], List.nodup_nil⟩

/-- Registrations add to what is registered. -/
theorem Recorded.of_subset {s s' : Scope} {field : Text × Text} (h : s.Recorded field) (hsub : s.names ⊆ s'.names) :
    s'.Recorded field := by
  obtain ⟨entry, hentry, hkey⟩ := List.lookup_isSome_iff.1 h.registered
  exact { h with registered := List.lookup_isSome_iff.2 ⟨entry, hsub hentry, hkey⟩ }

/-- The spelling of a registered name is found under its own lower case too. -/
theorem Lawful.spelling {s : Scope} (hs : s.Lawful) {name spelled : Text} (h : s.spelling? name = some spelled) :
    spelled ≠ [] ∧ Text.trim spelled = spelled ∧ s.names.lookup (Text.lower spelled) = some spelled := by
  obtain ⟨before, after, hnames, -⟩ := List.lookup_eq_some_iff.1 h
  obtain ⟨hkey, hne, htrim⟩ := hs.names (key name, spelled) (by rw [hnames]; simp)
  dsimp only at hkey
  exact ⟨hne, htrim, by rwa [← hkey]⟩

theorem Lawful.recorded {s : Scope} (hs : s.Lawful) {name value : Text} {field : Text × Text}
    (h : s.field? name value = some field) : s.Recorded field := by
  obtain ⟨hspelled, hvisible, hvalue⟩ := field?_eq_some_iff.1 h
  obtain ⟨hne, htrim, hlookup⟩ := hs.spelling hspelled
  exact ⟨hne, htrim, by rw [hlookup]; rfl, by rwa [hvalue], by rw [hvalue, (Text.trimmed_trim value).trim_eq]⟩

theorem Lawful.perform {s : Scope} (hs : s.Lawful) (step : Step) : (s.perform step).Lawful := by
  have hsub : s.names ⊆ (s.perform step).names := by
    rw [perform_names]
    exact List.subset_append_right _ _
  refine ⟨fun entry hentry => ?_, fun field hfield => ?_, ?_⟩
  · rw [perform_names, List.mem_append, Option.mem_toList] at hentry
    rcases hentry with hentry | hentry
    · obtain ⟨name, -, hne, rfl⟩ := Step.registration?_eq_some_iff.1 hentry
      exact ⟨rfl, hne, (Text.trimmed_trim name).trim_eq⟩
    · exact hs.names entry hentry
  · refine Recorded.of_subset ?_ hsub
    rw [perform_headers] at hfield
    cases hwrite : step.field? s with
    | none =>
      rw [hwrite] at hfield
      exact hs.headers field hfield
    | some written =>
      rw [hwrite] at hfield
      rcases Fields.mem_put hfield with rfl | hfield
      · obtain ⟨name, value, hwrite⟩ := Step.exists_field? hwrite
        exact hs.recorded hwrite
      · exact hs.headers field hfield
  · rw [perform_headers]
    cases step.field? s with
    | none => exact hs.once
    | some written => exact Fields.nodup_names_put hs.once

theorem lawful_run (steps : List Step) : (run empty steps).Lawful :=
  run_induction steps lawful_empty fun _ step _ hs => hs.perform step

/-! ## The order of headers -/

/-- The names that a run writes, each in the spelling registered at the time. -/
def writes (s : Scope) : List Step → List Text
  | [] => []
  | step :: steps => ((step.field? s).map (·.1)).toList ++ writes (s.perform step) steps

theorem writes_concat (s : Scope) (steps : List Step) (step : Step) :
    writes s (steps ++ [step]) = writes s steps ++ ((step.field? (run s steps)).map (·.1)).toList := by
  induction steps generalizing s with
  | nil => exact List.append_nil _
  | cons first steps ih =>
    rw [List.cons_append, writes, writes, ih, List.append_assoc]
    rfl

/-- The headers of a run are those that it wrote, in the order of the first writes. -/
theorem names_headers_run (steps : List Step) :
    Fields.names (run empty steps).headers = (writes empty steps).eraseDups := by
  induction steps using List.reverseRecOn with
  | nil => rfl
  | append_singleton steps step ih =>
    rw [run_concat, writes_concat, perform_headers]
    cases step.field? (run empty steps) with
    | none => exact ih.trans (by rw [Option.map_none, Option.toList_none, List.append_nil])
    | some field => exact Fields.names_put_eraseDups ih

/-! ## What a write changes -/

/-- In the scope after any run a header has a visible value under a registered name, without white space at the ends
of either, and the headers stand in the order in which their names were first written. A write is accepted exactly for a
visible value and a registered name; refused, it leaves the scope as it is, and accepted, it changes one header, that of
the spelling registered at the time. A total changes that of the page, if there is one, and is otherwise a write of its
numeral. -/
theorem run_frame (steps : List Step) :
    let s := run empty steps
    (∀ field ∈ s.headers, s.Recorded field) ∧ Fields.names s.headers = (writes empty steps).eraseDups ∧
    (∀ name value,
      let found := s.names.lookup (Text.lower (Text.trim name))
      ((s.setHeader name value).1 = true ↔ Text.trim value ≠ [] ∧ found.isSome) ∧
      ((s.setHeader name value).1 = false → (s.setHeader name value).2 = s) ∧
      ((s.setHeader name value).1 = true → ∃ spelled headers, found = some spelled ∧
        Fields.Overwritten spelled (Text.trim value) s.headers headers ∧
        (s.setHeader name value).2 = { s with headers := headers })) ∧
    ∀ total, s.recordTotal total =
      { (s.setHeader "Total".toList (Text.ofInt total)).2 with
        page := s.page.map fun page => { page with total := total } } := by
  intro s
  have hs : s.Lawful := lawful_run steps
  refine ⟨hs.headers, names_headers_run steps, fun name value => ?_, recordTotal_eq s⟩
  intro found
  have hsome : (s.field? name value).isSome ↔ Text.trim value ≠ [] ∧ found.isSome := isSome_field?_iff
  rw [setHeader_eq]
  cases hfield : s.field? name value with
  | none =>
    rw [hfield] at hsome
    exact ⟨by simpa using hsome, fun _ => rfl, by simp⟩
  | some field =>
    rw [hfield] at hsome
    obtain ⟨hspelled, -, hvalue⟩ := field?_eq_some_iff.1 hfield
    refine ⟨by simpa using hsome, by simp, fun _ => ⟨field.1, _, hspelled, ?_, rfl⟩⟩
    rw [← hvalue]
    exact Fields.overwritten_put field.1 field.2 hs.once

/-- The source of an answer is replaced behind its total: the header keeps its place and its spelling. -/
theorem run_frame_replaced :
    let s := run empty [.withPage ⟨2, 20, 0⟩, .register " X-Source ".toList, .register "Total".toList,
      .setHeader "x-source".toList "db".toList, .recordTotal 57]
    s.headers = [("X-Source".toList, "db".toList), ("Total".toList, "57".toList)] ∧
      ∃ spelled headers, spelled = "X-Source".toList ∧ Fields.Overwritten spelled "cache".toList s.headers headers ∧
        (s.setHeader "X-SOURCE".toList " cache ".toList).2 = { s with headers := headers } := by
  intro s
  obtain ⟨-, -, hwrite, -⟩ := run_frame [.withPage ⟨2, 20, 0⟩, .register " X-Source ".toList, .register "Total".toList,
    .setHeader "x-source".toList "db".toList, .recordTotal 57]
  obtain ⟨hiff, -, haccepted⟩ := hwrite "X-SOURCE".toList " cache ".toList
  obtain ⟨spelled, headers, hfound, hover, hscope⟩ := haccepted (hiff.2 ⟨by decide, by decide +kernel⟩)
  have hspelled : s.names.lookup (Text.lower (Text.trim "X-SOURCE".toList)) = some "X-Source".toList := by
    decide +kernel
  exact ⟨by decide +kernel, spelled, headers, Option.some.inj (hfound.symm.trans hspelled), hover, hscope⟩

end SensorRegistry.Scope
