/-
Which sensor drafts the service accepts, and what it says of the others. A draft is accepted exactly when its id is a
hyphenated UUID, its type one of the three and its label short and without white space at its ends. Every field that
breaks its rule has one problem, and the response has the messages of all problems in ascending order, in whatever
order the problems were collected.
-/
import SensorRegistry.Api.Service
import SensorRegistry.Proofs.Text.Order
import SensorRegistry.Proofs.Uuid

namespace SensorRegistry

namespace SensorDraft

/-! ## The rules -/

/-- A label has 1 to 128 characters, the first and the last of which are visible. -/
structure LabelRule (s : Text) : Prop where
  nonempty : 1 ≤ s.length
  short : s.length ≤ 128
  trimmed : Text.Trimmed s

/-- All fields keep their rules. -/
structure WellFormed (d : SensorDraft) : Prop where
  id : Uuid.Hyphenated d.id
  type : d.type ∈ sensorTypes
  label : LabelRule d.label

/-- A field of the draft breaks its rule. -/
inductive Breaks (d : SensorDraft) : SensorProblem → Prop
  | id : ¬ Uuid.Hyphenated d.id → Breaks d (.id d.id)
  | type : d.type ∉ sensorTypes → Breaks d .type
  | label : ¬ LabelRule d.label → Breaks d .label

theorem isId_iff {s : Text} : isId s = true ↔ Uuid.Hyphenated s := by
  rw [← Uuid.isUuid_iff_of_byteSize, isId, Bool.and_eq_true, beq_iff_eq]

theorem isLabel_iff {s : Text} : isLabel s = true ↔ LabelRule s := by
  have htrim : Text.trim s = s ↔ Text.Trimmed s := ⟨fun h => h ▸ Text.trimmed_trim s, Text.Trimmed.trim_eq⟩
  simp only [isLabel, Bool.and_eq_true, decide_eq_true_eq, beq_iff_eq, htrim]
  exact ⟨fun h => ⟨h.1.1, h.1.2, h.2⟩, fun h => ⟨⟨h.nonempty, h.short⟩, h.trimmed⟩⟩

theorem mem_problems_iff {d : SensorDraft} {p : SensorProblem} : p ∈ d.problems ↔ d.Breaks p := by
  have hunless : ∀ {fine : Prop} [Decidable fine] {q : SensorProblem},
      p ∈ (if fine then [] else [q]) ↔ ¬ fine ∧ p = q := by
    intro fine _ q
    split_ifs with h <;> simp [h]
  simp only [problems, List.mem_append, hunless, isId_iff, isLabel_iff, List.contains_iff_mem]
  constructor
  · rintro ((⟨h, rfl⟩ | ⟨h, rfl⟩) | ⟨h, rfl⟩)
    · exact .id h
    · exact .type h
    · exact .label h
  · rintro (h | h | h)
    · exact .inl (.inl ⟨h, rfl⟩)
    · exact .inl (.inr ⟨h, rfl⟩)
    · exact .inr ⟨h, rfl⟩

theorem problems_eq_nil_iff {d : SensorDraft} : d.problems = [] ↔ d.WellFormed := by
  rw [List.eq_nil_iff_forall_not_mem]
  simp only [mem_problems_iff]
  constructor
  · intro h
    exact ⟨by_contra fun hid => h _ (.id hid), by_contra fun htype => h _ (.type htype),
      by_contra fun hlabel => h _ (.label hlabel)⟩
  · rintro h p (hid | htype | hlabel)
    · exact hid h.id
    · exact htype h.type
    · exact hlabel h.label

/-- No field has two problems. -/
theorem nodup_fields (d : SensorDraft) : (d.problems.map SensorProblem.field).Nodup := by
  have hunless : ∀ (fine : Prop) [Decidable fine] (p : SensorProblem), (if fine then [] else [p]).Sublist [p] := by
    intro fine _ p
    split_ifs <;> simp
  have hsublist : d.problems.Sublist [.id d.id, .type, .label] :=
    ((hunless _ _).append (hunless _ _)).append (hunless _ _)
  have hall : (["Id".toList, "type".toList, "alias".toList] : List Text).Nodup := by decide
  exact List.Nodup.sublist (hsublist.map SensorProblem.field) hall

end SensorDraft

/-! ## Requests -/

namespace Service

/-- The body of the request is JSON that describes the draft. -/
def Carries (r : Request) (d : SensorDraft) : Prop :=
  r.hasJson = true ∧ ∃ body rest, Json.readFirst? r.body = some (body, rest) ∧ SensorDraft.ofJson? body = some d

theorem draft_of_carries {r : Request} {d : SensorDraft} (h : Carries r d) :
    draft r = if d.problems.isEmpty then .ok d else .error (.badRequest (SensorDraft.report d.problems)) := by
  obtain ⟨hjson, body, rest, hread, hdraft⟩ := h
  rw [draft, if_neg (by simp [hjson])]
  simp only [hread, Option.bind_some, hdraft]

/-- A draft is well-formed exactly when it has no problem. The problems are those of the fields that break their rules,
one for each. Their messages have one sorted list, and the report joins it, whatever the order of the problems. A
request that carries the draft is accepted exactly when the draft is well-formed, and otherwise refused with this
report as the detail of a response with status 400. -/
theorem draft_verdict (d : SensorDraft) :
    (d.problems = [] ↔ d.WellFormed) ∧
    (∀ p, p ∈ d.problems ↔ d.Breaks p) ∧ (d.problems.map SensorProblem.field).Nodup ∧
    ∃ messages, messages.Perm (d.problems.map SensorProblem.message) ∧ Text.Sorted messages ∧
      (∀ problems, problems.Perm d.problems → SensorDraft.report problems = Text.join "; " messages) ∧
      ∀ r, Carries r d →
        (draft r = .ok d ↔ d.WellFormed) ∧
        (¬ d.WellFormed → ∃ fault, draft r = .error fault ∧ fault.status.code = 400 ∧
          fault.detail = Text.join "; " messages) := by
  refine ⟨SensorDraft.problems_eq_nil_iff, fun p => SensorDraft.mem_problems_iff, SensorDraft.nodup_fields d,
    (d.problems.map SensorProblem.message).mergeSort Text.ascending, List.mergeSort_perm _ _, Text.sorted_mergeSort _,
    fun problems hperm => ?_, fun r hr => ?_⟩
  · exact congrArg (Text.join "; ") (Text.mergeSort_congr (hperm.map SensorProblem.message))
  · rw [draft_of_carries hr, ← SensorDraft.problems_eq_nil_iff]
    by_cases hnone : d.problems = []
    · rw [if_pos (List.isEmpty_iff.2 hnone)]
      exact ⟨⟨fun _ => hnone, fun _ => rfl⟩, fun h => absurd hnone h⟩
    · rw [if_neg fun h => hnone (List.isEmpty_iff.1 h)]
      exact ⟨⟨fun h => (by cases h), fun h => absurd h hnone⟩, fun _ => ⟨_, rfl, rfl, rfl⟩⟩

/-- A UUID in braces, an unknown type and a label that ends with an ideographic space; and a well-formed draft with a
label of 128 characters and 256 bytes. -/
theorem draft_verdict_three :
    let d : SensorDraft := ⟨"\x7b5b0c6a0e-3f7e-4a8d-9d55-0a7c1f7e2b11\x7d".toList, "wind".toList,
      "lab\u3000".toList, 10, .ofInt 30, .ofInt 5⟩
    let r : Request := ⟨"POST".toList, ⟨none, "/api/v1/sensors".toList, none⟩,
      [("Content-Type".toList, "application/json".toList)],
      "[\"\x7b5b0c6a0e-3f7e-4a8d-9d55-0a7c1f7e2b11\x7d\",\"wind\",\"lab\u3000\",10,30,5]".toList⟩
    let d' : SensorDraft := { d with
      id := "5b0c6a0e-3f7e-4a8d-9d55-0a7c1f7e2b11".toList, type := "humidity".toList, label := List.replicate 128 'é' }
    Carries r d ∧ ¬ d.WellFormed ∧ d'.WellFormed ∧ ∃ fault, draft r = .error fault ∧ fault.status.code = 400 ∧
      fault.detail = Text.join "; " ["'\x7b5b0c6a0e-3f7e-4a8d-9d55-0a7c1f7e2b11\x7d' is not a valid UUID".toList,
        "alias must have 1 to 128 characters and no leading or trailing spaces".toList,
        "type must be one of humidity, temperature, pressure".toList] := by
  intro d r d'
  have hcarries : Carries r d := by
    have hread : (Json.readFirst? r.body).bind (fun read => SensorDraft.ofJson? read.1) = some d := by decide +kernel
    obtain ⟨⟨body, rest⟩, hbody, hdraft⟩ := Option.bind_eq_some_iff.1 hread
    exact ⟨by decide +kernel, body, rest, hbody, hdraft⟩
  have hbroken : ¬ d.WellFormed := by
    rw [← SensorDraft.problems_eq_nil_iff]
    decide +kernel
  have hfine : d'.WellFormed := (draft_verdict d').1.1 (by decide +kernel)
  obtain ⟨-, -, -, messages, hperm, hsorted, -, hrequests⟩ := draft_verdict d
  obtain ⟨fault, hfault, hcode, hdetail⟩ := (hrequests r hcarries).2 hbroken
  refine ⟨hcarries, hbroken, hfine, fault, hfault, hcode, hdetail.trans (congrArg (Text.join "; ") ?_)⟩
  exact hsorted.eq_of_perm (by decide +kernel) (hperm.trans (by decide +kernel))

end Service

end SensorRegistry
