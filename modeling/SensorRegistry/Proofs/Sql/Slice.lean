/-
The slices that the splicer takes of a statement. A slice by bytes fails when it runs backwards or past the end, or
when it cuts a character. Every span that a splice plans runs from one cut of the statement to a later one, so no slice
fails: run with slices that can fail, the splicer always answers, and it answers the same.
-/
import SensorRegistry.Proofs.Sql.Splice
import SensorRegistry.Proofs.Text.Boundary

namespace SensorRegistry

/-! ## Boundaries -/

/-- A character begins at the position, or the bytes end there. -/
def Text.IsBoundary (bs : List UInt8) (i : Nat) : Prop := i = bs.length ∨ ∃ b ∈ bs[i]?, b.IsUTF8FirstByte

instance (bs : List UInt8) (i : Nat) : Decidable (Text.IsBoundary bs i) :=
  inferInstanceAs (Decidable (_ ∨ ∃ b ∈ bs[i]?, _))

/-- The boundaries of a text are the places where it can be cut. -/
theorem Text.isBoundary_iff {s : Text} {i : Nat} : IsBoundary (bytes s) i ↔ ∃ u v, s = u ++ v ∧ byteSize u = i := by
  constructor
  · rintro (rfl | ⟨b, hb, hfirst⟩)
    · exact ⟨s, [], (List.append_nil s).symm, (length_bytes s).symm⟩
    · exact exists_cut hb hfirst
  · rintro ⟨u, v, rfl, rfl⟩
    by_cases hv : v = []
    · rw [hv, List.append_nil]
      exact .inl (length_bytes u).symm
    · have hfirst := List.head?_eq_some_head (bytes_ne_nil hv)
      refine .inr ⟨(bytes v).head (bytes_ne_nil hv), ?_, isUTF8FirstByte_of_head hfirst⟩
      rwa [← List.head?_drop, drop_bytes]

namespace Sql

/-! ## Slices -/

/-- What a slice of bytes requires: it does not run backwards, it ends within the bytes, and it cuts no character. -/
structure Span.Sound (bs : List UInt8) (span : Span) : Prop where
  ordered : span.start ≤ span.stop
  inside : span.stop ≤ bs.length
  start : Text.IsBoundary bs span.start
  stop : Text.IsBoundary bs span.stop

theorem Span.sound_def {bs : List UInt8} {span : Span} : span.Sound bs ↔
    span.start ≤ span.stop ∧ span.stop ≤ bs.length ∧ Text.IsBoundary bs span.start ∧ Text.IsBoundary bs span.stop :=
  ⟨fun h => ⟨h.ordered, h.inside, h.start, h.stop⟩, fun ⟨h1, h2, h3, h4⟩ => ⟨h1, h2, h3, h4⟩⟩

instance (bs : List UInt8) (span : Span) : Decidable (span.Sound bs) := decidable_of_iff _ Span.sound_def.symm

/-- The text that the bytes of a span spell; none if they cannot be sliced. -/
def Span.slice? (s : Text) (span : Span) : Option Text :=
  if span.Sound (Text.bytes s) then
    Text.Utf8.decode? (((Text.bytes s).drop span.start).take (span.stop - span.start))
  else none

/-- A span can be sliced exactly when it runs from one cut of the text to a later one. -/
theorem Span.sound_iff {s : Text} {span : Span} : span.Sound (Text.bytes s) ↔
    ∃ a m b, s = a ++ m ++ b ∧ span = ⟨Text.byteSize a, Text.byteSize (a ++ m)⟩ := by
  constructor
  · intro h
    obtain ⟨a, v, hs, ha⟩ := Text.isBoundary_iff.1 h.start
    obtain ⟨c, b, hs', hc⟩ := Text.isBoundary_iff.1 h.stop
    obtain ⟨m, rfl, -⟩ := Text.cut_le (hs.symm.trans hs') (by rw [ha, hc]; exact h.ordered)
    exact ⟨a, m, b, hs', by rw [ha, hc]⟩
  · rintro ⟨a, m, b, rfl, rfl⟩
    refine ⟨?_, ?_, ?_, ?_⟩
    · exact Text.byteSize_append a m ▸ Nat.le_add_right _ _
    · rw [Text.length_bytes, Text.byteSize_append (a ++ m)]
      exact Nat.le_add_right _ _
    · exact Text.isBoundary_iff.2 ⟨a, m ++ b, List.append_assoc a m b, rfl⟩
    · exact Text.isBoundary_iff.2 ⟨a ++ m, b, rfl, rfl⟩

theorem Span.sound_between (a m b : Text) :
    Sound (Text.bytes (a ++ m ++ b)) ⟨Text.byteSize a, Text.byteSize (a ++ m)⟩ :=
  sound_iff.2 ⟨a, m, b, rfl, rfl⟩

theorem Span.sound_prefix (a b : Text) : Sound (Text.bytes (a ++ b)) ⟨0, Text.byteSize a⟩ := sound_between [] a b

theorem Span.sound_first (a m b : Text) : Sound (Text.bytes (a ++ m ++ b)) ⟨0, Text.byteSize a⟩ := by
  rw [List.append_assoc]
  exact sound_prefix a (m ++ b)

theorem Span.sound_suffix (a b : Text) : Sound (Text.bytes (a ++ b)) ⟨Text.byteSize a, Text.byteSize (a ++ b)⟩ := by
  have h := sound_between a b []
  rwa [List.append_nil] at h

/-- A slice that does not fail is the text of its span. -/
theorem Span.slice?_of_sound {s : Text} {span : Span} (h : span.Sound (Text.bytes s)) :
    span.slice? s = some (span.text s) := by
  rw [slice?, if_pos h]
  obtain ⟨a, m, b, rfl, rfl⟩ := sound_iff.1 h
  rw [text_between, Text.Utf8.decode?_eq_some_iff]
  dsimp only
  rw [List.append_assoc, Text.drop_bytes, Text.byteSize_append, Nat.add_sub_cancel_left, Text.take_bytes]

/-! ## Plans -/

/-- The span of the statement that a piece is made of. -/
def Piece.span? : Piece → Option Span
  | .kept span | .grouped span => some span
  | .added _ => none

/-- Every span of the plan can be sliced out of the statement. -/
def Sliceable (s : Text) (plan : List Piece) : Prop :=
  ∀ piece ∈ plan, ∀ span ∈ piece.span?, span.Sound (Text.bytes s)

instance (s : Text) (plan : List Piece) : Decidable (Sliceable s plan) :=
  inferInstanceAs (Decidable (∀ piece ∈ plan, ∀ span ∈ piece.span?, _))

section Sliceable

variable {s : Text} {plan : List Piece}

theorem sliceable_nil : Sliceable s [] := List.forall_mem_nil _

theorem Sliceable.kept (h : Sliceable s plan) {span : Span} (hspan : span.Sound (Text.bytes s)) :
    Sliceable s (.kept span :: plan) :=
  List.forall_mem_cons.2 ⟨by rintro _ ⟨⟩; exact hspan, h⟩

theorem Sliceable.grouped (h : Sliceable s plan) {span : Span} (hspan : span.Sound (Text.bytes s)) :
    Sliceable s (.grouped span :: plan) :=
  List.forall_mem_cons.2 ⟨by rintro _ ⟨⟩; exact hspan, h⟩

theorem Sliceable.added (h : Sliceable s plan) (text : Text) : Sliceable s (.added text :: plan) :=
  List.forall_mem_cons.2 ⟨by rintro _ ⟨⟩, h⟩

end Sliceable

/-- The text of a piece, sliced. -/
def Piece.slice? (s : Text) : Piece → Option Text
  | .kept span => span.slice? s
  | .grouped span => (span.slice? s).map fun condition => '(' :: Text.trim condition ++ [')']
  | .added text => some text

theorem Piece.slice?_of_sound {s : Text} {piece : Piece} (h : ∀ span ∈ piece.span?, span.Sound (Text.bytes s)) :
    piece.slice? s = some (piece.text s) := by
  cases piece with
  | kept span => exact Span.slice?_of_sound (h span rfl)
  | grouped span =>
    rw [slice?, Span.slice?_of_sound (h span rfl)]
    rfl
  | added text => rfl

/-- The statement that a plan makes of `s`, with slices that can fail. -/
def assemble? (s : Text) (plan : List Piece) : Option Text := (plan.mapM (Piece.slice? s)).map joinParts

theorem mapM_slice?_of_sliceable {s : Text} {plan : List Piece} (h : Sliceable s plan) :
    plan.mapM (Piece.slice? s) = some (plan.map (·.text s)) := by
  induction plan with
  | nil => rfl
  | cons piece plan ih =>
    obtain ⟨hpiece, hplan⟩ := List.forall_mem_cons.1 h
    rw [List.mapM_cons, Piece.slice?_of_sound hpiece, ih hplan]
    rfl

theorem assemble?_of_sliceable {s : Text} {plan : List Piece} (h : Sliceable s plan) :
    assemble? s plan = some (assemble s plan) := by
  rw [assemble?, mapM_slice?_of_sliceable h]
  rfl

/-! ## The plans of the splicer -/

theorem sound_conditionSpan? {s : Text} {span : Span} (h : conditionSpan? s = some span) :
    span.Sound (Text.bytes s) := by
  obtain ⟨b, m, t, rfl, -, -, rfl⟩ := exists_condition h
  exact Span.sound_between b m t

theorem sliceable_wherePlan {s f : Text} {plan : List Piece} (h : wherePlan s f = .ok plan) : Sliceable s plan := by
  cases hspan : conditionSpan? s with
  | some span =>
    obtain ⟨b, m, t, rfl, hopen, hcut, -⟩ := exists_condition hspan
    have htail : Sliceable (b ++ m ++ t) [.kept ⟨Text.byteSize (b ++ m), Text.byteSize (b ++ m ++ t)⟩] :=
      sliceable_nil.kept (Span.sound_suffix (b ++ m) t)
    rw [wherePlan_condition hopen hcut] at h
    cases h
    refine Sliceable.kept (.added (.added ?_ _) _) (Span.sound_first b m t)
    split
    · exact htail.grouped (Span.sound_between b m t)
    · exact htail.kept (Span.sound_between b m t)
  | none =>
    cases hfrom : findTopLevel s "FROM".toList 0 with
    | none =>
      unfold wherePlan at h
      rw [hspan, hfrom] at h
      cases h
    | some pos =>
      obtain ⟨b, rest, rfl, -, hopen⟩ := exists_opens hfrom
      obtain ⟨m, t, rfl, -, -, hplan⟩ := wherePlan_table hspan hopen f
      rw [hplan] at h
      cases h
      rw [← List.append_assoc]
      exact .kept (.added (.added (sliceable_nil.kept (Span.sound_suffix (b ++ m) t)) _) _)
        (Span.sound_prefix (b ++ m) t)

theorem sliceable_orderPlan (s key : Text) : Sliceable s (orderPlan s key) := by
  cases hspan : leadingKeySpan? s with
  | some span =>
    obtain ⟨b, lead, t, rfl, -, -, rfl⟩ := exists_leadingKey hspan
    rw [orderPlan_of_leadingKey hspan]
    exact .kept (.added (sliceable_nil.kept (Span.sound_suffix (b ++ lead) t)) _) (Span.sound_first b lead t)
  | none =>
    obtain ⟨b, t, rfl, -, hplan⟩ := orderPlan_clause hspan key
    rw [hplan]
    exact .kept (.added (.added (sliceable_nil.kept (Span.sound_suffix b t)) _) _) (Span.sound_prefix b t)

/-! ## The splicer with slices that can fail -/

/-- Adding a condition, as far as no slice fails. -/
def insertWhere? (s fragment : Text) : Option (Except TemplateFault Text) :=
  if fragment.isEmpty then some (.ok s)
  else match wherePlan s fragment with
    | .error fault => some (.error fault)
    | .ok plan => (assemble? s plan).map .ok

/-- Making a key the leading one, as far as no slice fails. -/
def insertOrder? (s key : Text) : Option Text :=
  if key.isEmpty then some s else assemble? s (orderPlan s key)

theorem insertWhere?_eq (s f : Text) : insertWhere? s f = some (insertWhere s f) := by
  unfold insertWhere? insertWhere
  split
  · rfl
  · cases hplan : wherePlan s f with
    | error fault => rfl
    | ok plan =>
      dsimp only
      rw [assemble?_of_sliceable (sliceable_wherePlan hplan)]
      rfl

theorem insertOrder?_eq (s key : Text) : insertOrder? s key = some (insertOrder s key) := by
  unfold insertOrder? insertOrder
  split
  · rfl
  · exact assemble?_of_sliceable (sliceable_orderPlan s key)

/-- The splicer never slices badly. Whatever the statement and whatever is put into it, every span that a splice takes
of the statement starts no later than it ends, ends within the statement, and begins and ends between two characters:
that of the condition, in which the first insertion looks for an OR, and those of both plans. So with slices that fail
on any other span both insertions still answer, with the same statement or the same fault. -/
theorem insert_sliceable (s f : Text) :
    (∀ span ∈ conditionSpan? s, span.Sound (Text.bytes s)) ∧
      (∀ plan, wherePlan s f = .ok plan → Sliceable s plan) ∧ Sliceable s (orderPlan s f) ∧
      insertWhere? s f = some (insertWhere s f) ∧ insertOrder? s f = some (insertOrder s f) :=
  ⟨fun _ => sound_conditionSpan?, fun _ => sliceable_wherePlan, sliceable_orderPlan s f, insertWhere?_eq s f,
    insertOrder?_eq s f⟩

/-- Next to characters of two bytes: the plans cut beside them, where a slice that cuts one fails. -/
theorem insert_sliceable_beside_two_bytes :
    let s := "SELECT é FROM tß WHERE ü = 'ñ' OR ß ORDER BY ç, ü ;".toList
    let f := "ö = 1".toList
    let plan : List Piece :=
      [.kept ⟨0, 24⟩, .added f, .added "AND".toList, .grouped ⟨24, 41⟩, .kept ⟨41, 58⟩]
    conditionSpan? s = some ⟨24, 41⟩ ∧ Span.Sound (Text.bytes s) ⟨24, 41⟩ ∧ wherePlan s f = .ok plan ∧
      Sliceable s plan ∧ orderPlan s f = [.kept ⟨0, 49⟩, .added f, .kept ⟨52, 58⟩] ∧ Sliceable s (orderPlan s f) ∧
      Span.slice? s ⟨7, 9⟩ = some "é".toList ∧ Span.slice? s ⟨7, 8⟩ = none := by
  intro s f plan
  have hspan : conditionSpan? s = some ⟨24, 41⟩ := by decide +kernel
  have hplan : wherePlan s f = .ok plan := by decide +kernel
  obtain ⟨hcondition, hwhere, horder, -⟩ := insert_sliceable s f
  exact ⟨hspan, hcondition _ hspan, hplan, hwhere plan hplan, by decide +kernel, horder, by decide +kernel,
    by decide +kernel⟩

end Sql

end SensorRegistry
