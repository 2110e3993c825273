/-
Texts put together from parts with separators between them, and whether the parts can be told from the text. They can
exactly when no separator stands within a part beside it: a separator within the part in front of it cuts that part
short, and one within the part behind it makes the part in front longer.

A second reading would first differ from the given one at a later place for some separator. From there on every joint of
it lies behind that of the given reading, so the last separator lies within the last part.
-/
import SensorRegistry.Text
import Mathlib.Data.List.Infix

namespace SensorRegistry.Text

/-- The first part, then each separator with the part behind it. -/
def parted (first : Text) : List (Text × Text) → Text
  | [] => first
  | (separator, part) :: rest => first ++ separator ++ parted part rest

/-- No other parts give the same text with the same separators. -/
def PartedOnce (first : Text) (rest : List (Text × Text)) : Prop :=
  ∀ first' rest', rest'.map (·.1) = rest.map (·.1) → parted first' rest' = parted first rest →
    first' = first ∧ rest' = rest

/-- No separator stands within a part beside it. -/
def Apart (first : Text) : List (Text × Text) → Prop
  | [] => True
  | (separator, part) :: rest => ¬ separator <:+: first ∧ ¬ separator <:+: part ∧ Apart part rest

/-- A separator whose first character does not come again in it, so that it does not overlap itself. -/
def Sharp (separator : Text) : Prop := ∃ c tail, separator = c :: tail ∧ c ∉ tail

theorem Sharp.ne_nil {separator : Text} (h : Sharp separator) : separator ≠ [] := by
  obtain ⟨c, tail, rfl, -⟩ := h
  exact List.cons_ne_nil c tail

theorem parted_append (x first : Text) (rest : List (Text × Text)) :
    parted (x ++ first) rest = x ++ parted first rest := by
  cases rest with
  | nil => rfl
  | cons joint rest => simp only [parted, List.append_assoc]

/-! ## Two occurrences of a separator -/

/-- Of two occurrences the second begins behind the end of the first, or they are one. -/
theorem Sharp.behind {separator a x y : Text} (h : Sharp separator) (heq : separator ++ x = a ++ (separator ++ y)) :
    a = [] ∨ ∃ b, a = separator ++ b := by
  obtain ⟨c, tail, rfl, hc⟩ := h
  cases a with
  | nil => exact .inl rfl
  | cons d a =>
    obtain ⟨rfl, htail⟩ := List.cons.inj heq
    rcases List.append_eq_append_iff.1 htail with ⟨b, rfl, -⟩ | ⟨b, rfl, hb⟩
    · exact .inr ⟨b, rfl⟩
    · cases b with
      | nil => exact .inr ⟨[], by simp⟩
      | cons e b =>
        -- the second occurrence would begin within the tail of the first
        obtain ⟨rfl, -⟩ := List.cons.inj hb
        exact absurd (by simp) hc

/-- In front of a first occurrence stands no other one: two cuts at a separator are one, or the second lies behind the
first. -/
theorem Sharp.cut_cases {separator p x q y : Text} (h : Sharp separator) (hp : ¬ separator <:+: p)
    (heq : p ++ separator ++ x = q ++ separator ++ y) :
    (q = p ∧ y = x) ∨ ∃ a, q = p ++ separator ++ a ∧ x = a ++ separator ++ y := by
  rw [List.append_assoc, List.append_assoc] at heq
  rcases List.append_eq_append_iff.1 heq with ⟨a, rfl, ha⟩ | ⟨a, rfl, ha⟩
  · rcases h.behind ha with rfl | ⟨b, rfl⟩
    · exact .inl ⟨List.append_nil p, (List.append_cancel_left ha).symm⟩
    · refine .inr ⟨b, by rw [List.append_assoc], ?_⟩
      rw [List.append_assoc] at ha
      rw [List.append_cancel_left ha, List.append_assoc]
  · rcases h.behind ha with rfl | ⟨b, rfl⟩
    · exact .inl ⟨(List.append_nil q).symm, List.append_cancel_left ha⟩
    · exact absurd ⟨q, b, List.append_assoc q separator b⟩ hp

/-! ## Readings -/

/-- A reading cannot begin behind an occurrence of the separator that stands in front of its first part. -/
theorem Apart.not_behind {separator first : Text} {rest : List (Text × Text)} (hrest : Apart first rest)
    (hsharp : ∀ joint ∈ rest, Sharp joint.1) (hfirst : ¬ separator <:+: first) {first' : Text}
    {rest' : List (Text × Text)} (hseps : rest'.map (·.1) = rest.map (·.1)) (a : Text) :
    parted first rest ≠ a ++ separator ++ parted first' rest' := by
  induction rest generalizing separator first first' rest' a with
  | nil =>
    rw [List.map_nil, List.map_eq_nil_iff] at hseps
    subst hseps
    exact fun heq => hfirst ⟨a, first', heq.symm⟩
  | cons joint rest ih =>
    obtain ⟨next, part⟩ := joint
    obtain ⟨hnext, hpart, hrest⟩ := hrest
    obtain ⟨hnextSharp, hrestSharp⟩ := List.forall_mem_cons.1 hsharp
    cases rest' with
    | nil => cases hseps
    | cons joint' rest' =>
      obtain ⟨next', part'⟩ := joint'
      obtain ⟨hnext', htail⟩ := List.cons.inj hseps
      dsimp only at hnext'
      subst hnext'
      intro heq
      rw [parted, parted, ← List.append_assoc, ← List.append_assoc] at heq
      -- the next joint of the reading lies behind that of the parts, too
      rcases hnextSharp.cut_cases hnext heq with ⟨hq, -⟩ | ⟨b, -, hb⟩
      · exact hfirst ⟨a, first', hq⟩
      · exact ih hrest hrestSharp hpart htail b hb

theorem Apart.partedOnce {first : Text} {rest : List (Text × Text)} (h : Apart first rest)
    (hsharp : ∀ joint ∈ rest, Sharp joint.1) : PartedOnce first rest := by
  intro first' rest' hseps heq
  induction rest generalizing first first' rest' with
  | nil =>
    rw [List.map_nil, List.map_eq_nil_iff] at hseps
    subst hseps
    exact ⟨heq, rfl⟩
  | cons joint rest ih =>
    obtain ⟨separator, part⟩ := joint
    obtain ⟨hfirst, hpart, hrest⟩ := h
    obtain ⟨hseparator, hrestSharp⟩ := List.forall_mem_cons.1 hsharp
    cases rest' with
    | nil => cases hseps
    | cons joint' rest' =>
      obtain ⟨separator', part'⟩ := joint'
      obtain ⟨hseparator', htail⟩ := List.cons.inj hseps
      dsimp only at hseparator'
      subst hseparator'
      rcases hseparator.cut_cases hfirst heq.symm with ⟨rfl, hsame⟩ | ⟨a, -, hbehind⟩
      · obtain ⟨rfl, rfl⟩ := ih hrest hrestSharp part' rest' htail hsame
        exact ⟨rfl, rfl⟩
      · exact absurd hbehind (hrest.not_behind hrestSharp hpart htail a)

/-- A separator within a part beside it gives a second reading. -/
theorem PartedOnce.apart {first : Text} {rest : List (Text × Text)} (h : PartedOnce first rest)
    (hne : ∀ joint ∈ rest, joint.1 ≠ []) : Apart first rest := by
  induction rest generalizing first with
  | nil => trivial
  | cons joint rest ih =>
    obtain ⟨separator, part⟩ := joint
    obtain ⟨hseparator, hne⟩ := List.forall_mem_cons.1 hne
    have hlength : 0 < separator.length := List.length_pos_of_ne_nil hseparator
    refine ⟨?_, ?_, ih (fun part' rest' hseps heq => ?_) hne⟩
    · rintro ⟨a, b, rfl⟩
      have heq : parted a ((separator, b ++ separator ++ part) :: rest) =
          parted (a ++ separator ++ b) ((separator, part) :: rest) := by
        simp only [parted, parted_append, List.append_assoc]
      have hshort := congrArg List.length (h a ((separator, b ++ separator ++ part) :: rest) rfl heq).1
      simp only [List.length_append] at hshort
      omega
    · rintro ⟨a, b, rfl⟩
      have heq : parted (first ++ separator ++ a) ((separator, b) :: rest) =
          parted first ((separator, a ++ separator ++ b) :: rest) := by
        simp only [parted, parted_append, List.append_assoc]
      have hlong := congrArg List.length (h (first ++ separator ++ a) ((separator, b) :: rest) rfl heq).1
      simp only [List.length_append] at hlong
      omega
    · obtain ⟨-, hrest⟩ := h first ((separator, part') :: rest') (congrArg (separator :: ·) hseps)
        (congrArg (first ++ separator ++ ·) heq)
      obtain ⟨hjoint, hrest⟩ := List.cons.inj hrest
      exact ⟨(Prod.ext_iff.1 hjoint).2, hrest⟩

/-- Parts can be told from their text exactly when no separator stands within a part beside it. -/
theorem partedOnce_iff {first : Text} {rest : List (Text × Text)} (hsharp : ∀ joint ∈ rest, Sharp joint.1) :
    PartedOnce first rest ↔ Apart first rest :=
  ⟨fun h => h.apart fun joint hjoint => (hsharp joint hjoint).ne_nil, fun h => h.partedOnce hsharp⟩

end SensorRegistry.Text
