/-
LIKE patterns with the escape character `\`, and the patterns that match a value literally. A pattern is read into its
items, and a text matches when the items take it up from left to right. The escaped form of a value reads as the value's
own characters, so between two runs it matches the texts that contain the value.
-/
import SensorRegistry.Sql.Param
import Mathlib.Data.List.Infix

namespace SensorRegistry.Like

/-! ## Patterns -/

/-- An item of a pattern: a character that stands for itself, one character of any kind, or a run of them. -/
inductive Item
  | literal (c : Char)
  | one
  | run
  deriving DecidableEq

/-- The item that a character outside an escape is. -/
def Item.ofChar (c : Char) : Item :=
  if c = '%' then .run else if c = '_' then .one else .literal c

/-- The items of a pattern. A pattern whose last escape has no character to escape has none. -/
def read? : Text → Option (List Item)
  | [] => some []
  | ['\\'] => none
  | '\\' :: c :: p => (read? p).map (.literal c :: ·)
  | c :: p => (read? p).map (Item.ofChar c :: ·)

/-- The items take up the whole text. -/
def takes : List Item → Text → Bool
  | [], t => t.isEmpty
  | .literal c :: p, t => t.head? == some c && takes p t.tail
  | .one :: p, t => !t.isEmpty && takes p t.tail
  | .run :: p, t => t.tails.any (takes p)

/-- Whether a text matches a pattern, if the pattern reads at all. -/
def like? (pattern t : Text) : Option Bool := (read? pattern).map (takes · t)

/-- The pattern ends with an escape that has no character to escape. -/
def Dangling (pattern : Text) : Prop := ∃ p items, pattern = p ++ ['\\'] ∧ read? p = some items

theorem read?_escape (c : Char) (p : Text) : read? ('\\' :: c :: p) = (read? p).map (.literal c :: ·) := by
  rw [read?]

theorem read?_cons {c : Char} (hc : c ≠ '\\') (p : Text) : read? (c :: p) = (read? p).map (Item.ofChar c :: ·) := by
  rw [read?]
  · exact fun h => absurd h hc
  · exact fun _ _ h => absurd h hc

/-- A character that begins no escape, neither a whole one nor a dangling one. -/
theorem ne_escape {c : Char} {p : Text} (hlone : c = '\\' → p = [] → False)
    (hescape : ∀ d q, c = '\\' → p = d :: q → False) : c ≠ '\\' := by
  rintro rfl
  cases p with
  | nil => exact hlone rfl rfl
  | cons d q => exact hescape d q rfl rfl

theorem read?_append {a : Text} {items : List Item} (h : read? a = some items) (p : Text) :
    read? (a ++ p) = (read? p).map (items ++ ·) := by
  fun_induction read? a generalizing items with
  | case1 =>
    cases h
    simp
  | case2 => cases h
  | case3 c a ih =>
    obtain ⟨items, ha, rfl⟩ := Option.map_eq_some_iff.1 h
    simp [read?_escape, ih ha, Function.comp_def]
  | case4 c a hlone hescape ih =>
    obtain ⟨items, ha, rfl⟩ := Option.map_eq_some_iff.1 h
    simp [read?_cons (ne_escape hlone hescape), ih ha, Function.comp_def]

/-- A pattern fails to read in one way only. -/
theorem read?_eq_none_iff {p : Text} : read? p = none ↔ Dangling p := by
  constructor
  · intro h
    fun_induction read? p with
    | case1 => cases h
    | case2 => exact ⟨[], [], rfl, rfl⟩
    | case3 c p ih =>
      obtain ⟨q, items, rfl, hq⟩ := ih (Option.map_eq_none_iff.1 h)
      exact ⟨'\\' :: c :: q, _, rfl, by rw [read?_escape, hq, Option.map_some]⟩
    | case4 c p hlone hescape ih =>
      have hc := ne_escape hlone hescape
      obtain ⟨q, items, rfl, hq⟩ := ih (Option.map_eq_none_iff.1 h)
      exact ⟨c :: q, _, rfl, by rw [read?_cons hc, hq, Option.map_some]⟩
  · rintro ⟨q, items, rfl, hq⟩
    rw [read?_append hq]
    rfl

/-! ## What a pattern matches -/

theorem takes_run {p : List Item} {t : Text} : takes (.run :: p) t = true ↔ ∃ r, r <:+ t ∧ takes p r = true := by
  rw [takes, List.any_eq_true]
  exact exists_congr fun r => and_congr_left' (List.mem_tails r t)

/-- A run at the end takes up all that is left. -/
theorem takes_last_run (t : Text) : takes [.run] t = true := takes_run.2 ⟨[], List.nil_suffix, rfl⟩

/-- Literal items take up their own characters. -/
theorem takes_literals {v : Text} {p : List Item} {t : Text} :
    takes (v.map .literal ++ p) t = true ↔ ∃ r, t = v ++ r ∧ takes p r = true := by
  induction v generalizing t with
  | nil => simp
  | cons c v ih =>
    cases t with
    | nil => simp [takes]
    | cons d t =>
      simp only [List.map_cons, List.cons_append, takes, List.head?_cons, List.tail_cons, Bool.and_eq_true,
        beq_iff_eq, Option.some.injEq, List.cons.injEq, ih]
      constructor
      · rintro ⟨rfl, r, rfl, hr⟩
        exact ⟨r, ⟨rfl, rfl⟩, hr⟩
      · rintro ⟨r, ⟨rfl, rfl⟩, hr⟩
        exact ⟨rfl, r, rfl, hr⟩

/-! ## Escaped values -/

theorem escapeLike_cons (c : Char) (v : Text) :
    Param.escapeLike (c :: v) = Param.escapeLike [c] ++ Param.escapeLike v := by
  simp [Param.escapeLike]

theorem read?_escapeLike_singleton (c : Char) : read? (Param.escapeLike [c]) = some [.literal c] := by
  by_cases hc : c = '\\' ∨ c = '%' ∨ c = '_'
  · simp [Param.escapeLike, hc, read?]
  · have hplain : Item.ofChar c = .literal c := by
      rw [Item.ofChar, if_neg fun h => hc (.inr (.inl h)), if_neg fun h => hc (.inr (.inr h))]
    simp [Param.escapeLike, hc, read?_cons fun h => hc (.inl h), hplain, read?]

/-- The escaped form of a value reads as the characters of the value. -/
theorem read?_escapeLike (v : Text) : read? (Param.escapeLike v) = some (v.map .literal) := by
  induction v with
  | nil => rfl
  | cons c v ih =>
    rw [escapeLike_cons, read?_append (read?_escapeLike_singleton c), ih]
    rfl

/-- The text with every occurrence of a character replaced. -/
def replace (s : Text) (c : Char) (new : Text) : Text := s.flatMap fun d => if d = c then new else [d]

/-- Escaping the characters in one pass is replacing one after the other in the whole text, the escape character first:
so no replacement touches what an earlier one has written. -/
theorem escapeLike_eq_replace (v : Text) : Param.escapeLike v =
    replace (replace (replace v '\\' ['\\', '\\']) '%' ['\\', '%']) '_' ['\\', '_'] := by
  simp only [Param.escapeLike, replace, List.flatMap_assoc]
  refine List.flatMap_congr fun c _ => ?_
  by_cases hescape : c = '\\'
  · subst hescape; rfl
  · by_cases hrun : c = '%'
    · subst hrun; rfl
    · by_cases hone : c = '_'
      · subst hone; rfl
      · simp [hescape, hrun, hone]

/-- Values match literally. The pattern of a value, its escaped form between two runs, reads, and it matches the texts
that contain the value and no other; the escaped form leaves no escape dangling. -/
theorem like?_escapeLike (v t : Text) :
    like? ('%' :: Param.escapeLike v ++ ['%']) t = some (decide (v <:+: t)) ∧ ¬ Dangling (Param.escapeLike v) ∧
      Param.escapeLike v = replace (replace (replace v '\\' ['\\', '\\']) '%' ['\\', '%']) '_' ['\\', '_'] := by
  refine ⟨?_, fun h => ?_, escapeLike_eq_replace v⟩
  · have hread : read? ('%' :: Param.escapeLike v ++ ['%']) = some (.run :: (v.map .literal ++ [.run])) := by
      rw [List.cons_append, read?_cons (by decide), read?_append (read?_escapeLike v)]
      rfl
    rw [like?, hread, Option.map_some, Option.some.injEq, Bool.eq_iff_iff, decide_eq_true_iff, takes_run]
    constructor
    · rintro ⟨r, hr, htakes⟩
      obtain ⟨u, rfl, -⟩ := takes_literals.1 htakes
      exact (List.prefix_append v u).isInfix.trans hr.isInfix
    · rintro ⟨a, u, rfl⟩
      refine ⟨v ++ u, ⟨a, (List.append_assoc a v u).symm⟩, takes_literals.2 ⟨u, rfl, takes_last_run u⟩⟩
  · rw [← read?_eq_none_iff, read?_escapeLike] at h
    cases h

example : Param.escapeLike "a_b%".toList = "a\\_b\\%".toList ∧
    like? "%a\\_b\\%%".toList "xa_b%y".toList = some true ∧ like? "%a\\_b\\%%".toList "xazb%y".toList = some false ∧
    like? "%a_b%%".toList "xazb%y".toList = some true := by decide +kernel

end SensorRegistry.Like
