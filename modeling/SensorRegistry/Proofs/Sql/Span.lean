/-
Spans of a statement between character boundaries. Where a text is put together from parts, the
span that runs from the size of one prefix to the size of a longer one is exactly the part between.
-/
import SensorRegistry.Proofs.Text.Blank
import SensorRegistry.Sql.Splice
import Mathlib.Data.List.Infix

namespace SensorRegistry

/-! ## Sizes -/

theorem Text.byteSize_append (a b : Text) : byteSize (a ++ b) = byteSize a + byteSize b := by
  induction a with
  | nil => simp [byteSize]
  | cons c a ih => rw [List.cons_append, byteSize, byteSize, ih, Nat.add_assoc]

theorem Text.byteSize_pos : ∀ {s : Text}, s ≠ [] → 0 < byteSize s
  | [], h => absurd rfl h
  | c :: _, _ => by have := c.utf8Size_pos; rw [byteSize]; omega

theorem Text.byteSize_eq_zero {s : Text} (h : byteSize s = 0) : s = [] := by
  by_contra hs
  have := byteSize_pos hs
  omega

/-- Of two ways to cut a text, the one with the smaller first part cuts earlier. -/
theorem Text.cut_le {a b a' b' : Text} (h : a ++ b = a' ++ b') (hle : byteSize a ≤ byteSize a') :
    ∃ m, a' = a ++ m ∧ b = m ++ b' := by
  rcases List.append_eq_append_iff.1 h with ⟨m, h1, h2⟩ | ⟨m, h1, h2⟩
  · exact ⟨m, h1, h2⟩
  · have hm : m = [] := byteSize_eq_zero (by rw [h1, byteSize_append] at hle; omega)
    subst hm
    exact ⟨[], by simpa using h1.symm, by simpa using h2.symm⟩

namespace Sql

/-! ## Cutting -/

theorem takeBytes_zero (s : Text) : takeBytes 0 s = [] := by cases s <;> rfl

theorem dropBytes_zero (s : Text) : dropBytes 0 s = s := by cases s <;> rfl

theorem takeBytes_append (a b : Text) : takeBytes (Text.byteSize a) (a ++ b) = a := by
  induction a with
  | nil => exact takeBytes_zero b
  | cons c a ih =>
    obtain ⟨n, hn⟩ := Nat.exists_eq_succ_of_ne_zero (Text.byteSize_pos (List.cons_ne_nil c a)).ne'
    rw [hn, List.cons_append, takeBytes, ← Nat.succ_eq_add_one, ← hn, Text.byteSize, Nat.add_sub_cancel_left, ih]

theorem dropBytes_append (a b : Text) : dropBytes (Text.byteSize a) (a ++ b) = b := by
  induction a with
  | nil => exact dropBytes_zero b
  | cons c a ih =>
    obtain ⟨n, hn⟩ := Nat.exists_eq_succ_of_ne_zero (Text.byteSize_pos (List.cons_ne_nil c a)).ne'
    rw [hn, List.cons_append, dropBytes, ← Nat.succ_eq_add_one, ← hn, Text.byteSize, Nat.add_sub_cancel_left, ih]

theorem takeBytes_all (s : Text) : takeBytes (Text.byteSize s) s = s := by
  simpa using takeBytes_append s []

/-! ## Spans of a text put together -/

theorem Span.text_between (a m b : Text) :
    Span.text ⟨Text.byteSize a, Text.byteSize (a ++ m)⟩ (a ++ m ++ b) = m := by
  rw [Span.text, List.append_assoc, dropBytes_append, Text.byteSize_append, Nat.add_sub_cancel_left,
    takeBytes_append]

theorem Span.text_prefix (a b : Text) : Span.text ⟨0, Text.byteSize a⟩ (a ++ b) = a := by
  rw [Span.text, dropBytes_zero, Nat.sub_zero, takeBytes_append]

theorem Span.text_first (a m b : Text) : Span.text ⟨0, Text.byteSize a⟩ (a ++ m ++ b) = a := by
  rw [List.append_assoc, text_prefix]

theorem Span.text_suffix (a b : Text) :
    Span.text ⟨Text.byteSize a, Text.byteSize (a ++ b)⟩ (a ++ b) = b := by
  rw [Span.text, dropBytes_append, Text.byteSize_append, Nat.add_sub_cancel_left, takeBytes_all]

/-! ## The body of a statement -/

theorem body_of_blank {a e : Text} (ha : ∀ c ∈ a.getLast?, Text.isBlank c = false)
    (hs : a.getLast? ≠ some ';') (he : Text.AllBlank e) : body (a ++ e) = a := by
  unfold body
  rw [Text.trimEnd_append_blank he, Text.trimEnd_eq_self ha]
  exact if_neg hs

theorem body_of_semicolon {a x y : Text} (ha : ∀ c ∈ a.getLast?, Text.isBlank c = false)
    (hx : Text.AllBlank x) (hy : Text.AllBlank y) : body (a ++ (x ++ ';' :: y)) = a := by
  have h : Text.trimEnd (a ++ (x ++ ';' :: y)) = a ++ x ++ [';'] := by
    rw [show a ++ (x ++ ';' :: y) = a ++ x ++ [';'] ++ y by simp, Text.trimEnd_append_blank hy]
    refine Text.trimEnd_eq_self fun c hc => ?_
    rw [List.getLast?_append_of_ne_nil _ (List.cons_ne_nil _ _)] at hc
    cases hc; decide
  unfold body
  rw [h, if_pos (by simp)]
  rw [List.dropLast_concat, Text.trimEnd_append_blank hx, Text.trimEnd_eq_self ha]

/-- Behind the body of a statement there is white space only, with at most one semicolon in it. -/
inductive Trailing (body : Text) : Text → Prop
  | blank {e : Text} : Text.AllBlank e → body.getLast? ≠ some ';' → Trailing body e
  | semicolon {x y : Text} : Text.AllBlank x → Text.AllBlank y → Trailing body (x ++ ';' :: y)

theorem body_of_trailing {a e : Text} (ha : ∀ c ∈ a.getLast?, Text.isBlank c = false) (he : Trailing a e) :
    body (a ++ e) = a := by
  cases he with
  | blank hblank hs => exact body_of_blank ha hs hblank
  | semicolon hx hy => exact body_of_semicolon ha hx hy

theorem exists_body (s : Text) :
    ∃ e, s = body s ++ e ∧ Trailing (body s) e ∧ ∀ c ∈ (body s).getLast?, Text.isBlank c = false := by
  obtain ⟨y, hy, h⟩ := Text.exists_trimEnd s
  have hlast := Text.getLast_trimEnd s
  by_cases hs : (Text.trimEnd s).getLast? = some ';'
  · obtain ⟨a, ha⟩ := List.getLast?_eq_some_iff.1 hs
    obtain ⟨x, hx, h'⟩ := Text.exists_trimEnd a
    have hb : body s = Text.trimEnd a := by
      unfold body
      rw [if_pos hs, ha, List.dropLast_concat]
    refine ⟨x ++ ';' :: y, ?_, .semicolon hx hy, hb ▸ Text.getLast_trimEnd a⟩
    rw [hb, ← List.append_assoc, ← h', h, ha]
    simp
  · have hb : body s = Text.trimEnd s := if_neg hs
    exact ⟨y, hb ▸ h, .blank hy (hb ▸ hs), hb ▸ hlast⟩

theorem trailing_of_body {a t : Text} (h : body (a ++ t) = a) :
    Trailing a t ∧ ∀ c ∈ a.getLast?, Text.isBlank c = false := by
  obtain ⟨e, hs, he, hlast⟩ := exists_body (a ++ t)
  rw [h] at hs he hlast
  obtain rfl := List.append_cancel_left hs
  exact ⟨he, hlast⟩

end Sql

end SensorRegistry
