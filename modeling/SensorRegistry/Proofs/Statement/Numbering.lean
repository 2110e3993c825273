/-
Numbers and literals. The scan for the highest placeholder looks at characters alone, so the digits behind a `$` in a
literal count like a placeholder. Of two statements with the same code and other literals, the new placeholders have the
same numbers exactly when neither has a literal that reaches above its code, or both reach equally high.
-/
import SensorRegistry.Proofs.Sql.Literal
import SensorRegistry.Proofs.Statement.Run

namespace SensorRegistry

namespace Placeholder

/-- The highest index in any of the stretches. -/
def highestIn (stretches : List Text) : Nat := (stretches.map last).foldr max 0

theorem last_quote (a b : Text) : last (a ++ '\'' :: b) = max (last a) (last b) := by
  rw [last_eq, runs_separated (by decide) (by decide), highest_append, last_eq, last_eq]

/-- The highest index of a statement is that of its code or that of its literals. -/
theorem last_eq_max {s : Text} (hs : Sql.Closed s) :
    last s = max (highestIn (Sql.code s)) (highestIn (Sql.literals s)) := by
  induction hs with
  | plain hc =>
    rw [Sql.code_plain hc, Sql.literals_plain hc]
    simp [highestIn]
  | literal hc hl _ ih =>
    rw [last_quote, last_quote, ih, Sql.code_literal hc hl, Sql.literals_literal hc hl]
    simp only [highestIn, List.map_cons, List.foldr_cons]
    omega

end Placeholder

namespace Statement

/-- The condition that a filter compiles to tells the index that its placeholder follows. -/
theorem last_eq_of_ofGroup {m n : Nat}
    (h : ∀ columns group, Condition.ofGroup columns group m = Condition.ofGroup columns group n) : m = n := by
  let columns : Columns := ⟨[([], [])], []⟩
  let group : FilterGroup := ⟨[⟨[], .equals, [], .string⟩], none, .ascending⟩
  have hmapped : Condition.mapped columns group = [([], ⟨[], .equals, [], .string⟩)] := by decide
  have hok : ∀ n, Condition.ofGroup columns group n = .ok ⟨'=' :: Placeholder.write (n + 1), [.text []]⟩ := fun n =>
    Condition.ofGroup_eq_ok_iff.2 ⟨[('=' :: Placeholder.write (n + 1), .text [])], hmapped ▸ .cons rfl rfl .nil,
      by simp [Text.join_singleton]⟩
  have hfilter := h columns group
  rw [hok, hok] at hfilter
  injection hfilter with hfilter
  injection hfilter with hsql
  injection hsql with _ hwrite
  injection hwrite with _ hdigits
  exact Nat.succ.inj (Placeholder.ofNat_inj hdigits)

/-- The tail of a page tells the index that its placeholders follow. -/
theorem last_eq_iff_pageText {s s' : Text} :
    (∃ tail, pageText s = inner s ++ tail ∧ pageText s' = inner s' ++ tail) ↔
      Placeholder.last s = Placeholder.last s' := by
  constructor
  · rintro ⟨tail, h, h'⟩
    rw [pageText_eq] at h h'
    have htail := congrArg Placeholder.runs ((List.append_cancel_left h).trans (List.append_cancel_left h').symm)
    rw [runs_pageTail, runs_pageTail] at htail
    injection htail with hlimit
    exact Nat.succ.inj (Placeholder.ofNat_inj hlimit)
  · intro h
    exact ⟨_, pageText_eq s, h ▸ pageText_eq s'⟩

/-- Two statements with closed literals and one code continue with the same numbers, in every condition that is put into
them and in their pages, exactly when the placeholders that are read in their literals do not matter: none is above the
highest one of the code, or the highest of them is the same in both. -/
theorem numbering_agrees_iff {s s' : Text} (hs : Sql.Closed s) (hs' : Sql.Closed s') (h : Sql.code s = Sql.code s') :
    let own := Placeholder.highestIn (Sql.code s)
    let quoted := Placeholder.highestIn (Sql.literals s)
    let quoted' := Placeholder.highestIn (Sql.literals s')
    (Placeholder.last s = Placeholder.last s' ↔ (quoted ≤ own ∧ quoted' ≤ own) ∨ quoted = quoted') ∧
      ((∀ columns group, Condition.ofGroup columns group (Placeholder.last s) =
        Condition.ofGroup columns group (Placeholder.last s')) ↔ Placeholder.last s = Placeholder.last s') ∧
      ((∃ tail, pageText s = inner s ++ tail ∧ pageText s' = inner s' ++ tail) ↔
        Placeholder.last s = Placeholder.last s') := by
  intro own quoted quoted'
  refine ⟨?_, ⟨last_eq_of_ofGroup, fun h columns group => by rw [h]⟩, last_eq_iff_pageText⟩
  have hlast : Placeholder.last s = max own quoted := Placeholder.last_eq_max hs
  have hlast' : Placeholder.last s' = max own quoted' := by
    rw [Placeholder.last_eq_max hs', ← h]
  rw [hlast, hlast']
  omega

/-- A price in a literal moves the placeholders of a page five on: two statements that differ in this literal alone do
not continue with the same numbers. -/
theorem numbering_agrees_iff_price :
    let s := "SELECT * FROM t WHERE note='costs $5'".toList
    let s' := "SELECT * FROM t WHERE note='x'".toList
    (Sql.Closed s ∧ Sql.Closed s' ∧ Sql.code s = Sql.code s') ∧
      Placeholder.last s = 5 ∧ Placeholder.last s' = 0 ∧
      ¬ ∃ tail, pageText s = inner s ++ tail ∧ pageText s' = inner s' ++ tail := by
  intro s s'
  have hs : Sql.Closed s := by decide +kernel
  have hs' : Sql.Closed s' := by decide +kernel
  have hcode : Sql.code s = Sql.code s' := by decide +kernel
  obtain ⟨hlast, -, hpage⟩ := numbering_agrees_iff hs hs' hcode
  refine ⟨⟨hs, hs', hcode⟩, by decide +kernel, by decide +kernel, fun h => ?_⟩
  have hagree := hlast.1 (hpage.1 h)
  revert hagree
  decide +kernel

end Statement

end SensorRegistry
