/-
The order of texts by their code points is a linear one: any two texts are in order one way round, and both ways only if
they are one text. So a list of texts has one sorted form, whatever the order in which its texts come.
-/
import SensorRegistry.Text
import Mathlib.Data.List.Basic

namespace SensorRegistry.Text

theorem ascending_cons_iff {c d : Char} {s t : Text} :
    ascending (c :: s) (d :: t) = true ↔ c.toNat < d.toNat ∨ c = d ∧ ascending s t = true := by
  simp [ascending]

theorem ascending_total (s t : Text) : (ascending s t || ascending t s) = true := by
  induction s generalizing t with
  | nil => rfl
  | cons c s ih =>
    cases t with
    | nil => rfl
    | cons d t =>
      rw [Bool.or_eq_true, ascending_cons_iff, ascending_cons_iff]
      rcases Nat.lt_trichotomy c.toNat d.toNat with h | h | h
      · exact .inl (.inl h)
      · have hcd : c = d := Char.toNat_inj.1 h
        rcases Bool.or_eq_true _ _ ▸ ih t with hst | hts
        · exact .inl (.inr ⟨hcd, hst⟩)
        · exact .inr (.inr ⟨hcd.symm, hts⟩)
      · exact .inr (.inl h)

theorem ascending_trans {s t u : Text} (hst : ascending s t = true) (htu : ascending t u = true) :
    ascending s u = true := by
  induction s generalizing t u with
  | nil => rfl
  | cons c s ih =>
    match t, u, hst, htu with
    | d :: t, e :: u, hst, htu =>
      rw [ascending_cons_iff] at hst htu ⊢
      rcases hst with hcd | ⟨rfl, hst⟩
      · rcases htu with hde | ⟨rfl, -⟩
        · exact .inl (Nat.lt_trans hcd hde)
        · exact .inl hcd
      · rcases htu with hce | ⟨rfl, htu⟩
        · exact .inl hce
        · exact .inr ⟨rfl, ih hst htu⟩

theorem ascending_antisymm {s t : Text} (hst : ascending s t = true) (hts : ascending t s = true) : s = t := by
  induction s generalizing t with
  | nil =>
    cases t with
    | nil => rfl
    | cons d t => cases hts
  | cons c s ih =>
    cases t with
    | nil => cases hst
    | cons d t =>
      rw [ascending_cons_iff] at hst hts
      rcases hst with hcd | ⟨rfl, hst⟩
      · rcases hts with hdc | ⟨rfl, -⟩ <;> omega
      · rcases hts with hcc | ⟨-, hts⟩
        · omega
        · rw [ih hst hts]

/-! ## Sorted lists -/

/-- The texts of the list stand in ascending order. -/
def Sorted (ts : List Text) : Prop := ts.Pairwise fun s t => ascending s t = true

instance (ts : List Text) : Decidable (Sorted ts) := inferInstanceAs (Decidable (ts.Pairwise _))

theorem sorted_mergeSort (ts : List Text) : Sorted (ts.mergeSort ascending) := by
  refine List.pairwise_mergeSort ?_ ascending_total ts
  exact fun _ _ _ => ascending_trans

theorem Sorted.eq_of_perm {ts us : List Text} (hts : Sorted ts) (hus : Sorted us) (h : ts.Perm us) : ts = us :=
  List.Perm.eq_of_pairwise (fun _ _ _ _ => ascending_antisymm) hts hus h

/-- Sorting does not see the order in which the texts come. -/
theorem mergeSort_congr {ts us : List Text} (h : ts.Perm us) : ts.mergeSort ascending = us.mergeSort ascending :=
  (sorted_mergeSort ts).eq_of_perm (sorted_mergeSort us)
    ((List.mergeSort_perm ts ascending).trans (h.trans (List.mergeSort_perm us ascending).symm))

end SensorRegistry.Text
