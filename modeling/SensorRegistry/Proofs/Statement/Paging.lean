/-
Paging behind an order. A new order key takes the place of the leading one, whose placeholders go with
it while their parameters stay. Paging numbers its placeholders by the text, so limit and offset are
bound exactly as long as no placeholder above all others went with the key.
-/
import SensorRegistry.Proofs.Statement.Binding

namespace SensorRegistry

/-! ## The placeholders of the leading key -/

/-- The leading key of the statement's order has no placeholder above all others of the statement. -/
def Sql.LeadingKeyCovered (s : Text) : Prop :=
  ∀ span ∈ leadingKeySpan? s, Placeholder.last (span.text s) ≤
    max (Placeholder.last (takeBytes span.start s)) (Placeholder.last (dropBytes span.stop s))

instance (s : Text) : Decidable (Sql.LeadingKeyCovered s) :=
  inferInstanceAs (Decidable (∀ span ∈ Sql.leadingKeySpan? s, _))

namespace Placeholder

theorem last_le_greatest (s : Text) : last s ≤ greatest := by
  rw [last_eq]
  unfold highest
  induction runs s with
  | nil => exact Nat.zero_le _
  | cons d ds ih => exact Nat.max_le.2 ⟨Nat.min_le_left _ _, ih⟩

/-- A key without placeholders lowers the highest index exactly when it takes that index away. -/
theorem last_insertOrder {s key : Text} (hk : key ≠ []) (hd : '$' ∉ key) :
    last (Sql.insertOrder s key) ≤ last s ∧
      (last (Sql.insertOrder s key) = last s ↔ Sql.LeadingKeyCovered s) := by
  have hkey : highest (runs key) = 0 := by rw [runs_of_no_dollar hd]; rfl
  cases h : Sql.leadingKeySpan? s with
  | none =>
    obtain ⟨pre, post, h1, h2⟩ := runs_insertOrder_clause h hk
    have heq : last (Sql.insertOrder s key) = last s := by
      rw [last_eq, last_eq, h1, h2, highest_append, highest_append, highest_append, hkey, Nat.max_zero]
    refine ⟨heq.le, fun _ span hspan => ?_, fun _ => heq⟩
    rw [h] at hspan
    cases hspan
  | some span =>
    obtain ⟨h1, h2⟩ := runs_insertOrder_key h hk
    have hcovered : Sql.LeadingKeyCovered s ↔ last (span.text s) ≤
        max (last (Sql.takeBytes span.start s)) (last (Sql.dropBytes span.stop s)) := by
      unfold Sql.LeadingKeyCovered
      rw [h]
      simp
    have hold : last s = max (max (last (Sql.takeBytes span.start s)) (last (span.text s)))
        (last (Sql.dropBytes span.stop s)) := by
      rw [last_eq s, h1, highest_append, highest_append, last_eq, last_eq, last_eq]
    have hnew : last (Sql.insertOrder s key) = max (last (Sql.takeBytes span.start s))
        (last (Sql.dropBytes span.stop s)) := by
      rw [last_eq (Sql.insertOrder s key), h2, highest_append, highest_append, hkey, Nat.max_zero, last_eq, last_eq]
    rw [hcovered]
    omega

end Placeholder

namespace Statement

theorem orderKey?_no_dollar {group : FilterGroup} {columns : Columns} {key : Text} (hcol : columns.All ('$' ∉ ·))
    (h : group.orderKey? columns = some key) : '$' ∉ key := by
  rw [orderKey?_eq_map, Option.map_eq_some_iff] at h
  obtain ⟨column, hc, rfl⟩ := h
  obtain ⟨field, -, hfield⟩ := Option.bind_eq_some_iff.1 hc
  have hdir : '$' ∉ ' ' :: group.direction.sql := by cases group.direction <;> decide
  exact List.not_mem_append (hcol.orders hfield) hdir

/-- Ordering comes last: the statement is filtered first, and the key is put into the result. -/
theorem applyFilter_unordered {s s' : Statement} {group : FilterGroup} {columns : Columns}
    (h : s.applyFilter group columns = .ok s') :
    ∃ u, s.applyFilter { group with order := none } columns = .ok u ∧ s'.params = u.params ∧
      s'.sql = match group.orderKey? columns with
        | some key => Sql.insertOrder u.sql key
        | none => u.sql := by
  obtain ⟨ts, sql, hts, hsql, rfl⟩ := applyFilter_eq_ok_iff.1 h
  obtain ⟨w, hw, rfl⟩ := splice_eq_ok_iff.1 hsql
  exact ⟨⟨w, s.params ++ ts.map (·.2)⟩, applyFilter_eq_ok_iff.2 ⟨ts, w, hts, splice_eq_ok_iff.2 ⟨w, hw, rfl⟩, rfl⟩,
    rfl, rfl⟩

/-! ## Pages -/

/-- The placeholders at the end of a page are the two behind the highest one of the statement, so it
is these that have to name the limit and the offset. -/
theorem paginate_binds_iff {s : Statement} {page : Page} :
    Step.Binds s (s.paginate page) (.paginate page) ↔
      (s.paginate page).value? (Placeholder.last s.sql + 1) = some (.int page.limit) ∧
        (s.paginate page).value? (Placeholder.last s.sql + 1 + 1) = some (.int page.offset) := by
  constructor
  · rintro ⟨a, b, ⟨pre, hpre⟩, ha, hb⟩
    have hruns : Placeholder.runs pre ++ [Text.ofNat a, Text.ofNat b] = Placeholder.runs s.sql ++
        [Text.ofNat (Placeholder.last s.sql + 1), Text.ofNat (Placeholder.last s.sql + 1 + 1)] := by
      have h := congrArg Placeholder.runs hpre
      rwa [Placeholder.runs_append (by simp), runs_pageTail, paginate, runs_pageText] at h
    obtain ⟨-, htail⟩ := List.append_inj' hruns rfl
    simp only [List.cons.injEq, and_true] at htail
    obtain ⟨hla, hlb⟩ := htail
    exact ⟨Placeholder.ofNat_inj hla ▸ ha, Placeholder.ofNat_inj hlb ▸ hb⟩
  · rintro ⟨ha, hb⟩
    exact ⟨_, _, ⟨inner s.sql, (pageText_eq s.sql).symm⟩, ha, hb⟩

/-- Every page of a statement is bound exactly when the statement is numbered: below the end of the
parameters, the placeholder of the limit names a parameter that no page changes. -/
theorem paginate_binds_all_iff {s : Statement} (hle : Placeholder.last s.sql ≤ s.params.length) :
    (∀ page, Step.Binds s (s.paginate page) (.paginate page)) ↔ s.Numbered := by
  constructor
  · intro h
    by_contra hne
    -- two pages with different limits would agree on the parameter that the placeholder names
    have hlt : Placeholder.last s.sql < s.params.length := Nat.lt_of_le_of_ne hle hne
    have fixed : ∀ page : Page, s.params[Placeholder.last s.sql]? = some (.int page.limit) := fun page => by
      have hlimit := (paginate_binds_iff.1 (h page)).1
      rwa [value?, Nat.add_sub_cancel, paginate, List.getElem?_append_left hlt] at hlimit
    have := (fixed ⟨0, 0, 0⟩).symm.trans (fixed ⟨0, 1, 0⟩)
    simp at this
  · intro hs page
    have hplain : (Step.paginate page).Plain := trivial
    exact perform_binds hs hplain

/-- Ordering then paging: of a numbered statement that a group filters and orders, every page binds
its limit and its offset exactly when the parameters do not outrun the indices and the order key,
if there is one, replaces no key with a placeholder above all others of the filtered statement. -/
theorem paginate_applyFilter_binds_iff {s s' : Statement} {group : FilterGroup} {columns : Columns} (hs : s.Numbered)
    (hcol : columns.All ('$' ∉ ·)) (h : s.applyFilter group columns = .ok s') :
    ∃ u, s.applyFilter { group with order := none } columns = .ok u ∧
      ((∀ page, Step.Binds s' (s'.paginate page) (.paginate page)) ↔ s'.params.length ≤ Placeholder.greatest ∧
        (group.orderKey? columns ≠ none → Sql.LeadingKeyCovered u.sql)) := by
  obtain ⟨u, hu, hparams, hsql⟩ := applyFilter_unordered h
  refine ⟨u, hu, ?_⟩
  by_cases hlen : s'.params.length ≤ Placeholder.greatest
  · obtain ⟨added, hins⟩ := applyFilter_inserted hs rfl hcol hu
    have hnum : u.Numbered := hins.numbered hs (hparams ▸ hlen)
    rw [Numbered, ← hparams] at hnum
    cases hkey : group.orderKey? columns with
    | none =>
      simp only [hkey] at hsql
      rw [← hsql] at hnum
      rw [paginate_binds_all_iff hnum.le]
      simp [Numbered, hnum, hlen]
    | some key =>
      simp only [hkey] at hsql
      obtain ⟨hle, heq⟩ := Placeholder.last_insertOrder (s := u.sql) (orderKey?_ne_nil hkey)
        (orderKey?_no_dollar hcol hkey)
      rw [← hsql, hnum] at hle heq
      rw [paginate_binds_all_iff hle, Numbered, heq]
      simp [hlen]
  · -- more parameters than indices: the placeholders cannot reach the last parameter
    have hlt := Placeholder.last_le_greatest s'.sql
    rw [paginate_binds_all_iff (by omega), Numbered]
    omega

/-- The parameter of a replaced key stays behind, and a page's limit is bound to it. -/
theorem paginate_applyFilter_binds_replaced_key :
    let s : Statement := ⟨"SELECT * FROM t ORDER BY $1, id".toList, [.int 7]⟩
    let columns : Columns := ⟨[], [("name".toList, "name".toList)]⟩
    let group : FilterGroup := ⟨[], some "name".toList, .ascending⟩
    ∃ s', s.applyFilter group columns = .ok s' ∧ ¬ ∀ page, Step.Binds s' (s'.paginate page) (.paginate page) := by
  intro s columns group
  have hs : s.Numbered := by decide +kernel
  have hcol : columns.All ('$' ∉ ·) := Columns.all_of_entries (by decide) (by decide)
  have h : s.applyFilter group columns =
      .ok ⟨"SELECT * FROM t ORDER BY name ASC NULLS FIRST, id".toList, [.int 7]⟩ := by decide +kernel
  refine ⟨_, h, fun hbinds => ?_⟩
  obtain ⟨u, hu, hiff⟩ := paginate_applyFilter_binds_iff hs hcol h
  have hu' : s.applyFilter { group with order := none } columns = .ok s := by decide +kernel
  obtain rfl := Except.ok.inj (hu.symm.trans hu')
  have hcovered := (hiff.1 hbinds).2 (by decide)
  exact absurd hcovered (by decide +kernel)

end Statement

end SensorRegistry
