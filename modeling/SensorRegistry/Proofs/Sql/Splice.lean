/-
What a splice makes of a statement. Each insertion is one equation: the statement is cut at known
places, the parts are trimmed and joined. A reading that neither the blanks nor the marks at the
joints disturb reads the new statement part by part.
-/
import SensorRegistry.Proofs.Sql.Clause

namespace SensorRegistry.Sql

/-! ## Joining parts -/

theorem prefix_attach (out part : Text) : out <+: attach out part := by
  unfold attach
  split
  · exact List.prefix_append _ _
  · exact List.prefix_append _ _

theorem suffix_attach (out part : Text) : part <:+ attach out part := by
  unfold attach
  split
  · exact List.suffix_append _ _
  · exact (List.suffix_cons _ _).trans (List.suffix_append _ _)

theorem prefix_foldl_attach (parts : List Text) (out : Text) : out <+: parts.foldl attach out := by
  induction parts generalizing out with
  | nil => exact List.prefix_refl _
  | cons p parts ih => exact (prefix_attach out p).trans (ih _)

theorem infix_foldl_attach {parts : List Text} {p : Text} (hp : p ∈ parts) (out : Text) :
    p <:+: parts.foldl attach out := by
  induction parts generalizing out with
  | nil => cases hp
  | cons q parts ih =>
    rw [List.foldl_cons]
    rcases List.mem_cons.1 hp with rfl | hp
    · exact (suffix_attach out p).isInfix.trans (prefix_foldl_attach parts _).isInfix
    · exact ih hp _

/-- Every part is in the joined text, in one piece. -/
theorem infix_joinParts {parts : List Text} {p : Text} (hp : p ∈ parts) : Text.trim p <:+: joinParts parts := by
  by_cases hne : Text.trim p = []
  · rw [hne]; exact List.nil_infix
  · refine infix_foldl_attach (List.mem_filter.2 ⟨List.mem_map_of_mem hp, ?_⟩) []
    simpa using hne

/-- A reading that does not see the white space at the ends of the parts finds nothing in those left out. -/
theorem flatMap_trim {α : Type} {f : Text → List α} (hnil : f [] = []) {parts : List Text}
    (h : ∀ p ∈ parts, f (Text.trim p) = f p) :
    ((parts.map Text.trim).filter (! ·.isEmpty)).flatMap f = parts.flatMap f := by
  induction parts with
  | nil => rfl
  | cons p parts ih =>
    rw [List.map_cons, List.flatMap_cons, ← ih fun q hq => h q (List.mem_cons_of_mem p hq), ← h p List.mem_cons_self]
    cases hp : Text.trim p with
    | nil => rw [List.filter_cons_of_neg (by simp), hnil, List.nil_append]
    | cons c q => rw [List.filter_cons_of_pos (by simp), List.flatMap_cons]

/-- A reading that white space and the marks `;` and `,` separate. -/
structure MarkSeparated {α : Type} (f : Text → List α) : Prop extends Text.BlankSeparated f where
  mark : ∀ a b, b.head? = some ';' ∨ b.head? = some ',' → f (a ++ b) = f a ++ f b

section Reading

variable {α : Type} {f : Text → List α} (hf : MarkSeparated f)
include hf

theorem MarkSeparated.attach (out part : Text) : f (attach out part) = f out ++ f part := by
  unfold Sql.attach
  split
  · rename_i h
    rcases h with h | h
    · rw [List.isEmpty_iff.1 h, hf.nil]; rfl
    · exact hf.mark out part h
  · exact hf.blank out ' ' part (by decide)

theorem MarkSeparated.foldl_attach (parts : List Text) (out : Text) :
    f (parts.foldl Sql.attach out) = f out ++ parts.flatMap f := by
  induction parts generalizing out with
  | nil => simp
  | cons p parts ih => rw [List.foldl_cons, ih, hf.attach, List.flatMap_cons, List.append_assoc]

theorem MarkSeparated.joinParts (parts : List Text) : f (joinParts parts) = parts.flatMap f := by
  unfold Sql.joinParts
  rw [hf.foldl_attach, hf.nil, List.nil_append, flatMap_trim hf.nil fun p _ => hf.trim p]

end Reading

/-! ## Conditions -/

/-- The statement's own condition as the new one finds it: in parentheses if it binds less tightly
than AND. -/
def ownCondition (m : Text) : Text :=
  if isDisjunction (Text.trim m) then '(' :: Text.trim m ++ [')'] else m

theorem insertWhere_nil (s : Text) : insertWhere s [] = .ok s := rfl

theorem wherePlan_condition {b m t : Text} (hopen : Opens "WHERE".toList b (m ++ t))
    (hcut : ClauseCut whereTerminators b m t) (f : Text) :
    wherePlan (b ++ m ++ t) f = .ok [.kept ⟨0, Text.byteSize b⟩, .added f, .added "AND".toList,
      (if isDisjunction (Text.trim m) then Piece.grouped else Piece.kept) ⟨Text.byteSize b, Text.byteSize (b ++ m)⟩,
      .kept ⟨Text.byteSize (b ++ m), Text.byteSize (b ++ m ++ t)⟩] := by
  unfold wherePlan
  rw [conditionSpan?_eq hopen hcut]
  simp only [Span.text_between]
  split <;> rfl

theorem insertWhere_condition {b m t f : Text} (hopen : Opens "WHERE".toList b (m ++ t))
    (hcut : ClauseCut whereTerminators b m t) (hf : f ≠ []) :
    insertWhere (b ++ m ++ t) f = .ok (joinParts [b, f, "AND".toList, ownCondition m, t]) := by
  have hfe : f.isEmpty = false := by simpa using hf
  unfold insertWhere
  rw [hfe, wherePlan_condition hopen hcut]
  simp only [Bool.false_eq_true, if_false, Except.map, assemble, List.map_cons, List.map_nil]
  unfold ownCondition
  split <;> simp only [Piece.text, Span.text_first, Span.text_between, Span.text_suffix]

theorem wherePlan_table {b rest : Text} (hnone : conditionSpan? (b ++ rest) = none) (hopen : Opens "FROM".toList b rest)
    (f : Text) :
    ∃ m t, rest = m ++ t ∧ tableEnd (b ++ rest) (Text.byteSize b) = Text.byteSize (b ++ m) ∧
      (∀ c ∈ t.head?, c = ' ' ∨ c = ';') ∧
      wherePlan (b ++ rest) f = .ok [.kept ⟨0, Text.byteSize (b ++ m)⟩, .added "WHERE".toList, .added f,
        .kept ⟨Text.byteSize (b ++ m), Text.byteSize (b ++ rest)⟩] := by
  obtain ⟨pos, hpos, hb⟩ := hopen.find
  have hstart : pos + "FROM".length = Text.byteSize b := hb
  obtain ⟨m, t, rfl, hend, ht⟩ := exists_tableEnd b rest
  refine ⟨m, t, rfl, hend, ht, ?_⟩
  unfold wherePlan
  rw [hnone, hpos]
  simp only [hstart, hend]

theorem insertWhere_table {b rest f : Text} (hnone : conditionSpan? (b ++ rest) = none)
    (hopen : Opens "FROM".toList b rest) (hf : f ≠ []) :
    ∃ m t, rest = m ++ t ∧ tableEnd (b ++ rest) (Text.byteSize b) = Text.byteSize (b ++ m) ∧
      (∀ c ∈ t.head?, c = ' ' ∨ c = ';') ∧
      insertWhere (b ++ rest) f = .ok (joinParts [b ++ m, "WHERE".toList, f, t]) := by
  have hfe : f.isEmpty = false := by simpa using hf
  obtain ⟨m, t, rfl, hend, ht, hplan⟩ := wherePlan_table hnone hopen f
  refine ⟨m, t, rfl, hend, ht, ?_⟩
  unfold insertWhere
  rw [hfe, hplan]
  simp only [Bool.false_eq_true, if_false, Except.map, assemble, List.map_cons, List.map_nil, Piece.text]
  rw [← List.append_assoc, Span.text_prefix, Span.text_suffix]

theorem insertWhere_missing {s f : Text} (hnone : conditionSpan? s = none)
    (hfrom : findTopLevel s "FROM".toList 0 = none) (hf : f ≠ []) : insertWhere s f = .error (.missingFrom s) := by
  have hfe : f.isEmpty = false := by simpa using hf
  unfold insertWhere wherePlan
  rw [hfe, hnone, hfrom]
  rfl

/-- What an insertion of a condition does, when it succeeds: nothing, or it joins the parts of the
statement around the new condition. -/
theorem insertWhere_cases {s f r : Text} (h : insertWhere s f = .ok r) :
    (f = [] ∧ r = s) ∨
    (∃ b m t, s = b ++ m ++ t ∧ Opens "WHERE".toList b (m ++ t) ∧ ClauseCut whereTerminators b m t ∧
      r = joinParts [b, f, "AND".toList, ownCondition m, t]) ∨
    (∃ b m t, s = b ++ m ++ t ∧ conditionSpan? s = none ∧ Opens "FROM".toList b (m ++ t) ∧
      (∀ c ∈ t.head?, c = ' ' ∨ c = ';') ∧ r = joinParts [b ++ m, "WHERE".toList, f, t]) := by
  by_cases hf : f = []
  · subst hf
    rw [insertWhere_nil] at h
    cases h
    exact .inl ⟨rfl, rfl⟩
  · right
    cases hc : conditionSpan? s with
    | some span =>
      obtain ⟨b, m, t, rfl, hopen, hcut, -⟩ := exists_condition hc
      rw [insertWhere_condition hopen hcut hf] at h
      cases h
      exact .inl ⟨b, m, t, rfl, hopen, hcut, rfl⟩
    | none =>
      right
      cases hfrom : findTopLevel s "FROM".toList 0 with
      | none => rw [insertWhere_missing hc hfrom hf] at h; cases h
      | some pos =>
        obtain ⟨b, rest, rfl, -, hopen⟩ := exists_opens hfrom
        obtain ⟨m, t, rfl, -, ht, hr⟩ := insertWhere_table hc hopen hf
        rw [hr] at h
        cases h
        exact ⟨b, m, t, by simp, rfl, hopen, ht, rfl⟩

/-- The new condition stands in the new statement in one piece. -/
theorem infix_insertWhere {s f r : Text} (h : insertWhere s f = .ok r) : Text.trim f <:+: r := by
  rcases insertWhere_cases h with ⟨rfl, -⟩ | ⟨b, m, t, -, -, -, rfl⟩ | ⟨b, m, t, -, -, -, -, rfl⟩
  · exact List.nil_infix
  · exact infix_joinParts (by simp)
  · exact infix_joinParts (by simp)

/-! ## Orders -/

theorem orderPlan_of_leadingKey {s : Text} {span : Span} (h : leadingKeySpan? s = some span) (key : Text) :
    orderPlan s key = [.kept ⟨0, span.start⟩, .added key, .kept ⟨span.stop, Text.byteSize s⟩] := by
  obtain ⟨pos, hpos, rfl⟩ := Option.map_eq_some_iff.1 h
  unfold orderPlan
  rw [hpos]

theorem insertOrder_key {b lead t key : Text}
    (h : leadingKeySpan? (b ++ lead ++ t) = some ⟨Text.byteSize b, Text.byteSize (b ++ lead)⟩) (hk : key ≠ []) :
    insertOrder (b ++ lead ++ t) key = joinParts [b, key, t] := by
  have hke : key.isEmpty = false := by simpa using hk
  unfold insertOrder assemble
  rw [hke, orderPlan_of_leadingKey h]
  simp only [Bool.false_eq_true, if_false, List.map_cons, List.map_nil, Piece.text, Span.text_first, Span.text_suffix]

theorem orderPlan_clause {s : Text} (h : leadingKeySpan? s = none) (key : Text) :
    ∃ b t, s = b ++ t ∧ ClauseCut orderTerminators [] b t ∧
      orderPlan s key = [.kept ⟨0, Text.byteSize b⟩, .added "ORDER BY".toList, .added key,
        .kept ⟨Text.byteSize b, Text.byteSize s⟩] := by
  have hnone : findTopLevel s "ORDER BY".toList 0 = none := Option.map_eq_none_iff.1 h
  unfold orderPlan
  rw [hnone]
  cases hf : findFirstOf s orderTerminators 0 with
  | some q =>
    obtain ⟨b, t, rfl, rfl, ⟨k, hk, hab⟩, hclear⟩ := findFirstOf_behind (b := []) |>.1 hf
    exact ⟨b, t, rfl, .terminated hk hab hclear, rfl⟩
  | none =>
    obtain ⟨e, hs, -, -⟩ := exists_body s
    refine ⟨body s, e, hs, .ended ?_ (by rw [List.nil_append, ← hs]), rfl⟩
    rw [← hs]
    exact findFirstOf_behind_eq_none (b := []).1 hf

/-- A statement without an order gets one where the clause belongs: before the first clause that may
follow it, or else at the end of the body. -/
theorem insertOrder_clause {s key : Text} (h : leadingKeySpan? s = none) (hk : key ≠ []) :
    ∃ b t, s = b ++ t ∧ insertOrder s key = joinParts [b, "ORDER BY".toList, key, t] ∧
      ClauseCut orderTerminators [] b t := by
  have hke : key.isEmpty = false := by simpa using hk
  obtain ⟨b, t, rfl, hcut, hplan⟩ := orderPlan_clause h key
  refine ⟨b, t, rfl, ?_, hcut⟩
  unfold insertOrder assemble
  rw [hke, hplan]
  simp only [Bool.false_eq_true, if_false, List.map_cons, List.map_nil, Piece.text, Span.text_prefix, Span.text_suffix]

end SensorRegistry.Sql
