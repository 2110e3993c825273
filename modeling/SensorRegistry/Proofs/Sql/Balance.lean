/-
Balance through splices. The nesting behind a text depends on its quotes and parentheses alone, so
white space, marks and joints are invisible to it. A splice cuts its statement at top level, where both
sides are balanced by themselves. Only the cut behind the table is not found by its nesting and may lie
in a literal; what is inserted there is neutral, which means that it leaves a literal as it finds it.
-/
import SensorRegistry.Proofs.Sql.Condition
import SensorRegistry.Proofs.Sql.Conjunct

namespace SensorRegistry.Sql

/-! ## Delimiters -/

/-- The quotes and parentheses of a text, in order. -/
def delimiters (s : Text) : Text := s.filter isDelimiter

/-- A text without quotes and parentheses. -/
def Undelimited (s : Text) : Prop := ∀ c ∈ s, isDelimiter c = false

instance (s : Text) : Decidable (Undelimited s) := List.decidableBAll _ s

theorem delimiters_append (a b : Text) : delimiters (a ++ b) = delimiters a ++ delimiters b := List.filter_append ..

theorem delimiters_eq_nil {s : Text} (h : Undelimited s) : delimiters s = [] :=
  List.filter_eq_nil_iff.2 fun c hc => by simp [h c hc]

/-- Neither white space nor marks are delimiters, so a splice does not disturb the reading. -/
theorem markSeparated_delimiters : MarkSeparated delimiters where
  nil := rfl
  blank := fun a c b hc => by
    rw [delimiters_append]
    exact congrArg _ (List.filter_cons_of_neg (by simp [isDelimiter_of_isBlank hc]))
  mark := fun a b _ => delimiters_append a b

theorem delimiters_body (s : Text) : delimiters (body s) = delimiters s := by
  obtain ⟨e, hs, he, -⟩ := exists_body s
  conv_rhs => rw [hs]
  rw [delimiters_append, delimiters_eq_nil he.not_delimiter, List.append_nil]

theorem Nesting.after_delimiters (n : Nesting) (s : Text) : n.after (delimiters s) = n.after s := by
  induction s generalizing n with
  | nil => rfl
  | cons c s ih =>
    cases hc : isDelimiter c
    · rw [delimiters, List.filter_cons_of_neg (by simp [hc]), after_cons, step_of_not_delimiter hc]
      exact ih n
    · rw [delimiters, List.filter_cons_of_pos hc, after_cons, after_cons]
      exact ih (n.step c)

/-- Balance depends on the delimiters alone. -/
theorem Balanced.congr {a b : Text} (ha : Balanced a) (h : delimiters a = delimiters b) : Balanced b := by
  have hafter : ∀ {p q : Text}, delimiters p = delimiters q → Nesting.outer.after p = Nesting.outer.after q := by
    intro p q hpq
    rw [← Nesting.after_delimiters, hpq, Nesting.after_delimiters]
  refine ⟨(hafter h).symm.trans ha.closed, fun p hp => ?_⟩
  -- what a prefix of `b` leaves of the delimiters, a prefix of `a` leaves too
  obtain ⟨t, ht⟩ := hp.filter isDelimiter
  obtain ⟨q, u, hs, hq, -⟩ := List.filter_eq_append_iff.1 (h.trans ht.symm)
  rw [hafter hq.symm]
  exact ha.nested q ⟨u, hs.symm⟩

theorem balanced_joinParts {parts : List Text} (h : Balanced parts.flatten) : Balanced (joinParts parts) := by
  refine h.congr ?_
  rw [markSeparated_delimiters.joinParts, delimiters, List.filter_flatten, List.flatMap_def]
  rfl

/-- A cut at top level leaves two balanced texts. -/
theorem Balanced.cut {a b : Text} (h : Balanced (a ++ b)) (ha : Nesting.outer.after a = .outer) :
    Balanced a ∧ Balanced b := by
  constructor
  · exact ⟨ha, fun p hp => h.nested p (hp.trans (List.prefix_append a b))⟩
  · have hclosed : Nesting.outer.after (a ++ b) = .outer := h.closed
    exact Balanced.of_append (b := []) (by rwa [List.append_nil]) ha hclosed

/-! ## Neutral texts -/

/-- A text that leaves every nesting as it finds it and never goes below its depth, in a literal too. -/
structure Neutral (f : Text) : Prop where
  closed : ∀ n : Nesting, n.after f = n
  nested : ∀ (n : Nesting) p, p <+: f → n.depth ≤ (n.after p).depth

theorem undelimited_append_iff {a b : Text} : Undelimited (a ++ b) ↔ Undelimited a ∧ Undelimited b :=
  List.forall_mem_append

theorem Undelimited.neutral {f : Text} (h : Undelimited f) : Neutral f := by
  refine ⟨Nesting.after_of_not_delimiter h, fun n p hp => ?_⟩
  rw [Nesting.after_of_not_delimiter fun c hc => h c (hp.subset hc)]

theorem Neutral.append {f g : Text} (hf : Neutral f) (hg : Neutral g) : Neutral (f ++ g) := by
  refine ⟨fun n => by rw [Nesting.after_append, hf.closed, hg.closed], fun n p hp => ?_⟩
  rcases List.prefix_or_prefix_of_prefix hp (List.prefix_append f g) with h | ⟨q, rfl⟩
  · exact hf.nested n p h
  · rw [Nesting.after_append, hf.closed]
    exact hg.nested n q ((List.prefix_append_right_inj f).1 hp)

theorem Neutral.balanced {f : Text} (h : Neutral f) : Balanced f := ⟨h.closed .outer, h.nested .outer⟩

/-- The delimiters decide, read outside literals and in one. -/
theorem neutral_of_delimiters {f : Text} (hclosed : ∀ q, (Nesting.mk 0 q).after (delimiters f) = ⟨0, q⟩)
    (hnested : ∀ q, ∀ p ∈ (delimiters f).inits, 0 ≤ ((Nesting.mk 0 q).after p).depth) : Neutral f := by
  have deeper : ∀ (n : Nesting) (s : Text), n.after s =
      ⟨n.depth + ((Nesting.mk 0 n.quoted).after s).depth, ((Nesting.mk 0 n.quoted).after s).quoted⟩ := by
    intro n s
    have := Nesting.after_deeper n.depth ⟨0, n.quoted⟩ s
    simpa using this
  constructor
  · intro n
    rw [deeper, ← Nesting.after_delimiters, hclosed]
    simp
  · intro n p hp
    have := hnested n.quoted (delimiters p) ((List.mem_inits _ _).2 (hp.filter isDelimiter))
    rw [deeper, ← Nesting.after_delimiters]
    show n.depth ≤ n.depth + _
    omega

/-- A neutral text may be inserted anywhere. -/
theorem Balanced.insert {a b f : Text} (h : Balanced (a ++ b)) (hf : Neutral f) : Balanced (a ++ f ++ b) := by
  constructor
  · rw [Nesting.after_append, Nesting.after_append, hf.closed, ← Nesting.after_append, h.closed]
  · intro p hp
    rcases List.prefix_or_prefix_of_prefix hp (List.prefix_append (a ++ f) b) with hp' | ⟨q, rfl⟩
    · rcases List.prefix_or_prefix_of_prefix hp' (List.prefix_append a f) with hp'' | ⟨q, rfl⟩
      · exact h.nested p (hp''.trans (List.prefix_append a b))
      · have ha := h.nested a (List.prefix_append a b)
        have hq := hf.nested (Nesting.outer.after a) q ((List.prefix_append_right_inj a).1 hp')
        rw [Nesting.after_append]
        exact Int.le_trans ha hq
    · have hq : q <+: b := (List.prefix_append_right_inj _).1 hp
      have := h.nested (a ++ q) ((List.prefix_append_right_inj a).2 hq)
      rwa [Nesting.after_append, Nesting.after_append, hf.closed, ← Nesting.after_append]

/-! ## Conditions -/

/-- The delimiters that a predicate brings: its parentheses, or the quotes of its pattern. -/
def operationDelimiters : Operation → Text
  | .notEquals | .oneOf => "()".toList
  | .like => "''''''".toList
  | _ => []

theorem undelimited_write (n : Nat) : Undelimited (Placeholder.write n) :=
  fun _ hc => isDelimiter_of_isIdentifierChar (Placeholder.isIdentifierChar_of_mem_write hc)

theorem delimiters_predicate {column sql : Text} {op : Operation} {n : Nat} (hcol : Undelimited column)
    (h : Condition.predicate? column op n = some sql) : delimiters sql = operationDelimiters op := by
  have hcol' : delimiters column = [] := delimiters_eq_nil hcol
  have hn : delimiters (Placeholder.write n) = [] := delimiters_eq_nil (undelimited_write n)
  cases op <;> cases h <;> simp only [delimiters_append, hcol', hn] <;> rfl

theorem neutral_predicate {column sql : Text} {op : Operation} {n : Nat} (hcol : Undelimited column)
    (h : Condition.predicate? column op n = some sql) : Neutral sql := by
  have hd := delimiters_predicate hcol h
  refine neutral_of_delimiters ?_ ?_ <;> rw [hd] <;> cases op <;> decide

theorem neutral_join {parts : List Text} (h : ∀ p ∈ parts, Neutral p) : Neutral (Text.join " AND " parts) := by
  have hand : Neutral " AND ".toList := Undelimited.neutral (by decide)
  exact Text.join_induction " AND " (Undelimited.neutral (by decide)) (fun _ _ ha hb => (ha.append hand).append hb) h

theorem neutral_rendered {last : Nat} {ms : List (Text × Filter)} {ts : List (Text × Param)}
    (h : Condition.Rendered last ms ts) (hcol : ∀ m ∈ ms, Undelimited m.1) :
    Neutral (Text.join " AND " (ts.map (·.1))) := by
  refine neutral_join fun sql hsql => ?_
  obtain ⟨m, hm, n, hn⟩ := h.exists_predicate hsql
  exact neutral_predicate (hcol m hm) hn

theorem neutral_ofGroup {columns : Columns} {group : FilterGroup} {last : Nat} {w : Text} {params : List Param}
    (hw : Condition.ofGroup columns group last = .ok ⟨w, params⟩)
    (hcol : ∀ m ∈ Condition.mapped columns group, Undelimited m.1) : Neutral w := by
  obtain ⟨ts, hts, hc⟩ := Condition.ofGroup_eq_ok_iff.1 hw
  obtain rfl : w = Text.join " AND " (ts.map (·.1)) := congrArg Condition.sql hc
  exact neutral_rendered hts hcol

/-! ## Splices -/

theorem balanced_ownCondition {m : Text} (h : Balanced m) : Balanced (ownCondition m) := by
  unfold ownCondition
  split
  · exact (h.congr (markSeparated_delimiters.trim m).symm).group
  · exact h

theorem balanced_insertWhere {s f r : Text} (hs : Balanced s) (hf : Neutral f) (h : insertWhere s f = .ok r) :
    Balanced r := by
  rcases insertWhere_cases h with ⟨-, rfl⟩ | ⟨b, m, t, rfl, hopen, hcut, rfl⟩ | ⟨b, m, t, rfl, -, -, -, rfl⟩
  · exact hs
  · -- both ends of the condition are at top level
    obtain ⟨hbm, ht⟩ := hs.cut (hcut.top hs.closed)
    obtain ⟨hb, hm⟩ := hbm.cut (hopen.top (by decide))
    have hand : Balanced "AND".toList := by decide
    refine balanced_joinParts ?_
    simpa using ((hb.append hf.balanced).append hand).append ((balanced_ownCondition hm).append ht)
  · have hwhere : Neutral "WHERE".toList := Undelimited.neutral (by decide)
    refine balanced_joinParts ?_
    simpa using hs.insert (hwhere.append hf)

theorem KeyCut.top {b key t : Text} (h : KeyCut b key t) (hs : Nesting.outer.after (b ++ key ++ t) = .outer) :
    Nesting.outer.after (b ++ key) = .outer := by
  cases h with
  | comma _ _ _ hab _ => exact hab.top
  | clause hcut _ => exact hcut.top hs

theorem balanced_insertOrder {s key : Text} (hs : Balanced s) (hk : Neutral key) : Balanced (insertOrder s key) := by
  by_cases hne : key = []
  · rw [hne]; exact hs
  · cases h : leadingKeySpan? s with
    | some span =>
      obtain ⟨b, lead, t, rfl, hopen, hcut, rfl⟩ := exists_leadingKey h
      obtain ⟨hbl, ht⟩ := hs.cut (hcut.top hs.closed)
      obtain ⟨hb, -⟩ := hbl.cut (hopen.top (by decide))
      rw [insertOrder_key h hne]
      refine balanced_joinParts ?_
      simpa using hb.append (hk.balanced.append ht)
    | none =>
      obtain ⟨b, t, rfl, hr, -⟩ := insertOrder_clause h hne
      have horder : Neutral "ORDER BY".toList := Undelimited.neutral (by decide)
      rw [hr]
      refine balanced_joinParts ?_
      simpa using hs.insert (horder.append hk)

end SensorRegistry.Sql
