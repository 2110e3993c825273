/-
Plain SELECTs: statements that end with their table. A splice cuts one in front of its semicolon and
nowhere else, so what it makes of one can be written down directly: the SELECT, the predicates behind
WHERE, the key behind ORDER BY, and the semicolon. The text in front of the semicolon stays clear of
the clause keywords, which is what puts the order behind the condition.
-/
import SensorRegistry.Proofs.Sql.Conjunction
import SensorRegistry.Proofs.Statement.Run

namespace SensorRegistry.Sql

/-! ## Parts in front of a semicolon -/

theorem joinParts_semicolon {x word y : Text} (hx : Joinable x) (hw : Joinable word) (hy : Joinable y) :
    joinParts [x, word, y, [';']] = x ++ ' ' :: (word ++ [' ']) ++ y ++ [';'] := by
  rw [joinParts_clause hw hy, hx.trim_eq, hw.attach hx.ne_nil, show behind (Text.trim [';']) = [';'] by decide]
  simp

/-- In a text without a clause an order goes in front of the semicolon. -/
theorem insertOrder_semicolon {x key : Text} (hx : Conjunct x) (hj : Joinable x) (hk : key ≠ []) :
    insertOrder (x ++ [';']) key = joinParts [x, "ORDER BY".toList, key, [';']] := by
  -- neither the text nor the semicolon holds a clause that the order would have to precede
  have hclear : ∀ k ∈ clauseKeywords, Clear k [] (x ++ [';']) [] := fun k hk => by
    have hsemi : Wordless [';'] := by decide +kernel
    exact clear_append_iff.2 ⟨hx.clear k hk rfl fence_semicolon, hsemi.clear hk _ (isBreak_nil _)⟩
  have hspan : leadingKeySpan? (x ++ [';']) = none := by
    have hnone := (findTopLevel_behind_eq_none (b := [])).2 (hclear "ORDER BY".toList (by decide))
    exact Option.map_eq_none_iff.2 hnone
  obtain ⟨b, t, hs, hr, hcut⟩ := insertOrder_clause hspan hk
  have hbody : body (x ++ [';']) = x := body_of_semicolon (x := []) hj.last Text.allBlank_nil Text.allBlank_nil
  cases hcut with
  | terminated hmem hab _ =>
    -- a clause at the cut would stand in the text
    have horder : ∀ k ∈ orderTerminators, k ∈ clauseKeywords := by decide
    have := hclear _ (horder _ hmem) b t hs hab.ne_nil
    rw [List.append_nil] at this
    exact absurd hab this
  | ended _ hb =>
    rw [List.nil_append, ← hs, hbody] at hb
    subst hb
    obtain rfl := List.append_cancel_left hs
    exact hr

end SensorRegistry.Sql

namespace SensorRegistry.Statement

open Sql

/-! ## Plain SELECTs -/

/-- A SELECT that ends with its table: no clause stands behind it, and FROM leads to its end. -/
structure PlainSelect (select : Text) : Prop where
  balanced : Balanced select
  wordless : Wordless select
  joinable : Joinable select
  unconditioned : conditionSpan? (select ++ [';']) = none
  table : (findTopLevel (select ++ [';']) "FROM".toList 0).map
    (fun pos => tableEnd (select ++ [';']) (pos + "FROM".length)) = some (Text.byteSize select)

/-- A SELECT with its predicates and its order key, if there are any. -/
def selectText (select : Text) (predicates : List Text) (key : Option Text) : Text :=
  let filtered :=
    if predicates = [] then select else select ++ " WHERE ".toList ++ Text.join " AND " predicates
  match key with
  | none => filtered
  | some key => filtered ++ " ORDER BY ".toList ++ key

variable {select : Text} {predicates : List Text}

theorem PlainSelect.insertWhere (h : PlainSelect select) {condition : Text} (hc : Joinable condition) :
    insertWhere (select ++ [';']) condition = .ok (select ++ " WHERE ".toList ++ condition ++ [';']) := by
  obtain ⟨pos, hpos, htable⟩ := Option.map_eq_some_iff.1 h.table
  have hne : condition.isEmpty = false := by simpa using hc.ne_nil
  unfold Sql.insertWhere wherePlan
  rw [hne, h.unconditioned, hpos]
  simp only [Bool.false_eq_true, if_false, Except.map, assemble, List.map_cons, List.map_nil, Piece.text, htable]
  rw [Span.text_prefix, Span.text_suffix]
  have hwhere : Joinable "WHERE".toList := joinable_of_ends rfl rfl (by decide) (by decide)
  exact congrArg Except.ok (joinParts_semicolon h.joinable hwhere hc)

theorem insertOrder_eq {x key : Text} (hx : Conjunct x) (hj : Joinable x) (hk : Joinable key) :
    insertOrder (x ++ [';']) key = x ++ " ORDER BY ".toList ++ key ++ [';'] := by
  have horder : Joinable "ORDER BY".toList := joinable_of_ends rfl rfl (by decide) (by decide)
  exact (insertOrder_semicolon hx hj hk.ne_nil).trans (joinParts_semicolon hj horder hk)

/-- With its predicates a plain SELECT is still clear of the clauses that an order would have to precede. -/
theorem PlainSelect.filtered (h : PlainSelect select) (hp : ∀ p ∈ predicates, Conjunct p ∧ Joinable p) :
    Conjunct (selectText select predicates none) ∧ Joinable (selectText select predicates none) := by
  unfold selectText
  have hselect := conjunct_of_wordless h.balanced h.wordless
  split
  · exact ⟨hselect, h.joinable⟩
  · rename_i hne
    have hcondition := conjunct_join hne fun p hp' => (hp p hp').1
    exact ⟨hselect.joint hcondition "WHERE".toList ⟨by decide, by decide +kernel⟩ ⟨'W', rfl, by decide⟩,
      h.joinable.append (joinable_join hne fun p hp' => (hp p hp').2) _⟩

/-- What a splice makes of a template that normalizes to a plain SELECT. -/
theorem PlainSelect.splice (h : PlainSelect select) {template : Text}
    (hnorm : Text.normalize template = select ++ [';'])
    (hp : ∀ p ∈ predicates, Conjunct p ∧ Joinable p) {key : Option Text} (hk : ∀ k ∈ key, Joinable k) :
    splice template (Text.join " AND " predicates) key = .ok (selectText select predicates key ++ [';']) := by
  have hwhere : Sql.insertWhere (select ++ [';']) (Text.join " AND " predicates) =
      .ok (selectText select predicates none ++ [';']) := by
    unfold selectText
    split
    · rename_i hnil
      rw [hnil]
      exact insertWhere_nil _
    · rename_i hne
      exact h.insertWhere (joinable_join hne fun p hp' => (hp p hp').2)
  obtain ⟨hfiltered, hjoin⟩ := h.filtered hp
  refine splice_eq_ok_iff.2 ⟨_, hnorm ▸ hwhere, ?_⟩
  cases key with
  | none => rfl
  | some key => exact (insertOrder_eq hfiltered hjoin (hk key rfl)).symm

/-! ## Counts and pages -/

theorem joinable_selectText (h : PlainSelect select) (hp : ∀ p ∈ predicates, Conjunct p ∧ Joinable p)
    {key : Option Text} (hk : ∀ k ∈ key, Joinable k) : Joinable (selectText select predicates key) := by
  cases key with
  | none => exact (h.filtered hp).2
  | some key => exact (h.filtered hp).2.append (hk key rfl) _

theorem inner_semicolon {x : Text} (h : Joinable x) : inner (x ++ [';']) = x := by
  obtain ⟨c, hc, hblank, -⟩ := h.first
  have hfirst : ∀ d ∈ (x ++ [';']).head?, Text.isBlank d = false := by
    intro d hd
    rw [List.head?_append_of_ne_nil _ h.ne_nil] at hd
    cases hc.symm.trans hd
    exact hblank
  rw [inner, Text.trimStart_eq_self hfirst]
  exact body_of_semicolon (x := []) h.last Text.allBlank_nil Text.allBlank_nil

theorem countText_semicolon {x : Text} (h : Joinable x) :
    countText (x ++ [';']) = "SELECT COUNT(*) FROM (".toList ++ x ++ ") AS subquery".toList := by
  unfold countText
  rw [inner_semicolon h]

theorem pageText_semicolon {x : Text} (h : Joinable x) {n : Nat} (hn : Placeholder.last (x ++ [';']) = n) :
    pageText (x ++ [';']) = x ++ " LIMIT ".toList ++ Placeholder.write (n + 1) ++ " OFFSET ".toList ++
      Placeholder.write (n + 2) ++ ";".toList := by
  unfold pageText
  rw [inner_semicolon h, hn]

/-- The placeholders of a SELECT are those of its predicates. -/
theorem runs_selectText (hs : '$' ∉ select) {key : Option Text} (hk : ∀ k ∈ key, '$' ∉ k) :
    Placeholder.runs (selectText select predicates key ++ [';']) = Placeholder.runs (Text.join " AND " predicates) := by
  have hfiltered : Placeholder.runs (selectText select predicates none) =
      Placeholder.runs (Text.join " AND " predicates) := by
    unfold selectText
    split
    · rename_i hnil
      rw [Placeholder.runs_of_no_dollar hs, hnil]
      rfl
    · rw [List.append_assoc, Placeholder.runs_append_of_no_dollar hs, Placeholder.runs_append_of_no_dollar (by decide)]
  have hkey : selectText select predicates key = selectText select predicates none ++
      (key.map (" ORDER BY ".toList ++ ·)).getD [] := by
    cases key with
    | none => exact (List.append_nil _).symm
    | some key => exact List.append_assoc ..
  have hrest : Placeholder.runs ((key.map (" ORDER BY ".toList ++ ·)).getD [] ++ [';']) = [] := by
    refine Placeholder.runs_of_no_dollar fun hmem => ?_
    cases key with
    | none => revert hmem; decide
    | some key => simp [hk key rfl] at hmem
  rw [hkey, List.append_assoc, Placeholder.runs_append, hrest, hfiltered, List.append_nil]
  intro c hc
  cases key with
  | none => cases hc; decide
  | some key => cases hc; decide

/-- The highest placeholder of a SELECT is the number of its predicates. -/
theorem last_selectText {ms : List (Text × Filter)} {ts : List (Text × Param)} (hts : Condition.Rendered 0 ms ts)
    (hcol : ∀ m ∈ ms, '$' ∉ m.1) (hs : '$' ∉ select) {key : Option Text} (hk : ∀ k ∈ key, '$' ∉ k)
    (hfit : ts.length ≤ Placeholder.greatest) :
    Placeholder.last (selectText select (ts.map (·.1)) key ++ [';']) = ts.length := by
  have hfresh := Placeholder.highest_fresh (a := 0) (n := ts.length) (by omega)
  simp only [Nat.zero_max, Nat.zero_add] at hfresh
  rw [Placeholder.last_eq, runs_selectText hs hk, hts.runs hcol, Nat.zero_add, hfresh]

end SensorRegistry.Statement
