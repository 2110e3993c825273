/-
The condition of a statement that has none. It goes behind the table, and where the table ends is not found
by the nesting: parentheses are counted there, literals are not looked at. So a parenthesis in a literal, or
a space or a semicolon in one that no parenthesis surrounds, moves the end into a literal, or past the
semicolon of the statement.

The new condition stands where it belongs exactly when the table ends at top level, and in front of a semicolon
at the end. A cut at top level breaks no group. It breaks no literal either: a quote that seems to end one
between two halves of a doubled quote is followed by a quote, and the cut is not.
-/
import SensorRegistry.Proofs.Sql.Balance
import SensorRegistry.Proofs.Sql.Conjunction

namespace SensorRegistry.Sql

/-! ## Literals and groups -/

/-- The content of a literal with its quotes doubled. -/
def escapeQuotes : Text → Text
  | [] => []
  | c :: content => if c = '\'' then '\'' :: '\'' :: escapeQuotes content else c :: escapeQuotes content

/-- A literal or a group in parentheses, behind the text `p`. -/
inductive Enclosed (p : Text) : Text → Prop
  | literal (content : Text) : (Nesting.outer.after p).quoted = false →
      Enclosed p ('\'' :: escapeQuotes content ++ ['\''])
  | group {x : Text} : (Nesting.outer.after p).quoted = false → Balanced x → Enclosed p ('(' :: x ++ [')'])

theorem Enclosed.congr {p p' g : Text} (h : Enclosed p g) (hp : Nesting.outer.after p = Nesting.outer.after p') :
    Enclosed p' g := by
  cases h with
  | literal content hq => exact .literal content (hp ▸ hq)
  | group hq hx => exact .group (hp ▸ hq) hx

theorem Enclosed.head {p g : Text} (h : Enclosed p g) : ∃ c ∈ g.head?, c = '\'' ∨ c = '(' := by
  cases h with
  | literal content _ => exact ⟨_, rfl, .inl rfl⟩
  | group _ _ => exact ⟨_, rfl, .inr rfl⟩

/-- Inside a literal the nesting is quoted, except between the two halves of a doubled quote. -/
theorem quoted_escapeQuotes {content u v : Text} (d : Int) (h : escapeQuotes content ++ ['\''] = u ++ v) (hv : v ≠ []) :
    ((Nesting.mk d true).after u).quoted = true ∨ v.head? = some '\'' := by
  fun_induction escapeQuotes content generalizing u with
  | case1 =>
    cases u with
    | nil => exact .inl rfl
    | cons c u => exact absurd (List.append_eq_nil_iff.1 (List.cons.inj h).2.symm).2 hv
  | case2 content ih =>
    match u, h with
    | [], _ => exact .inl rfl
    | [c], h =>
      obtain ⟨-, rfl⟩ := List.cons.inj h
      exact .inr rfl
    | c :: c' :: u, h =>
      obtain ⟨hc, hrest⟩ := List.cons.inj h
      obtain ⟨hc', hrest⟩ := List.cons.inj hrest
      -- the second half of a doubled quote opens the literal again
      rw [← hc, ← hc']
      show ((Nesting.mk d true).after u).quoted = true ∨ _
      exact ih hrest
  | case3 c content hc ih =>
    cases u with
    | nil => exact .inl rfl
    | cons e u =>
      obtain ⟨rfl, hrest⟩ := List.cons.inj h
      have hstep : (Nesting.mk d true).step c = ⟨d, true⟩ := by simp [Nesting.step, hc]
      rw [Nesting.after_cons, hstep]
      exact ih hrest

/-- The top level is not inside a group, and inside a literal it is in front of a quote only. -/
theorem Enclosed.head_of_top {p g₁ g₂ : Text} (h : Enclosed p (g₁ ++ g₂)) (hp : 0 ≤ (Nesting.outer.after p).depth)
    (h₁ : g₁ ≠ []) (h₂ : g₂ ≠ []) (htop : Nesting.outer.after (p ++ g₁) = .outer) : g₂.head? = some '\'' := by
  obtain ⟨c, u, rfl⟩ := List.exists_cons_of_ne_nil h₁
  rw [Nesting.after_append] at htop
  generalize hn : Nesting.outer.after p = n at htop hp
  generalize hg : c :: u ++ g₂ = g at h
  cases h with
  | literal content hq =>
    obtain ⟨rfl, hu⟩ := List.cons.inj hg
    have hopen : n.step '\'' = ⟨n.depth, true⟩ := by simp [Nesting.step, ← hn, hq]
    rcases quoted_escapeQuotes n.depth hu.symm h₂ with hquoted | hhead
    · rw [Nesting.after_cons, hopen] at htop
      rw [htop] at hquoted
      cases hquoted
    · exact hhead
  | @group x hq hx =>
    obtain ⟨rfl, hu⟩ := List.cons.inj hg
    -- the cut lies in front of the closing parenthesis
    have hpre : u <+: x := by
      rcases List.prefix_concat_iff.1 (⟨g₂, hu⟩ : u <+: x ++ [')']) with rfl | hpre
      · exact absurd (by simpa using hu) h₂
      · exact hpre
    have hdeep := hx.nested u hpre
    have hunquoted : n = ⟨n.depth + Nesting.outer.depth, Nesting.outer.quoted⟩ := by
      rw [hn] at hq
      cases n
      simp only at hq
      simp [Nesting.outer, hq]
    rw [hunquoted, Nesting.after_deeper, after_open] at htop
    have := congrArg Nesting.depth htop
    simp only [Nesting.outer] at this hdeep
    omega

/-- A cut at top level in front of a space or a semicolon leaves every literal and every group on one side. -/
theorem Enclosed.apart {p g q a t : Text} (h : Enclosed p g) (hs : p ++ g ++ q = a ++ t) (hbal : Balanced (a ++ t))
    (ha : Nesting.outer.after a = .outer) (ht : ∀ c ∈ t.head?, c = ' ' ∨ c = ';') :
    (∃ u, a = p ++ g ++ u) ∨ ∃ u, p = a ++ u ∧ t = u ++ g ++ q := by
  rw [List.append_assoc] at hs
  rcases List.append_eq_append_iff.1 hs with ⟨u, rfl, hgq⟩ | ⟨u, rfl, rfl⟩
  · rcases List.append_eq_append_iff.1 hgq with ⟨v, rfl, -⟩ | ⟨v, rfl, rfl⟩
    · exact .inl ⟨v, by simp⟩
    · by_cases hu : u = []
      · subst hu
        exact .inr ⟨[], by simp, by simp⟩
      · by_cases hv : v = []
        · subst hv
          exact .inl ⟨[], by simp⟩
        · -- the cut would be in front of a quote
          have hp : 0 ≤ (Nesting.outer.after p).depth := hbal.nested p ⟨u ++ (v ++ q), by simp⟩
          have hquote := h.head_of_top hp hu hv ha
          have hhead : (v ++ q).head? = some '\'' := by rwa [List.head?_append_of_ne_nil _ hv]
          rcases ht _ hhead with hc | hc <;> cases hc
  · exact .inr ⟨u, rfl, by simp⟩

/-! ## The cut behind the table -/

/-- The statement up to the end of the table behind the FROM at `pos`. -/
def tableCut (s : Text) (pos : Nat) : Text := takeBytes (tableEnd s (pos + "FROM".length)) s

/-- A new condition between the two parts of a statement. -/
theorem joinParts_where {a w t : Text} (ha : ∀ c ∈ a.head?, Text.isBlank c = false) (ha0 : a ≠ []) (hw : Joinable w) :
    joinParts [a, "WHERE".toList, w, t] = Text.trimEnd a ++ " WHERE ".toList ++ w ++ behind (Text.trim t) := by
  have hword : Joinable "WHERE".toList := joinable_of_ends rfl rfl (by decide) (by decide)
  have htrim : Text.trim a = Text.trimEnd a := by rw [Text.trim, Text.trimStart_eq_self ha]
  have hne : Text.trim a ≠ [] := by
    intro hnil
    obtain ⟨y, hy, h⟩ := Text.exists_trimEnd a
    rw [← htrim, hnil, List.nil_append] at h
    exact ha0 (Text.AllBlank.eq_nil_of_head (h ▸ hy) ha)
  rw [joinParts_clause hword hw, hword.attach hne, htrim]
  simp

/-- In a statement with a FROM and no WHERE, the splice cuts behind the table. -/
theorem exists_tableCut {s f : Text} {pos : Nat} (hfrom : findTopLevel s "FROM".toList 0 = some pos)
    (hwhere : findTopLevel s "WHERE".toList 0 = none) (hf : f ≠ []) :
    tableCut s pos ≠ [] ∧ ∃ t, s = tableCut s pos ++ t ∧ (∀ c ∈ t.head?, c = ' ' ∨ c = ';') ∧
      insertWhere s f = .ok (joinParts [tableCut s pos, "WHERE".toList, f, t]) := by
  have hnone : conditionSpan? s = none := by rw [conditionSpan?, hwhere]; rfl
  obtain ⟨b, rest, rfl, hb, hopen⟩ := exists_opens hfrom
  obtain ⟨m, t, rfl, hend, ht, hr⟩ := insertWhere_table hnone hopen hf
  have hb0 : b ≠ [] := (hopen.solid ⟨'M', rfl, by decide, by decide⟩).ne_nil
  have hcut : tableCut (b ++ (m ++ t)) pos = b ++ m := by
    rw [tableCut, show pos + "FROM".length = Text.byteSize b from hb.symm, hend, ← List.append_assoc, takeBytes_append]
  rw [hcut]
  exact ⟨List.append_ne_nil_of_left_ne_nil hb0 m, t, (List.append_assoc b m t).symm, ht, hr⟩

/-- The new condition stands behind the table, and the rest of the statement behind both. -/
theorem insertWhere_tableCut {s w : Text} {pos : Nat} (hs : Text.Trimmed s)
    (hfrom : findTopLevel s "FROM".toList 0 = some pos) (hwhere : findTopLevel s "WHERE".toList 0 = none)
    (hw : Joinable w) :
    ∃ t, s = tableCut s pos ++ t ∧ (∀ c ∈ t.head?, c = ' ' ∨ c = ';') ∧
      insertWhere s w =
        .ok (Text.trimEnd (tableCut s pos) ++ " WHERE ".toList ++ w ++ behind (Text.trim t)) := by
  obtain ⟨hne, t, hcut, ht, hr⟩ := exists_tableCut hfrom hwhere hw.ne_nil
  have hfirst : ∀ c ∈ (tableCut s pos).head?, Text.isBlank c = false := by
    have hhead : s.head? = (tableCut s pos).head? := by
      conv_lhs => rw [hcut]
      exact List.head?_append_of_ne_nil _ hne
    exact hhead ▸ hs.first
  exact ⟨t, hcut, ht, hr.trans (congrArg Except.ok (joinParts_where hfirst hne hw))⟩

/-- Around the cut of a normalized statement the splice drops one space at most. -/
theorem exists_joint {s a t : Text} (hnorm : Text.normalize s = s) (hs : s = a ++ t)
    (ht : ∀ c ∈ t.head?, c = ' ' ∨ c = ';') (hlast : ∀ c ∈ t.getLast?, Text.isBlank c = false) :
    ∃ j, (j = [] ∨ j = [' ']) ∧ s = Text.trimEnd a ++ (j ++ behind (Text.trim t)) ∧
      ∀ c ∈ (j ++ behind (Text.trim t)).head?, c = ' ' ∨ c = ';' := by
  have hspaced : Text.Spaced s := hnorm ▸ Text.spaced_normalize s
  obtain ⟨y, hy, ha⟩ := Text.exists_trimEnd a
  obtain ⟨x, hx, hxt⟩ := Text.exists_trimStart t
  have hsplit : s = Text.trimEnd a ++ (y ++ x) ++ Text.trimStart t := by
    conv_lhs => rw [hs, ha, hxt]
    simp
  have hrun : y ++ x = [] ∨ y ++ x = [' '] := (hsplit ▸ hspaced).run (hy.append hx)
  rw [Text.trim_eq_trimStart hlast]
  unfold behind
  split
  · refine ⟨y ++ x, hrun, by rw [← List.append_assoc]; exact hsplit, ?_⟩
    rcases hrun with hnil | hspace
    · rw [(List.append_eq_nil_iff.1 hnil).2, List.nil_append] at hxt
      rwa [hnil, List.nil_append, ← hxt]
    · rw [hspace]
      rintro c ⟨⟩
      exact .inl rfl
  · rename_i hmark
    rw [not_or, not_or] at hmark
    obtain ⟨hne, hsemi, -⟩ := hmark
    -- the rest begins visibly and with no semicolon, so the statement has a space in front of it
    have hspace : y ++ x = [' '] := by
      refine hrun.resolve_left fun hnil => ?_
      rw [(List.append_eq_nil_iff.1 hnil).2, List.nil_append] at hxt
      obtain ⟨c, hc⟩ := Option.ne_none_iff_exists'.1 (List.head?_eq_none_iff.not.2 hne)
      rcases ht c (by rw [hxt]; exact hc) with rfl | rfl
      · have hvisible := Text.head_trimStart t _ hc
        revert hvisible
        decide
      · exact hsemi hc
    refine ⟨[], .inl rfl, by rw [hsplit, hspace]; simp, ?_⟩
    rintro c ⟨⟩
    exact .inl rfl

/-! ## The first WHERE -/

theorem clauseKeyword_where : ClauseKeyword "WHERE".toList := ⟨by decide, by decide +kernel⟩

/-- Behind a prefix of a statement without WHERE, a WHERE is the first one at top level exactly when the prefix
ends at top level. -/
theorem findTopLevel_where_iff {a t : Text} (hnone : findTopLevel (a ++ t) "WHERE".toList 0 = none)
    (ht : ∀ c ∈ t.head?, c = ' ' ∨ c = ';') (rest : Text) :
    findTopLevel (a ++ " WHERE ".toList ++ rest) "WHERE".toList 0 = some (Text.byteSize a + 1) ↔
      Nesting.outer.after a = .outer := by
  constructor
  · intro h
    have hspace : Nesting.outer.after (a ++ [' ']) = Nesting.outer.after a := Nesting.after_append_blank (by decide) _ a
    have hsize : Text.byteSize (a ++ [' ']) = Text.byteSize a + 1 := by rw [Text.byteSize_append]; rfl
    have hsplit : a ++ " WHERE ".toList ++ rest = a ++ [' '] ++ ("WHERE ".toList ++ rest) := by simp
    rw [hsplit, ← hsize] at h
    obtain ⟨a', b, hs, hsize', -, hab, -⟩ := findTopLevel_eq_some_iff.1 h
    obtain ⟨m, rfl, -⟩ := Text.cut_le hs (Nat.le_of_eq hsize'.symm)
    have hm : m = [] := Text.byteSize_eq_zero (by rw [Text.byteSize_append] at hsize'; omega)
    rw [hm, List.append_nil] at hab
    exact hspace.symm.trans hab.top
  · intro htop
    have hbreak : Sql.isBreak a.getLast? t.head? = true := by
      cases hc : t.head? with
      | none => exact isBreak_nil _
      | some c => rcases ht c hc with rfl | rfl <;> exact isBreak_of_separator (by decide) _
    have hfence : Fence (' ' :: "WHERE".toList) := fence_space (by rintro d ⟨⟩; decide)
    obtain ⟨pos, hpos, hsize⟩ := (opens_inserted clauseKeyword_where hfence htop hbreak hnone rest).find
    have hsplit : a ++ ' ' :: "WHERE".toList ++ ' ' :: rest = a ++ " WHERE ".toList ++ rest := by simp
    rw [hsplit] at hpos
    rw [hpos, Option.some.injEq]
    rw [Text.byteSize_append] at hsize
    exact Nat.add_right_cancel hsize

/-! ## The new condition -/

/-- The table behind the FROM at `pos` ends at top level, and in front of a semicolon at the end of the statement. -/
structure TableEndsAtTop (s : Text) (pos : Nat) : Prop where
  top : Nesting.outer.after (tableCut s pos) = .outer
  before : s.getLast? = some ';' → tableCut s pos ≠ s

/-- In `a ++ " WHERE " ++ w ++ z` the condition `w` stands where it belongs in the statement `s`: its WHERE is the
first one at top level, every literal and every group of `s` is unbroken in front of it or behind it, and a
semicolon at the end stays behind it. -/
structure Placed (s a w z : Text) : Prop where
  first : findTopLevel (a ++ " WHERE ".toList ++ w ++ z) "WHERE".toList 0 = some (Text.byteSize a + 1)
  unbroken : ∀ p g q, s = p ++ g ++ q → Enclosed p g →
    (∃ u, a = p ++ g ++ u) ∨ ∃ u, z = u ++ g ++ q ∧ Enclosed (a ++ " WHERE ".toList ++ w ++ u) g
  semicolon : s.getLast? = some ';' → z.getLast? = some ';'

/-- A cut at top level breaks nothing, and what is behind it keeps its nesting behind a neutral condition. -/
theorem unbroken_of_top {a j w z p g q : Text} (hbal : Balanced (a ++ (j ++ z))) (hj : j = [] ∨ j = [' '])
    (hhead : ∀ c ∈ (j ++ z).head?, c = ' ' ∨ c = ';') (hw : Neutral w) (ha : Nesting.outer.after a = .outer)
    (hs : a ++ (j ++ z) = p ++ g ++ q) (hg : Enclosed p g) :
    (∃ u, a = p ++ g ++ u) ∨ ∃ u, z = u ++ g ++ q ∧ Enclosed (a ++ " WHERE ".toList ++ w ++ u) g := by
  have hwhere : Nesting.outer.after (a ++ " WHERE ".toList ++ w) = .outer := by
    rw [Nesting.after_append, hw.closed, Nesting.after_append, ha]
    decide
  have hbehind : ∀ {u : Text}, Nesting.outer.after (a ++ " WHERE ".toList ++ w ++ u) = Nesting.outer.after u := by
    intro u
    rw [Nesting.after_append, hwhere]
  rcases hg.apart hs.symm hbal ha hhead with hfront | ⟨u, rfl, ht⟩
  · exact .inl hfront
  · refine .inr ?_
    rcases hj with rfl | rfl
    · exact ⟨u, ht, hg.congr (by rw [Nesting.after_append, ha, hbehind])⟩
    · cases u with
      | nil =>
        -- neither a literal nor a group begins with a space
        obtain ⟨c, hc, hmark⟩ := hg.head
        have hfront : (' ' :: z).head? = some c := by
          rw [show ' ' :: z = g ++ q from ht, List.head?_append, Option.mem_def.1 hc]
          rfl
        cases hfront
        rcases hmark with hquote | hopen
        · cases hquote
        · cases hopen
      | cons c u =>
        obtain ⟨rfl, rfl⟩ := List.cons.inj ht
        exact ⟨u, by simp, hg.congr (by rw [Nesting.after_append, ha, hbehind]; rfl)⟩

/-- A column that is an identifier, if only a keyword. -/
structure IdentifierColumn (column : Text) : Prop where
  nonempty : column ≠ []
  identifier : ∀ c ∈ column, isIdentifierChar c = true

theorem IdentifierColumn.undelimited {column : Text} (h : IdentifierColumn column) : Undelimited column :=
  fun c hc => isDelimiter_of_isIdentifierChar (h.identifier c hc)

theorem IdentifierColumn.joinable {column : Text} (h : IdentifierColumn column) : Joinable column :=
  (bareColumn_of_identifier h.nonempty h.identifier).joinable

/-- A condition over identifiers goes into every statement with a FROM and no WHERE, and the statement around it
stays, less a space at most. It stands where it belongs exactly when the table ends at top level and in front of a
semicolon at the end. -/
theorem insertWhere_placed_iff {s w : Text} {pos last : Nat} {columns : Columns} {group : FilterGroup}
    {params : List Param} (hnorm : Text.normalize s = s) (hbal : Balanced s)
    (hfrom : findTopLevel s "FROM".toList 0 = some pos) (hwhere : findTopLevel s "WHERE".toList 0 = none)
    (hne : w ≠ []) (hw : Condition.ofGroup columns group last = .ok ⟨w, params⟩)
    (hcol : ∀ m ∈ Condition.mapped columns group, IdentifierColumn m.1) :
    let a := Text.trimEnd (tableCut s pos)
    ∃ z, (s = a ++ z ∨ s = a ++ ' ' :: z) ∧ insertWhere s w = .ok (a ++ " WHERE ".toList ++ w ++ z) ∧
      (Placed s a w z ↔ TableEndsAtTop s pos) := by
  intro a
  have hneutral : Neutral w := neutral_ofGroup hw fun m hm => (hcol m hm).undelimited
  have hjoinable : Joinable w := joinable_ofGroup hne hw fun m hm => (hcol m hm).joinable
  obtain ⟨t, hs, ht, hr⟩ := insertWhere_tableCut (hnorm ▸ Text.trimmed_normalize s) hfrom hwhere hjoinable
  have hlast : t ≠ [] → t.getLast? = s.getLast? := by
    intro hne
    conv_rhs => rw [hs]
    rw [List.getLast?_append_of_ne_nil _ hne]
  have hvisible : ∀ c ∈ t.getLast?, Text.isBlank c = false := by
    intro c hc
    rw [hlast (by rintro rfl; cases hc)] at hc
    exact (hnorm ▸ Text.trimmed_normalize s : Text.Trimmed s).last c hc
  obtain ⟨j, hj, hsplit, hhead⟩ := exists_joint hnorm hs ht hvisible
  have htop : Nesting.outer.after a = Nesting.outer.after (tableCut s pos) := by
    obtain ⟨y, hy, hcut⟩ := Text.exists_trimEnd (tableCut s pos)
    conv_rhs => rw [hcut]
    exact (Nesting.after_append_blank hy _ _).symm
  have hfirst : findTopLevel (a ++ " WHERE ".toList ++ w ++ behind (Text.trim t)) "WHERE".toList 0 =
      some (Text.byteSize a + 1) ↔ Nesting.outer.after a = .outer := by
    rw [List.append_assoc]
    exact findTopLevel_where_iff (hsplit ▸ hwhere) hhead _
  have hbefore : t ≠ [] ↔ tableCut s pos ≠ s := by
    rw [not_iff_not]
    conv_rhs => rhs; rw [hs]
    simp
  refine ⟨behind (Text.trim t), ?_, hr, ?_⟩
  · rcases hj with rfl | rfl
    · exact .inl hsplit
    · exact .inr hsplit
  · constructor
    · intro h
      refine ⟨htop ▸ hfirst.1 h.first, fun hsemi => hbefore.1 ?_⟩
      rintro rfl
      exact absurd (h.semicolon hsemi) (by decide)
    · intro h
      have ha : Nesting.outer.after a = .outer := htop.trans h.top
      refine ⟨hfirst.2 ha, fun p g q hpgq hg => ?_, fun hsemi => ?_⟩
      · exact unbroken_of_top (hsplit ▸ hbal) hj hhead hneutral ha (hsplit ▸ hpgq) hg
      · rw [getLast?_behind, Text.trim_eq_trimStart hvisible, Text.getLast?_trimStart hvisible,
          hlast (hbefore.2 (h.before hsemi)), hsemi]

/-- The parenthesis in a literal closes the one in front of it, so the table ends at the space in the literal, and the
condition goes in there. -/
theorem insertWhere_placed_iff_literal :
    let s := "SELECT * FROM f(') ') ORDER BY id".toList
    let a := "SELECT * FROM f(')".toList
    let z := " ') ORDER BY id".toList
    Text.normalize s = s ∧ Balanced s ∧ findTopLevel s "FROM".toList 0 = some 9 ∧
      findTopLevel s "WHERE".toList 0 = none ∧
      insertWhere s "a=$1".toList = .ok (a ++ " WHERE ".toList ++ "a=$1".toList ++ z) ∧
      ¬ Placed s a "a=$1".toList z := by
  intro s a z
  let columns : Columns := ⟨[("f".toList, "a".toList)], []⟩
  let group : FilterGroup := ⟨[⟨"f".toList, .equals, "5".toList, .int⟩], none, .ascending⟩
  have hnorm : Text.normalize s = s := by decide +kernel
  have hbal : Balanced s := by decide +kernel
  have hfrom : findTopLevel s "FROM".toList 0 = some 9 := by decide +kernel
  have hwhere : findTopLevel s "WHERE".toList 0 = none := by decide +kernel
  have hgroup : Condition.ofGroup columns group 0 = .ok ⟨"a=$1".toList, [.int 5]⟩ := by decide +kernel
  have hcol : ∀ m ∈ Condition.mapped columns group, IdentifierColumn m.1 := by
    intro m hm
    obtain rfl := List.mem_singleton.1 hm
    exact ⟨by decide, List.all_eq_true.1 (by decide)⟩
  have hresult : insertWhere s "a=$1".toList = .ok (a ++ " WHERE ".toList ++ "a=$1".toList ++ z) := by decide +kernel
  have ha : Text.trimEnd (tableCut s 9) = a := by decide +kernel
  obtain ⟨z', -, hr, hplaced⟩ := insertWhere_placed_iff hnorm hbal hfrom hwhere (List.cons_ne_nil _ _) hgroup hcol
  rw [ha] at hr hplaced
  obtain rfl : z = z' := List.append_cancel_left (Except.ok.inj (hresult.symm.trans hr))
  refine ⟨hnorm, hbal, hfrom, hwhere, hresult, fun h => ?_⟩
  have htop : Nesting.outer.after (tableCut s 9) = .outer := (hplaced.1 h).top
  revert htop
  decide +kernel

/-! ## Tables that end at top level -/

/-- A character that the search for the end of a table does not take for one of the statement: in a literal it is no
parenthesis, and outside parentheses no space and no semicolon. -/
def Harmless (n : Nesting) (c : Char) : Prop :=
  n.quoted = true → c ≠ '(' ∧ c ≠ ')' ∧ (n.depth = 0 → c ≠ ' ' ∧ c ≠ ';')

theorem Harmless.depth_step {n : Nesting} {c : Char} (h : Harmless n c) :
    (n.step c).depth = if c = '(' then n.depth + 1 else if c = ')' then n.depth - 1 else n.depth := by
  unfold Nesting.step
  cases hq : n.quoted with
  | true =>
    obtain ⟨hopen, hclose, -⟩ := h hq
    rw [if_neg hopen, if_neg hclose, if_pos rfl]
    split_ifs <;> rfl
  | false =>
    by_cases hquote : c = '\''
    · subst hquote
      rfl
    · rw [if_neg (by simp), if_neg hquote]
      split_ifs <;> rfl

/-- Where literals are harmless, the depth that is counted is that of the nesting. So the table ends at top level,
and it has no space and no semicolon there itself. -/
theorem exists_table_of_harmless : ∀ (s : Text) (n : Nesting),
    (∀ u c v, s = u ++ c :: v → Text.byteSize u ≤ tableSize n.depth s → Harmless (n.after u) c) →
    ∃ m t, s = m ++ t ∧ Text.byteSize m = tableSize n.depth s ∧ (t ≠ [] → n.after m = .outer) ∧
      ∀ u c v, m = u ++ c :: v → c = ' ' ∨ c = ';' → n.after u ≠ .outer
  | [], _, _ => ⟨[], [], rfl, rfl, fun h => absurd rfl h, fun u c v hs => by simp at hs⟩
  | c :: s, n, h => by
    have hc : Harmless n c := h [] c s rfl (Nat.zero_le _)
    rw [tableSize] at h ⊢
    split
    · rename_i hstop
      refine ⟨[], c :: s, rfl, rfl, fun _ => ?_, fun u d v hs => by simp at hs⟩
      have hquoted : n.quoted = false := by
        by_contra hq
        obtain ⟨hspace, hsemi⟩ := (hc (Bool.not_eq_false _ ▸ hq)).2.2 hstop.2
        exact hstop.1.elim hspace hsemi
      exact congrArg₂ Nesting.mk hstop.2 hquoted
    · rename_i hstop
      rw [if_neg hstop] at h
      rw [← hc.depth_step] at h ⊢
      obtain ⟨m, t, rfl, hm, ht, hmarks⟩ := exists_table_of_harmless s (n.step c) fun u d v hs hu =>
        h (c :: u) d v (congrArg (c :: ·) hs) (Nat.add_le_add_left hu _)
      refine ⟨c :: m, t, rfl, by rw [Text.byteSize, hm], ht, fun u d v hs hd => ?_⟩
      cases u with
      | nil =>
        obtain ⟨rfl, -⟩ := List.cons.inj hs
        rintro rfl
        exact hstop ⟨hd, rfl⟩
      | cons e u =>
        obtain ⟨rfl, hrest⟩ := List.cons.inj hs
        exact hmarks u d v hrest hd

/-- The table ends at top level if the literals in it are harmless. -/
theorem tableEndsAtTop_of_harmless {s : Text} {pos : Nat} (hbal : Balanced s)
    (hfrom : findTopLevel s "FROM".toList 0 = some pos)
    (hread : ∀ u c v, s = u ++ c :: v → pos ≤ Text.byteSize u → Text.byteSize u ≤ tableEnd s (pos + "FROM".length) →
      Harmless (Nesting.outer.after u) c) : TableEndsAtTop s pos := by
  obtain ⟨b, rest, rfl, hb, hopen⟩ := exists_opens hfrom
  have hstart : pos + "FROM".length = Text.byteSize b := hb.symm
  obtain ⟨x, table, rfl, hx, hend⟩ := exists_tableStart b rest
  have hblank : Text.AllBlank x := by
    intro c hc
    rw [hx c hc]
    decide
  have hfront : Nesting.outer.after (b ++ x) = .outer :=
    (Nesting.after_append_blank hblank _ b).trans (hopen.top (by decide))
  have hafter : ∀ u, Nesting.outer.after (b ++ x ++ u) = Nesting.outer.after u := fun u => by
    rw [Nesting.after_append, hfront]
  rw [hstart, hend] at hread
  obtain ⟨m, t, rfl, hm, ht, hmarks⟩ := exists_table_of_harmless table .outer fun u c v hs hu => by
    rw [← hafter]
    refine hread (b ++ x ++ u) c v (by rw [hs]; simp) ?_ ?_
    · rw [List.append_assoc, Text.byteSize_append]
      omega
    · rw [Text.byteSize_append]
      exact Nat.add_le_add_left hu _
  have hs : b ++ (x ++ (m ++ t)) = b ++ x ++ m ++ t := by simp
  have hcut : tableCut (b ++ (x ++ (m ++ t))) pos = b ++ x ++ m := by
    rw [tableCut, hstart, hend, show tableSize 0 (m ++ t) = Text.byteSize m from hm.symm, ← Text.byteSize_append, hs,
      takeBytes_append]
  rw [hs] at hbal hcut ⊢
  constructor
  · rw [hcut]
    by_cases hnil : t = []
    · rw [hnil, List.append_nil] at hbal
      exact hbal.closed
    · rw [hafter]
      exact ht hnil
  · intro hsemi hall
    obtain rfl : t = [] := by simpa using hcut.symm.trans hall
    rw [List.append_nil] at hsemi hbal
    have hm0 : m ≠ [] := by
      rintro rfl
      rw [List.append_nil] at hsemi
      by_cases hx0 : x = []
      · obtain ⟨c, hc, -, hmark⟩ := hopen.solid ⟨'M', rfl, by decide, by decide⟩
        rw [hx0, List.append_nil] at hsemi
        cases hsemi.symm.trans hc
        exact hmark rfl
      · rw [List.getLast?_append_of_ne_nil _ hx0] at hsemi
        cases hx _ (List.mem_of_mem_getLast? hsemi)
    -- a semicolon at the end of a balanced statement is at top level, where the table would have ended
    rw [List.getLast?_append_of_ne_nil _ hm0] at hsemi
    obtain ⟨u, rfl⟩ := List.getLast?_eq_some_iff.1 hsemi
    refine hmarks u ';' [] rfl (.inr rfl) ?_
    have hclosed : Nesting.outer.after (b ++ x ++ (u ++ [';'])) = .outer := hbal.closed
    have hmark : Undelimited [';'] := by decide
    rwa [hafter, Nesting.after_append, Nesting.after_of_not_delimiter hmark] at hclosed

end SensorRegistry.Sql
