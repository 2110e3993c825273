/-
The site of a condition: the statement up to WHERE, the condition, and how the statement goes on. To
insert a conjunct at a site leaves a site, with the conjunct in front of the old condition and the
text around both as it was. So a run of insertions, by induction, leaves one conjunction.
-/
import SensorRegistry.Proofs.Sql.Conjunct
import SensorRegistry.Proofs.Sql.Splice

namespace SensorRegistry.Sql

/-! ## Joining a conjunction -/

/-- A text that joining sets behind a space as it is: visible at both ends, and no mark in front. -/
structure Joinable (x : Text) : Prop where
  first : ∃ c ∈ x.head?, Text.isBlank c = false ∧ c ≠ ';' ∧ c ≠ ','
  last : ∀ c ∈ x.getLast?, Text.isBlank c = false

theorem joinable_of_ends {x : Text} {c d : Char} (hc : x.head? = some c) (hd : x.getLast? = some d)
    (hfirst : Text.isBlank c = false ∧ c ≠ ';' ∧ c ≠ ',') (hlast : Text.isBlank d = false) : Joinable x := by
  refine ⟨⟨c, hc, hfirst⟩, fun e he => ?_⟩
  cases hd.symm.trans he
  exact hlast

theorem Joinable.ne_nil {x : Text} (h : Joinable x) : x ≠ [] := by
  rintro rfl
  obtain ⟨c, hc, -⟩ := h.first
  cases hc

theorem Joinable.first_append {x : Text} (h : Joinable x) (m : Text) :
    ∃ c ∈ (x ++ m).head?, Text.isBlank c = false ∧ c ≠ ';' ∧ c ≠ ',' := by
  obtain ⟨c, hc, hvis⟩ := h.first
  exact ⟨c, by rwa [List.head?_append_of_ne_nil _ h.ne_nil], hvis⟩

theorem Joinable.trim_eq {x : Text} (h : Joinable x) : Text.trim x = x := by
  obtain ⟨c, hc, hblank, -⟩ := h.first
  refine Text.Trimmed.trim_eq ⟨fun d hd => ?_, h.last⟩
  cases hc.symm.trans hd
  exact hblank

theorem Joinable.append {x y : Text} (hx : Joinable x) (hy : Joinable y) (m : Text) : Joinable (x ++ m ++ y) := by
  refine ⟨by rw [List.append_assoc]; exact hx.first_append _, fun d hd => ?_⟩
  rw [List.getLast?_append_of_ne_nil _ hy.ne_nil] at hd
  exact hy.last d hd

theorem joinable_join : ∀ {xs : List Text}, xs ≠ [] → (∀ x ∈ xs, Joinable x) → Joinable (Text.join " AND " xs)
  | [], h, _ => absurd rfl h
  | [x], _, h => by rw [Text.join_singleton]; exact h x (by simp)
  | x :: y :: xs, _, h => by
    rw [Text.join_cons " AND " x (List.cons_ne_nil y xs)]
    exact (h x (by simp)).append
      (joinable_join (List.cons_ne_nil y xs) fun z hz => h z (List.mem_cons_of_mem x hz)) _

theorem Joinable.attach {x out : Text} (h : Joinable x) (hout : out ≠ []) : attach out x = out ++ ' ' :: x := by
  obtain ⟨c, hc, -, hsemi, hcomma⟩ := h.first
  rw [Option.mem_def] at hc
  unfold Sql.attach
  rw [if_neg]
  simp [hout, hc, hsemi, hcomma]

/-- A text as it is joined behind others: behind a space, unless it is empty or starts with a mark. -/
def behind (t : Text) : Text :=
  if t = [] ∨ t.head? = some ';' ∨ t.head? = some ',' then t else ' ' :: t

theorem getLast?_behind (t : Text) : (behind t).getLast? = t.getLast? := by
  unfold behind
  split
  · rfl
  · rename_i hmark
    rw [← List.singleton_append, List.getLast?_append_of_ne_nil _ fun hnil => hmark (.inl hnil)]

theorem foldl_attach_joinable {parts : List Text} (h : ∀ p ∈ parts, Joinable p) {out : Text} (hout : out ≠ []) :
    parts.foldl Sql.attach out = Text.join " " (out :: parts) := by
  induction parts generalizing out with
  | nil => rw [Text.join_singleton]; rfl
  | cons p parts ih =>
    obtain ⟨hp, hparts⟩ := List.forall_mem_cons.1 h
    rw [List.foldl_cons, hp.attach hout, ih hparts (by simp), ← Text.join_cons_cons]
    simp

/-- Parts that are joinable once they are trimmed stand behind the first one, each behind a space; the last
part is left out when it is empty and attached when it starts with a mark. -/
theorem joinParts_concat {b : Text} (parts : List Text) (t : Text) (hb : Text.Trimmed b) (hb0 : b ≠ [])
    (h : ∀ p ∈ parts.map Text.trim, Joinable p) :
    joinParts (b :: parts ++ [t]) = Text.join " " (b :: parts.map Text.trim) ++ behind (Text.trim t) := by
  have hattach : ∀ {out : Text}, out ≠ [] → (([Text.trim t].filter (! ·.isEmpty)).foldl attach out) =
      out ++ behind (Text.trim t) := by
    intro out hout
    unfold behind
    cases Text.trim t with
    | nil => simp
    | cons c t =>
      rw [List.filter_cons_of_pos (by simp), List.filter_nil, List.foldl_cons, List.foldl_nil, Sql.attach]
      simp only [List.isEmpty_iff, hout, false_or, reduceCtorEq]
      split <;> rfl
  have hvisible : (b :: parts.map Text.trim).filter (! ·.isEmpty) = b :: parts.map Text.trim :=
    List.filter_eq_self.2 (List.forall_mem_cons.2 ⟨by simpa using hb0, fun p hp => by simpa using (h p hp).ne_nil⟩)
  have hparts : (b :: parts ++ [t]).map Text.trim = b :: parts.map Text.trim ++ [Text.trim t] := by
    rw [List.map_append, List.map_cons, hb.trim_eq]; rfl
  have hfirst : Sql.attach [] b = b := if_pos (.inl rfl)
  have hne : Text.join " " (b :: parts.map Text.trim) ≠ [] := by
    intro hnil
    have := foldl_attach_joinable h hb0
    rw [hnil] at this
    exact hb0 (List.prefix_nil.1 (this ▸ prefix_foldl_attach _ b))
  unfold joinParts
  rw [hparts, List.filter_append, List.foldl_append, hvisible, List.foldl_cons, hfirst, foldl_attach_joinable h hb0,
    hattach hne]

theorem joinParts_joinable {b : Text} {parts : List Text} (hb : Text.Trimmed b) (hb0 : b ≠ [])
    (h : ∀ p ∈ parts, Joinable p) (t : Text) :
    joinParts (b :: parts ++ [t]) = Text.join " " (b :: parts) ++ behind (Text.trim t) := by
  have hparts : parts.map Text.trim = parts :=
    (List.map_congr_left fun p hp => (h p hp).trim_eq).trans (List.map_id parts)
  have hjoin := joinParts_concat parts t hb hb0 (hparts.symm ▸ h)
  rwa [hparts] at hjoin

theorem joinParts_trim (b : Text) (parts : List Text) : joinParts (b :: parts) = joinParts (Text.trim b :: parts) := by
  unfold joinParts
  rw [List.map_cons, List.map_cons, (Text.trimmed_trim b).trim_eq]

/-- A text behind the first part, in front of the rest. -/
theorem joinParts_insert {b x : Text} (hb : Text.Trimmed b) (hb0 : b ≠ []) (hx : Joinable x) (t : Text) :
    joinParts [b, x, t] = b ++ ' ' :: x ++ behind (Text.trim t) := by
  refine (joinParts_joinable hb hb0 (List.forall_mem_singleton.2 hx) t).trans ?_
  rw [Text.join_cons " " b (List.cons_ne_nil x []), Text.join_singleton]
  simp

/-- A clause, its word and its text, behind the first part, which may be empty, in front of the rest. -/
theorem joinParts_clause {word x : Text} (hword : Joinable word) (hx : Joinable x) (a t : Text) :
    joinParts [a, word, x, t] = attach (Text.trim a) word ++ ' ' :: x ++ behind (Text.trim t) := by
  by_cases ha : Text.trim a = []
  · have hdrop : joinParts [a, word, x, t] = joinParts [word, x, t] := by
      unfold joinParts
      rw [List.map_cons, ha, List.filter_cons_of_neg (by simp)]
    rw [hdrop, ha]
    exact joinParts_insert (hword.trim_eq ▸ Text.trimmed_trim word) hword.ne_nil hx t
  · have hparts : ∀ p ∈ [word, x], Joinable p := by
      simp only [List.forall_mem_cons]
      exact ⟨hword, hx, List.forall_mem_nil _⟩
    rw [joinParts_trim, hword.attach ha]
    refine (joinParts_joinable (Text.trimmed_trim a) ha hparts t).trans ?_
    rw [← Text.join_cons_cons, ← Text.join_cons_cons, Text.join_singleton]
    simp

theorem joinParts_conjunction {b w o t : Text} (hb : Text.Trimmed b) (hb0 : b ≠ []) (hw : Joinable w)
    (ho : Joinable (Text.trim o)) :
    joinParts [b, w, "AND".toList, o, t] =
      b ++ ' ' :: (w ++ " AND ".toList ++ Text.trim o) ++ behind (Text.trim t) := by
  have hand : Joinable "AND".toList := joinable_of_ends rfl rfl (by decide) (by decide)
  have hparts : [w, "AND".toList, o].map Text.trim = [w, "AND".toList, Text.trim o] := by
    rw [List.map_cons, List.map_cons, hw.trim_eq, hand.trim_eq]; rfl
  have hjoinable : ∀ p ∈ [w, "AND".toList, o].map Text.trim, Joinable p := by
    rw [hparts]
    simp only [List.forall_mem_cons]
    exact ⟨hw, hand, ho, List.forall_mem_nil _⟩
  refine (joinParts_concat [w, "AND".toList, o] t hb hb0 hjoinable).trans ?_
  rw [hparts, ← Text.join_cons_cons, ← Text.join_cons_cons, ← Text.join_cons_cons, Text.join_singleton]
  simp

/-- A condition as a conjunct: in parentheses if OR stands in it at top level. -/
def conjoined (condition : Text) : Text :=
  if isDisjunction condition then '(' :: condition ++ [')'] else condition

theorem trim_ownCondition (m : Text) : Text.trim (ownCondition m) = conjoined (Text.trim m) := by
  unfold ownCondition conjoined
  split
  · refine Text.Trimmed.trim_eq ⟨?_, ?_⟩
    · rintro c ⟨⟩; decide
    · rw [List.getLast?_concat]
      rintro c ⟨⟩; decide
  · rfl

theorem Joinable.conjoined {x : Text} (h : Joinable x) : Joinable (conjoined x) := by
  unfold Sql.conjoined
  split
  · refine ⟨⟨'(', rfl, by decide⟩, ?_⟩
    rw [List.getLast?_concat]
    rintro c ⟨⟩; decide
  · exact h

/-! ## How a statement goes on -/

/-- How a statement goes on behind its condition: with a clause, with its semicolon, or not at all. A
condition at the very end does not end with a semicolon itself. -/
inductive Continues (condition t : Text) : Prop
  | clause {k a : Text} : k ∈ whereTerminators → StandsAt k a t → Continues condition t
  | semicolon : t = [';'] → Continues condition t
  | finish : condition.getLast? ≠ some ';' → t = [] → Continues condition t

theorem Continues.congr {x y t : Text} (h : Continues x t) (hxy : x.getLast? ≠ some ';' → y.getLast? ≠ some ';') :
    Continues y t := by
  cases h with
  | clause hk hab => exact .clause hk hab
  | semicolon ht => exact .semicolon ht
  | finish hx ht => exact .finish (hxy hx) ht

theorem Continues.conjoined {x t : Text} (h : Continues x t) : Continues (conjoined x) t := by
  refine h.congr fun hx => ?_
  unfold Sql.conjoined
  split
  · rw [List.getLast?_concat]; decide
  · exact hx

/-- A clause begins with a letter, and none of the clauses that end a condition begins with `b`. -/
theorem StandsAt.clause_head {k a t : Text} (hk : k ∈ whereTerminators) (h : StandsAt k a t) :
    ∃ c ∈ t.head?, isIdentifierChar c = true ∧ Text.isBlank c = false ∧ c ≠ ';' ∧ c ≠ ',' ∧ c.toLower ≠ 'b' := by
  let f : Char → Bool × Bool × Bool × Bool × Bool :=
    fun c => (isIdentifierChar c, Text.isBlank c, c == ';', c == ',', c.toLower == 'b')
  have hall : ∀ k ∈ whereTerminators, k.head?.map f = some (true, false, false, false, false) := by decide
  have hne := (clauseKeyword_of_mem (List.mem_cons_of_mem _ hk)).ne_nil
  have hhead := h.head_map hne (eq_toLower_of_capitals f (by decide))
  rw [hall k hk] at hhead
  obtain ⟨c, hc, hfc⟩ := Option.map_eq_some_iff.1 hhead
  exact ⟨c, hc, by simpa [f] using hfc⟩

/-! ## Sites -/

/-- The condition `m` of the statement `b ++ m ++ t`, which has no white space at its ends. -/
structure Site (b m t : Text) : Prop where
  opens : Opens "WHERE".toList b (m ++ t)
  cut : ClauseCut whereTerminators b m t
  first : ∀ c ∈ b.head?, Text.isBlank c = false
  last : ∀ c ∈ t.getLast?, Text.isBlank c = false
  balanced : Balanced (Text.trim m)
  joinable : Joinable (Text.trim m)

theorem Opens.where_top {b rest : Text} (h : Opens "WHERE".toList b rest) : Nesting.outer.after b = .outer :=
  h.top (by decide)

theorem Opens.where_solid {b rest : Text} (h : Opens "WHERE".toList b rest) : Solid b :=
  h.solid ⟨'E', rfl, by decide, by decide⟩

theorem Solid.ne_nil {b : Text} (h : Solid b) : b ≠ [] := by
  rintro rfl
  obtain ⟨c, hc, -⟩ := h
  cases hc

theorem Site.trimmed {b m t : Text} (h : Site b m t) : Text.Trimmed b := by
  refine ⟨h.first, fun c hc => ?_⟩
  obtain ⟨d, hd, hblank, -⟩ := h.opens.where_solid
  cases hd.symm.trans hc
  exact hblank

theorem Site.continues {b m t : Text} (h : Site b m t) : Continues (Text.trim m) (Text.trim t) := by
  cases h.cut with
  | terminated hk hab _ =>
    obtain ⟨c, hc, -, hblank, -⟩ := hab.clause_head hk
    have ht : Text.Trimmed t := ⟨fun d hd => by cases hc.symm.trans hd; exact hblank, h.last⟩
    rw [ht.trim_eq]
    exact .clause hk hab
  | ended _ hbody =>
    obtain ⟨he, hvis⟩ := trailing_of_body hbody
    cases he with
    | @semicolon x y hx hy =>
      refine .semicolon ?_
      rw [show x ++ ';' :: y = x ++ [';'] ++ y by simp]
      exact Text.trim_surrounded hx ⟨by rintro c ⟨⟩; decide, by rintro c ⟨⟩; decide⟩ hy
    | blank hblank hsemi =>
      refine .finish ?_ hblank.trim_eq
      -- the body ends visibly, so it ends with the last character of the condition
      obtain ⟨x, y, hx, hy, hm⟩ := Text.exists_trim m
      have hy0 : y = [] := by
        by_contra hne
        have hlast : (b ++ m).getLast? = y.getLast? := by
          rw [hm, ← List.append_assoc, List.getLast?_append_of_ne_nil _ hne]
        have := hvis (y.getLast hne) (by rw [hlast, List.getLast?_eq_some_getLast hne]; rfl)
        rw [hy _ (List.getLast_mem hne)] at this
        cases this
      rwa [hm, hy0, List.append_nil, ← List.append_assoc, List.getLast?_append_of_ne_nil _ h.joinable.ne_nil] at hsemi

/-! ## The condition of a site as a conjunct -/

theorem isBreak_of_allBlank {x : Text} (hx : Text.AllBlank x) (hne : x ≠ []) (c : Option Char) :
    isBreak x.getLast? c = true ∧ isBreak c x.head? = true := by
  rw [List.getLast?_eq_some_getLast hne, List.head?_eq_some_head hne, isBreak_comm]
  exact ⟨isBreak_of_separator (isIdentifierChar_of_isBlank (hx _ (List.getLast_mem hne))) c,
    isBreak_of_separator (isIdentifierChar_of_isBlank (hx _ (List.head_mem hne))) c⟩

/-- The statement breaks words where a clause ends. -/
theorem ClauseCut.isBreak {terminators : List Text} {b m t : Text} (h : ClauseCut terminators b m t)
    (hne : ∀ k ∈ terminators, k ≠ []) : Sql.isBreak (b ++ m).getLast? t.head? = true := by
  cases h with
  | terminated hk hab _ =>
    obtain ⟨-, -, -, -, hleft, -⟩ := startsWithKeyword_iff.1 hab.word
    rwa [isBreak_comm, isBreak_of_map_eq (hab.head_map (hne _ hk) isIdentifierChar_toLower)]
  | ended _ hbody =>
    cases ht : t.head? with
    | none => exact isBreak_nil _
    | some c =>
      refine isBreak_of_separator ?_ _
      rcases (trailing_of_body hbody).1.mem (List.mem_of_mem_head? ht) with hc | rfl
      · exact isIdentifierChar_of_isBlank hc
      · decide

/-- The statement breaks words at both ends of its condition. -/
theorem breaks_condition {b m t x y : Text} (hopen : Opens "WHERE".toList b (m ++ t))
    (hcut : ClauseCut whereTerminators b m t) (hne : Text.trim m ≠ []) (hm : m = x ++ Text.trim m ++ y)
    (hx : Text.AllBlank x) (hy : Text.AllBlank y) :
    isBreak (b ++ x).getLast? (Text.trim m).head? = true ∧ isBreak (Text.trim m).getLast? (y ++ t).head? = true := by
  constructor
  · by_cases hx0 : x = []
    · -- directly behind WHERE the condition cannot begin with an identifier character
      have hbreak := hopen.isBreak
      rw [hm, hx0, List.nil_append, List.append_assoc, List.head?_append_of_ne_nil _ hne,
        ← isBreak_of_map_eq (hopen.last (by decide) isIdentifierChar_toLower)] at hbreak
      rwa [hx0, List.append_nil]
    · rw [List.getLast?_append_of_ne_nil _ hx0]
      exact (isBreak_of_allBlank hx hx0 _).1
  · by_cases hy0 : y = []
    · have hbreak := hcut.isBreak (by decide)
      rw [hm, hy0, List.append_nil, ← List.append_assoc, List.getLast?_append_of_ne_nil _ hne] at hbreak
      rwa [hy0]
    · rw [List.head?_append_of_ne_nil _ hy0]
      exact (isBreak_of_allBlank hy hy0 _).2

/-- A condition without an OR at top level is clear of all clause keywords, and so wherever it is put. -/
theorem clear_condition {b m t : Text} (hopen : Opens "WHERE".toList b (m ++ t))
    (hcut : ClauseCut whereTerminators b m t) (hor : isDisjunction (Text.trim m) = false) {k : Text}
    (hk : k ∈ clauseKeywords) {b' t' : Text} (hb' : Nesting.outer.after b' = .outer) (ht' : Fence t') :
    Clear k b' (Text.trim m) t' := by
  by_cases hne : Text.trim m = []
  · rw [hne]
    exact clear_nil
  rcases List.mem_cons.1 hk with rfl | hk
  · -- there is no OR in the condition by itself
    have hnone : findTopLevel ([] ++ Text.trim m) "OR".toList 0 = none := by
      simpa [isDisjunction] using hor
    exact (findTopLevel_behind_eq_none.1 hnone).transfer (clauseKeyword_of_mem (List.mem_cons_self)) rfl hb'
      (isBreak_comm _ _ ▸ isBreak_nil _) (isBreak_nil _) ht'
  · -- a clause in the condition would have ended it
    obtain ⟨x, y, hx, hy, hm⟩ := Text.exists_trim m
    have hclear : Clear k (b ++ x) (Text.trim m) (y ++ t) := by
      have hcm : Clear k b m t := by
        cases hcut with
        | terminated _ _ hclear => exact hclear k hk
        | ended hclear _ => simpa using (clear_append_iff.1 (hclear k hk)).1
      rw [hm] at hcm
      exact (clear_append_iff.1 (clear_append_iff.1 hcm).1).2
    have hbx : Nesting.outer.after (b ++ x) = .outer := by rw [Nesting.after_append_blank hx, hopen.where_top]
    obtain ⟨hleft, hright⟩ := breaks_condition hopen hcut hne hm hx hy
    exact hclear.transfer (clauseKeyword_of_mem (List.mem_cons_of_mem _ hk)) hbx hb' hleft hright ht'

/-- The condition of a site is a conjunct once it is in parentheses or needs none. -/
theorem Site.conjunct {b m t : Text} (h : Site b m t) : Conjunct (conjoined (Text.trim m)) := by
  unfold conjoined
  split
  · exact h.balanced.conjunct_group
  · rename_i hor
    exact ⟨h.balanced, fun k hk _ _ hb' ht' =>
      clear_condition h.opens h.cut (Bool.not_eq_true _ ▸ hor) hk hb' ht'⟩

/-! ## One insertion -/

/-- Behind WHERE and a space a conjunct is clear of every clause keyword. -/
theorem Conjunct.clear_behind {b K t k : Text} (hK : Conjunct K) (hb : Nesting.outer.after b = .outer)
    (hk : k ∈ clauseKeywords) (ht : Fence t) : Clear k b (' ' :: K) t := by
  have hword : Wordless [' '] := by decide +kernel
  have hspace : Nesting.outer.after (b ++ [' ']) = .outer := by rw [Nesting.after_append, hb]; rfl
  exact clear_append_iff (m := [' ']).2
    ⟨hword.clear hk b (isBreak_of_allBlank (by decide) (by simp) _).1, hK.clear k hk hspace ht⟩

theorem clauseCut_of_clause {b K t k a : Text} (hb : Nesting.outer.after b = .outer) (hK : Conjunct K)
    (hk : k ∈ whereTerminators) (hab : StandsAt k a t) : ClauseCut whereTerminators b (' ' :: K ++ [' ']) t := by
  have hword : Wordless [' '] := by decide +kernel
  obtain ⟨c, hc, -, -, -, -, hletter⟩ := hab.clause_head hk
  have hfence : Fence ([' '] ++ t) := fence_space fun d hd => by cases hc.symm.trans hd; exact hletter
  refine .terminated hk ⟨?_, hab.head, ?_⟩ fun k hk => ?_
  · rw [Nesting.after_append, hb, Nesting.after_append]
    exact congrArg (Nesting.after · [' ']) hK.balanced.closed
  · obtain ⟨k', r, hs, hlow, -, hright⟩ := startsWithKeyword_iff.1 hab.word
    refine startsWithKeyword_iff.2 ⟨k', r, hs, hlow, ?_, hright⟩
    rw [← List.append_assoc, List.getLast?_concat]
    exact isBreak_of_separator rfl _
  · have hk := List.mem_cons_of_mem "OR".toList hk
    exact clear_append_iff.2 ⟨hK.clear_behind hb hk hfence,
      hword.clear hk _ (isBreak_of_allBlank (by decide) (by simp) _).1⟩

theorem clauseCut_of_end {b K t : Text} (hb : Nesting.outer.after b = .outer) (hK : Conjunct K) (hj : Joinable K)
    (ht : t = [';'] ∨ (K.getLast? ≠ some ';' ∧ t = [])) : ClauseCut whereTerminators b (' ' :: K) t := by
  have hlast : (b ++ ' ' :: K).getLast? = K.getLast? := by
    rw [← List.singleton_append, ← List.append_assoc, List.getLast?_append_of_ne_nil _ hj.ne_nil]
  have hfence : Fence (t ++ []) := by
    rcases ht with rfl | ⟨-, rfl⟩
    · exact fence_semicolon
    · exact fence_nil
  have hword : Wordless t := by rcases ht with rfl | ⟨-, rfl⟩ <;> decide +kernel
  refine .ended (fun k hk => ?_) ?_
  · have hk := List.mem_cons_of_mem "OR".toList hk
    exact clear_append_iff.2 ⟨hK.clear_behind hb hk hfence, hword.clear hk _ (isBreak_nil _)⟩
  · have hvis : ∀ c ∈ (b ++ ' ' :: K).getLast?, Text.isBlank c = false := hlast ▸ hj.last
    rcases ht with rfl | ⟨hsemi, rfl⟩
    · exact body_of_semicolon (x := []) hvis Text.allBlank_nil Text.allBlank_nil
    · exact body_of_blank hvis (hlast ▸ hsemi) Text.allBlank_nil

/-- A conjunct behind WHERE is the condition of a site, if the statement goes on behind it as one does. -/
theorem exists_site {b K t rest : Text} (hopen : Opens "WHERE".toList b rest)
    (hb : ∀ c ∈ b.head?, Text.isBlank c = false) (hK : Conjunct K) (hj : Joinable K) (ht : Continues K t)
    (hlast : ∀ c ∈ t.getLast?, Text.isBlank c = false) :
    ∃ m, b ++ ' ' :: K ++ behind t = b ++ m ++ t ∧ Text.trim m = K ∧ Site b m t := by
  have hspace : Text.AllBlank [' '] := by decide
  have site : ∀ {e : Text}, Text.AllBlank e → ClauseCut whereTerminators b (' ' :: K ++ e) t →
      Text.trim (' ' :: K ++ e) = K ∧ Site b (' ' :: K ++ e) t := by
    intro e he hcut
    have hm : Text.trim (' ' :: K ++ e) = K := (Text.trim_blank hspace he K).trans hj.trim_eq
    have hopen' : Opens "WHERE".toList b (' ' :: K ++ e ++ t) :=
      hopen.congr (by decide) (isBreak_of_separator (by decide) _)
    exact ⟨hm, hopen', hcut, hb, hlast, hm.symm ▸ hK.balanced, hm.symm ▸ hj⟩
  have hend : t = [';'] ∨ (K.getLast? ≠ some ';' ∧ t = []) →
      ∃ m, b ++ ' ' :: K ++ behind t = b ++ m ++ t ∧ Text.trim m = K ∧ Site b m t := by
    intro ht
    have hbehind : behind t = t := by rcases ht with rfl | ⟨-, rfl⟩ <;> rfl
    refine ⟨' ' :: K ++ [], by rw [hbehind, List.append_nil], site Text.allBlank_nil ?_⟩
    rw [List.append_nil]
    exact clauseCut_of_end hopen.where_top hK hj ht
  cases ht with
  | clause hk hab =>
    obtain ⟨c, hc, -, -, hsemi, hcomma, -⟩ := hab.clause_head hk
    have hbehind : behind t = ' ' :: t := by
      rw [Option.mem_def] at hc
      unfold behind
      rw [if_neg]
      simp [hab.ne_nil, hc, hsemi, hcomma]
    exact ⟨' ' :: K ++ [' '], by rw [hbehind]; simp, site hspace (clauseCut_of_clause hopen.where_top hK hk hab)⟩
  | semicolon ht => exact hend (.inl ht)
  | finish hK ht => exact hend (.inr ⟨hK, ht⟩)

/-- A conjunct inserted at a site stands in front of the old condition, which goes into parentheses if
it needs them; the statement around them stays, and they make a conjunct again. -/
theorem Site.insertWhere {b m t w : Text} (h : Site b m t) (hw : Conjunct w) (hj : Joinable w) :
    ∃ m' t', Sql.insertWhere (b ++ m ++ t) w = .ok (b ++ m' ++ t') ∧ Site b m' t' ∧ Text.trim t' = Text.trim t ∧
      Text.trim m' = w ++ " AND ".toList ++ conjoined (Text.trim m) ∧ Conjunct (Text.trim m') := by
  have hown : Joinable (Text.trim (ownCondition m)) := trim_ownCondition m ▸ h.joinable.conjoined
  have hK : Conjunct (w ++ " AND ".toList ++ conjoined (Text.trim m)) := hw.and h.conjunct
  have hjoin := joinParts_conjunction h.trimmed h.opens.where_solid.ne_nil hj hown (t := t)
  rw [trim_ownCondition] at hjoin
  have hcont : Continues (w ++ " AND ".toList ++ conjoined (Text.trim m)) (Text.trim t) :=
    h.continues.conjoined.congr fun hx => by
      rwa [List.getLast?_append_of_ne_nil _ h.joinable.conjoined.ne_nil]
  obtain ⟨m', hs, hm', hsite⟩ := exists_site h.opens h.first hK (hj.append h.joinable.conjoined _) hcont
    (Text.trimmed_trim t).last
  refine ⟨m', Text.trim t, ?_, hsite, (Text.trimmed_trim t).trim_eq, hm', hm'.symm ▸ hK⟩
  rw [insertWhere_condition h.opens h.cut hj.ne_nil, hjoin, hs]

/-! ## Runs -/

/-- A run of insertions at the site of a conjunct: all of them stand in front of it, the last one first. -/
theorem Site.foldlM_insertWhere {b m t : Text} (ws : List Text) (h : Site b m t) (hc : Conjunct (Text.trim m))
    (hws : ∀ w ∈ ws, Conjunct w ∧ Joinable w) :
    ∃ m' t', ws.foldlM Sql.insertWhere (b ++ m ++ t) = .ok (b ++ m' ++ t') ∧ Site b m' t' ∧
      Text.trim t' = Text.trim t ∧ Text.trim m' = Text.join " AND " (ws.reverse ++ [Text.trim m]) ∧
      Conjunct (Text.trim m') := by
  induction ws generalizing m t with
  | nil => exact ⟨m, t, rfl, h, rfl, by rw [List.reverse_nil, List.nil_append, Text.join_singleton], hc⟩
  | cons w ws ih =>
    obtain ⟨hw, hj⟩ := hws w List.mem_cons_self
    obtain ⟨m₁, t₁, hs₁, h₁, ht₁, hm₁, hc₁⟩ := h.insertWhere hw hj
    obtain ⟨m₂, t₂, hs₂, h₂, ht₂, hm₂, hc₂⟩ := ih h₁ hc₁ fun v hv => hws v (List.mem_cons_of_mem w hv)
    refine ⟨m₂, t₂, ?_, h₂, ht₂.trans ht₁, ?_, hc₂⟩
    · rw [List.foldlM_cons, hs₁]
      exact hs₂
    · have hown : conjoined (Text.trim m) = Text.trim m := by
        unfold conjoined
        rw [hc.isDisjunction_eq]
        rfl
      rw [hm₂, hm₁, hown, List.reverse_cons]
      exact Text.join_concat " AND " ws.reverse w (Text.trim m)

end SensorRegistry.Sql
