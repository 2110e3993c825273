/-
The literals of a statement and the code around them. Single quotes cut a text into stretches, which by turns are code
and the contents of literals. A text whose literals are closed is read on its own in front of every other text, so a
splice of such parts has their literals, in their order.
-/
import SensorRegistry.Proofs.Sql.Splice
import SensorRegistry.Proofs.Text.Squeeze

namespace SensorRegistry.Sql

/-! ## Stretches -/

/-- Every other element of a list: the first, the third and so on, or else the second, the fourth and so on. -/
def alternate {α : Type} (first : Bool) : List α → List α
  | [] => []
  | x :: xs => if first then x :: alternate false xs else alternate true xs

/-- The stretches of a text outside its literals. -/
def code (s : Text) : List Text := alternate true (s.splitOn '\'')

/-- The contents of the literals of a text, the one that the text leaves open among them. A doubled quote ends one
literal and begins the next. -/
def literals (s : Text) : List Text := alternate false (s.splitOn '\'')

/-- A text that leaves no literal open. -/
inductive Closed : Text → Prop
  | plain {c : Text} : '\'' ∉ c → Closed c
  | literal {c l r : Text} : '\'' ∉ c → '\'' ∉ l → Closed r → Closed (c ++ '\'' :: (l ++ '\'' :: r))

theorem splitOn_plain {c : Text} (hc : '\'' ∉ c) : c.splitOn '\'' = [c] := by
  refine List.splitOnP_eq_singleton fun d hd => ?_
  simp only [beq_eq_false_iff_ne, ne_eq]
  rintro rfl
  exact hc hd

theorem splitOn_cons {c : Text} (hc : '\'' ∉ c) (r : Text) : (c ++ '\'' :: r).splitOn '\'' = c :: r.splitOn '\'' := by
  have h : (c ++ '\'' :: r).splitOn '\'' = c.splitOn '\'' ++ r.splitOn '\'' := List.splitOnP_append_cons c r (by simp)
  rw [h, splitOn_plain hc, List.singleton_append]

theorem code_plain {c : Text} (hc : '\'' ∉ c) : code c = [c] := by
  rw [code, splitOn_plain hc]
  rfl

theorem literals_plain {c : Text} (hc : '\'' ∉ c) : literals c = [] := by
  rw [literals, splitOn_plain hc]
  rfl

/-- Behind a quote the literals are what the code would be without it. -/
theorem literals_quote {c : Text} (hc : '\'' ∉ c) (r : Text) : literals (c ++ '\'' :: r) = code r := by
  rw [literals, splitOn_cons hc]
  rfl

theorem code_quote {c : Text} (hc : '\'' ∉ c) (r : Text) : code (c ++ '\'' :: r) = c :: literals r := by
  rw [code, splitOn_cons hc]
  rfl

theorem literals_literal {c l : Text} (hc : '\'' ∉ c) (hl : '\'' ∉ l) (r : Text) :
    literals (c ++ '\'' :: (l ++ '\'' :: r)) = l :: literals r := by
  rw [literals_quote hc, code_quote hl]

theorem code_literal {c l : Text} (hc : '\'' ∉ c) (hl : '\'' ∉ l) (r : Text) :
    code (c ++ '\'' :: (l ++ '\'' :: r)) = c :: code r := by
  rw [code_quote hc, literals_quote hl]

/-! ## Closed texts -/

/-- Whether a position lies in a literal does not depend on the parentheses in front of it. -/
theorem quoted_after_congr {n m : Nesting} (h : n.quoted = m.quoted) (s : Text) :
    (n.after s).quoted = (m.after s).quoted := by
  induction s generalizing n m with
  | nil => exact h
  | cons c s ih =>
    refine ih ?_
    unfold Nesting.step
    rw [h]
    split_ifs <;> simp_all

theorem quoted_after_plain {c : Text} (hc : '\'' ∉ c) (n : Nesting) : (n.after c).quoted = n.quoted := by
  induction c generalizing n with
  | nil => rfl
  | cons d c ih =>
    rw [List.mem_cons, not_or] at hc
    rw [Nesting.after_cons, ih hc.2]
    unfold Nesting.step
    rw [if_neg (Ne.symm hc.1), if_neg (Ne.symm hc.1)]
    split_ifs <;> rfl

theorem quoted_after_quote {c : Text} (hc : '\'' ∉ c) (n : Nesting) (r : Text) :
    (n.after (c ++ '\'' :: r)).quoted = ((Nesting.mk 0 (!n.quoted)).after r).quoted := by
  rw [Nesting.after_append, Nesting.after_cons]
  refine quoted_after_congr ?_ r
  rw [← quoted_after_plain hc n]
  unfold Nesting.step
  split_ifs <;> simp_all

/-- A text is closed, or it leaves its last literal open. -/
theorem closed_or_open (s : Text) : Closed s ∨ ∃ a l, s = a ++ '\'' :: l ∧ Closed a ∧ '\'' ∉ l := by
  induction hn : s.length using Nat.strong_induction_on generalizing s with
  | _ n ih =>
    by_cases hs : '\'' ∈ s
    · obtain ⟨c, r, rfl, hc⟩ := List.eq_append_cons_of_mem hs
      by_cases hr : '\'' ∈ r
      · obtain ⟨l, r, rfl, hl⟩ := List.eq_append_cons_of_mem hr
        rcases ih r.length (by simp at hn; omega) r rfl with hr | ⟨a, l', rfl, ha, hl'⟩
        · exact .inl (.literal hc hl hr)
        · exact .inr ⟨c ++ '\'' :: (l ++ '\'' :: a), l', by simp, .literal hc hl ha, hl'⟩
      · exact .inr ⟨c, r, rfl, .plain hc, hr⟩
    · exact .inl (.plain hs)

theorem Closed.quoted {s : Text} (hs : Closed s) : (Nesting.outer.after s).quoted = false := by
  induction hs with
  | plain hc => exact quoted_after_plain hc .outer
  | literal hc hl _ ih =>
    rw [quoted_after_quote hc, quoted_after_quote hl]
    exact ih

theorem Closed.quoted_open {a l : Text} (ha : Closed a) (hl : '\'' ∉ l) :
    (Nesting.outer.after (a ++ '\'' :: l)).quoted = true := by
  rw [Nesting.after_append, quoted_after_congr (m := .outer) ha.quoted, ← List.nil_append ('\'' :: l),
    quoted_after_quote (by simp), quoted_after_plain hl]
  rfl

/-- A text is closed exactly when the scan is in no literal behind it. -/
theorem closed_iff {s : Text} : Closed s ↔ (Nesting.outer.after s).quoted = false := by
  refine ⟨Closed.quoted, fun h => (closed_or_open s).resolve_right ?_⟩
  rintro ⟨a, l, rfl, ha, hl⟩
  rw [ha.quoted_open hl] at h
  cases h

instance (s : Text) : Decidable (Closed s) := decidable_of_iff _ closed_iff.symm

theorem Closed.append {a b : Text} (ha : Closed a) (hb : Closed b) : Closed (a ++ b) := by
  rw [closed_iff] at ha hb ⊢
  rw [Nesting.after_append, quoted_after_congr (m := .outer) ha, hb]

theorem Closed.of_append {a b : Text} (h : Closed (a ++ b)) (ha : Closed a) : Closed b := by
  rw [closed_iff] at h ha ⊢
  rwa [Nesting.after_append, quoted_after_congr (m := .outer) ha] at h

/-- A literal that is open behind the start of a closed text is closed in the rest. -/
theorem Closed.exists_quote {a l t : Text} (h : Closed (a ++ '\'' :: l ++ t)) (ha : Closed a) (hl : '\'' ∉ l) :
    ∃ l' r, t = l' ++ '\'' :: r ∧ '\'' ∉ l' := by
  refine List.eq_append_cons_of_mem (by_contra fun ht => ?_)
  have hopen := ha.quoted_open (List.not_mem_append hl ht)
  rw [List.append_assoc] at h
  rw [← List.cons_append, h.quoted] at hopen
  cases hopen

theorem literals_append {a : Text} (ha : Closed a) (b : Text) : literals (a ++ b) = literals a ++ literals b := by
  induction ha with
  | @plain c hc =>
    rw [literals_plain hc, List.nil_append]
    by_cases hb : '\'' ∈ b
    · obtain ⟨d, r, rfl, hd⟩ := List.eq_append_cons_of_mem hb
      rw [← List.append_assoc, literals_quote (List.not_mem_append hc hd), literals_quote hd]
    · rw [literals_plain (List.not_mem_append hc hb), literals_plain hb]
  | @literal c l r hc hl _ ih =>
    rw [literals_literal hc hl, List.append_assoc, List.cons_append, List.append_assoc, List.cons_append,
      literals_literal hc hl, ih]
    rfl

theorem literals_open {a l : Text} (ha : Closed a) (hl : '\'' ∉ l) : literals (a ++ '\'' :: l) = literals a ++ [l] := by
  have hquote : literals ([] ++ '\'' :: l) = code l := literals_quote (by simp) l
  rw [literals_append ha, ← List.nil_append ('\'' :: l), hquote, code_plain hl]

theorem literals_enclosed {a l : Text} (ha : Closed a) (hl : '\'' ∉ l) (t : Text) :
    literals (a ++ '\'' :: (l ++ '\'' :: t)) = literals a ++ l :: literals t := by
  rw [literals_append ha, ← List.nil_append ('\'' :: (l ++ _)), literals_literal (by simp) hl]

/-! ## Splices of closed texts -/

theorem not_mem_quote_of_allBlank {x : Text} (hx : Text.AllBlank x) : '\'' ∉ x := fun h => absurd (hx _ h) (by decide)

/-- Trimming a closed text leaves its literals alone. -/
theorem Closed.trim {s : Text} (hs : Closed s) : Closed (Text.trim s) ∧ literals (Text.trim s) = literals s := by
  obtain ⟨x, y, hx, hy, h⟩ := Text.exists_trim s
  have hxc : Closed x := .plain (not_mem_quote_of_allBlank hx)
  have htrim : Closed (Text.trim s) := by
    have hmiddle : Closed (Text.trim s ++ y) := by
      rw [h, List.append_assoc] at hs
      exact hs.of_append hxc
    rwa [closed_iff, Nesting.after_append_blank hy, ← closed_iff] at hmiddle
  refine ⟨htrim, ?_⟩
  conv_rhs => rw [h]
  rw [List.append_assoc, literals_append hxc, literals_append htrim, literals_plain (not_mem_quote_of_allBlank hx),
    literals_plain (not_mem_quote_of_allBlank hy), List.nil_append, List.append_nil]

theorem Closed.attach {a b : Text} (ha : Closed a) (hb : Closed b) :
    Closed (Sql.attach a b) ∧ literals (Sql.attach a b) = literals a ++ literals b := by
  unfold Sql.attach
  split
  · exact ⟨ha.append hb, literals_append ha b⟩
  · have hspace : Closed [' '] := .plain (by decide)
    exact ⟨ha.append (hspace.append hb), (literals_append ha _).trans (congrArg _ (literals_append hspace b))⟩

/-- The literals of a splice of closed parts are those of the parts. -/
theorem Closed.joinParts {parts : List Text} (h : ∀ p ∈ parts, Closed p) :
    literals (joinParts parts) = parts.flatMap literals := by
  have hfold : ∀ (ps : List Text) (out : Text), Closed out → (∀ p ∈ ps, Closed p) →
      literals (ps.foldl Sql.attach out) = literals out ++ ps.flatMap literals := by
    intro ps
    induction ps with
    | nil => exact fun out _ _ => by simp
    | cons p ps ih =>
      intro out hout hps
      obtain ⟨hclosed, hlit⟩ := hout.attach (hps p List.mem_cons_self)
      rw [List.foldl_cons, ih _ hclosed fun q hq => hps q (List.mem_cons_of_mem p hq), hlit, List.flatMap_cons,
        List.append_assoc]
  have hempty : literals [] = [] := literals_plain (by simp)
  have hparts : ∀ p ∈ (parts.map Text.trim).filter (! ·.isEmpty), Closed p := by
    intro p hp
    obtain ⟨q, hq, rfl⟩ := List.mem_map.1 (List.mem_of_mem_filter hp)
    exact (h q hq).trim.1
  rw [Sql.joinParts, hfold _ [] (.plain (by simp)) hparts, hempty, List.nil_append,
    flatMap_trim hempty fun p hp => (h p hp).trim.2]

theorem Closed.ownCondition {m : Text} (hm : Closed m) :
    Closed (ownCondition m) ∧ literals (ownCondition m) = literals m := by
  unfold Sql.ownCondition
  split
  · have hopen : '\'' ∉ ['('] := by decide
    have hclose : '\'' ∉ [')'] := by decide
    have hsplit : '(' :: Text.trim m ++ [')'] = ['('] ++ (Text.trim m ++ [')']) := by simp
    rw [hsplit, literals_append (.plain hopen), literals_append hm.trim.1, literals_plain hopen, literals_plain hclose,
      hm.trim.2, List.nil_append, List.append_nil]
    exact ⟨Closed.append (.plain hopen) (hm.trim.1.append (.plain hclose)), rfl⟩
  · exact ⟨hm, rfl⟩

/-- A clause of a closed statement ends outside literals. -/
theorem ClauseCut.closed {terminators : List Text} {b m t : Text} (h : ClauseCut terminators b m t)
    (hs : Closed (b ++ m ++ t)) : Closed (b ++ m) := by
  rw [closed_iff] at hs ⊢
  cases h with
  | terminated _ hab _ => exact congrArg Nesting.quoted hab.top
  | ended _ hbody =>
    rwa [Nesting.after_append, Nesting.after_of_not_delimiter (trailing_of_body hbody).1.not_delimiter] at hs

/-! ## Texts rewritten between their quotes -/

/-- A change of texts that leaves the quotes alone, and works on the two sides of one apart. -/
structure KeepsQuotes (g : Text → Text) : Prop where
  plain : ∀ {c}, '\'' ∉ c → '\'' ∉ g c
  quote : ∀ a b, g (a ++ '\'' :: b) = g a ++ '\'' :: g b

theorem KeepsQuotes.closed {g : Text → Text} (hg : KeepsQuotes g) {s : Text} (hs : Closed s) :
    Closed (g s) ∧ literals (g s) = (literals s).map g := by
  induction hs with
  | plain hc =>
    refine ⟨.plain (hg.plain hc), ?_⟩
    rw [literals_plain (hg.plain hc), literals_plain hc, List.map_nil]
  | literal hc hl _ ih =>
    obtain ⟨hclosed, hlit⟩ := ih
    rw [hg.quote, hg.quote]
    refine ⟨.literal (hg.plain hc) (hg.plain hl) hclosed, ?_⟩
    rw [literals_literal (hg.plain hc) (hg.plain hl), literals_literal hc hl, hlit, List.map_cons]

/-- Each literal is changed on its own. -/
theorem KeepsQuotes.literals {g : Text → Text} (hg : KeepsQuotes g) (s : Text) :
    literals (g s) = (Sql.literals s).map g := by
  rcases closed_or_open s with hs | ⟨a, l, rfl, ha, hl⟩
  · exact (hg.closed hs).2
  · obtain ⟨hclosed, hlit⟩ := hg.closed ha
    rw [hg.quote, literals_open hclosed (hg.plain hl), hlit, literals_open ha hl, List.map_append, List.map_singleton]

theorem keepsQuotes_visible : KeepsQuotes Text.visible where
  plain := fun hc => by rwa [Text.mem_visible (by decide)]
  quote := fun a b => by rw [Text.visible_append, Text.visible_cons (by decide)]

theorem keepsQuotes_squeeze : KeepsQuotes Text.squeeze where
  plain := fun hc => by rwa [Text.mem_squeeze (by decide)]
  quote := fun a b => Text.squeeze_append_cons (by decide) a b

/-- Taking the white space away is a reading that white space and marks separate. -/
theorem markSeparated_visible : MarkSeparated Text.visible where
  nil := rfl
  blank := fun a c b hc => by rw [Text.visible_append, Text.visible_blank hc]
  mark := fun a b _ => Text.visible_append a b

/-- Normalizing a closed text squeezes each of its literals. -/
theorem Closed.normalize {s : Text} (hs : Closed s) :
    Closed (Text.normalize s) ∧ literals (Text.normalize s) = (literals s).map Text.squeeze := by
  obtain ⟨hclosed, hlit⟩ := keepsQuotes_squeeze.closed hs
  rw [Text.normalize_eq]
  exact ⟨hclosed.trim.1, hclosed.trim.2.trans hlit⟩

end SensorRegistry.Sql
