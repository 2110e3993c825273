/-
Conditions as expressions: the grammar that says which tokens read as which expression, and what an
expression is worth on a row. The grammar ranks OR below AND below NOT below the tests, and parentheses
start again at OR. It is unambiguous: what stands in parentheses is nested, so an OR or AND at top level
can stand in the operand on one side only, and the operator that comes last is determined.
-/
import SensorRegistry.Proofs.Sql.Token

namespace SensorRegistry.Sql

/-! ## Expressions -/

/-- An operand of a test. -/
inductive Scalar
  | column (name : Text)
  | placeholder (index : Nat)
  | literal (content : Text)
  | concat (x y : Scalar)
  deriving DecidableEq

inductive Comparison
  | equal
  | greater
  | greaterOrEqual
  | less
  | lessOrEqual
  | equalAny
  | ilike (escape : Text)
  deriving DecidableEq

/-- What is asked of a scalar. -/
inductive Test
  | isNull
  | compare (r : Comparison) (y : Scalar)
  deriving DecidableEq

inductive Expr
  | test (x : Scalar) (t : Test)
  | not (x : Expr)
  | and (x y : Expr)
  | or (x y : Expr)
  deriving DecidableEq

/-! ## The grammar -/

def Scalar.ofToken? : Token → Option Scalar
  | .name word => some (.column word)
  | .placeholder index => some (.placeholder index)
  | .literal content => some (.literal content)
  | _ => none

def Token.bars : Token := .sign "||".toList

/-- The comparison that a sign stands for. -/
def Comparison.ofSign? (s : Text) : Option Comparison :=
  if s = "=".toList then some .equal
  else if s = ">".toList then some .greater
  else if s = ">=".toList then some .greaterOrEqual
  else if s = "<".toList then some .less
  else if s = "<=".toList then some .lessOrEqual
  else none

inductive Scalar.Reading : List Token → Scalar → Prop
  | operand {t : Token} {x : Scalar} : ofToken? t = some x → Reading [t] x
  | concat {a : List Token} {t : Token} {x y : Scalar} : Reading a x → ofToken? t = some y →
      Reading (a ++ [.bars, t]) (.concat x y)

inductive Test.Reading : List Token → Test → Prop
  | isNull : Reading [.keyword .is, .keyword .null] .isNull
  | sign {s : Text} {r : Comparison} {b : List Token} {y : Scalar} : Comparison.ofSign? s = some r →
      Scalar.Reading b y → Reading (.sign s :: b) (.compare r y)
  | equalAny {b : List Token} {y : Scalar} : Scalar.Reading b y →
      Reading (.sign "=".toList :: .keyword .any :: .opening :: (b ++ [.closing])) (.compare .equalAny y)
  | ilike {b : List Token} {y : Scalar} {escape : Text} : Scalar.Reading b y →
      Reading (.keyword .ilike :: (b ++ [.keyword .escape, .literal escape])) (.compare (.ilike escape) y)

/-- How tightly an expression binds, the loosest first. -/
inductive Rank
  | disjunction
  | conjunction
  | negation
  | test
  deriving DecidableEq

/-- The tokens read as the expression, which binds at least as tightly as the rank says. -/
inductive Reading : Rank → List Token → Expr → Prop
  | or {a b : List Token} {x y : Expr} : Reading .disjunction a x → Reading .conjunction b y →
      Reading .disjunction (a ++ .keyword .or :: b) (.or x y)
  | conjunction {a : List Token} {x : Expr} : Reading .conjunction a x → Reading .disjunction a x
  | and {a b : List Token} {x y : Expr} : Reading .conjunction a x → Reading .negation b y →
      Reading .conjunction (a ++ .keyword .and :: b) (.and x y)
  | negation {a : List Token} {x : Expr} : Reading .negation a x → Reading .conjunction a x
  | not {a : List Token} {x : Expr} : Reading .negation a x → Reading .negation (.keyword .not :: a) (.not x)
  | tight {a : List Token} {x : Expr} : Reading .test a x → Reading .negation a x
  | group {a : List Token} {x : Expr} : Reading .disjunction a x → Reading .test (.opening :: (a ++ [.closing])) x
  | test {a b : List Token} {x : Scalar} {t : Test} : Scalar.Reading a x → Test.Reading b t →
      Reading .test (a ++ b) (.test x t)

/-- The text reads as the expression, which binds at least as tightly as the rank says. -/
def ReadsAt (r : Rank) (s : Text) (x : Expr) : Prop := ∃ ts, tokens? s = some ts ∧ Reading r ts x

/-- The text reads as the expression. -/
def ReadsAs (s : Text) (x : Expr) : Prop := ReadsAt .disjunction s x

/-! ## Nesting of tokens -/

/-- How many more parentheses are opened than closed. -/
def level : List Token → Int
  | [] => 0
  | .opening :: ts => level ts + 1
  | .closing :: ts => level ts - 1
  | _ :: ts => level ts

theorem level_append (a b : List Token) : level (a ++ b) = level a + level b := by
  induction a with
  | nil => simp [level]
  | cons t a ih => cases t <;> simp only [List.cons_append, level, ih] <;> omega

theorem level_keyword (k : Keyword) (ts : List Token) : level (.keyword k :: ts) = level ts := rfl

/-- The parentheses of the tokens match. -/
structure Nested (a : List Token) : Prop where
  closed : level a = 0
  nonneg : ∀ p, p <+: a → 0 ≤ level p

/-- The keyword does not stand in the tokens outside parentheses. -/
def TopFree (k : Keyword) (a : List Token) : Prop := ∀ p q, a = p ++ .keyword k :: q → level p ≠ 0

theorem Nested.append {a b : List Token} (ha : Nested a) (hb : Nested b) : Nested (a ++ b) := by
  refine ⟨by rw [level_append, ha.closed, hb.closed, Int.add_zero], fun p hp => ?_⟩
  rcases List.prefix_or_prefix_of_prefix hp (List.prefix_append a b) with h | ⟨q, rfl⟩
  · exact ha.nonneg p h
  · rw [level_append, ha.closed, Int.zero_add]
    exact hb.nonneg q ((List.prefix_append_right_inj a).1 hp)

theorem nested_of_flat {a : List Token} (h : ∀ t ∈ a, t ≠ .opening ∧ t ≠ .closing) : Nested a := by
  have hlevel : ∀ p : List Token, (∀ t ∈ p, t ≠ .opening ∧ t ≠ .closing) → level p = 0 := by
    intro p hp
    induction p with
    | nil => rfl
    | cons t p ih =>
      obtain ⟨⟨hopen, hclose⟩, hrest⟩ := List.forall_mem_cons.1 hp
      cases t with
      | opening => exact absurd rfl hopen
      | closing => exact absurd rfl hclose
      | _ => exact ih hrest
  exact ⟨hlevel a h, fun p hp => (hlevel p fun t ht => h t (hp.subset ht)).ge⟩

theorem Nested.group {a : List Token} (h : Nested a) : Nested (.opening :: (a ++ [.closing])) := by
  have hclosed : level (a ++ [.closing]) = -1 := by rw [level_append, h.closed]; rfl
  refine ⟨by rw [level, hclosed]; rfl, fun p hp => ?_⟩
  rcases List.prefix_cons_iff.1 hp with rfl | ⟨q, rfl, hq⟩
  · exact Int.le_refl 0
  · rw [level]
    rcases List.prefix_concat_iff.1 hq with rfl | hq
    · rw [hclosed]; decide
    · have := h.nonneg q hq
      omega

theorem TopFree.append {k : Keyword} {a b : List Token} (ha : Nested a) (hka : TopFree k a) (hkb : TopFree k b) :
    TopFree k (a ++ b) := by
  intro p q hpq
  rcases List.append_eq_append_iff.1 hpq with ⟨z, rfl, hz⟩ | ⟨z, hz, hq⟩
  · rw [level_append, ha.closed, Int.zero_add]
    exact hkb z q hz
  · cases z with
    | nil =>
      have := hkb [] q hq.symm
      rw [List.append_nil] at hz
      rwa [← hz, ha.closed, ← show level [] = 0 from rfl]
    | cons t z =>
      obtain ⟨rfl, -⟩ := List.cons.inj hq
      exact hka p z hz

theorem topFree_of_not_mem {k : Keyword} {a : List Token} (h : .keyword k ∉ a) : TopFree k a := by
  rintro p q rfl
  exact absurd (by simp) h

/-- In parentheses no keyword is at top level. -/
theorem Nested.topFree_group {a : List Token} (h : Nested a) (k : Keyword) :
    TopFree k (.opening :: (a ++ [.closing])) := by
  intro p q hpq
  cases p with
  | nil => cases hpq
  | cons t p =>
    obtain ⟨rfl, hcut⟩ := List.cons.inj hpq
    have hpre : p <+: a := by
      rcases List.prefix_concat_iff.1 ⟨_, hcut.symm⟩ with rfl | h'
      · simp at hcut
      · exact h'
    have := h.nonneg p hpre
    rw [level]
    omega

/-- Two cuts of one list are one if none lies behind another. -/
theorem cut_unique {α : Type} (Cut : List α → List α → Prop)
    (hcut : ∀ (a b c : List α) (t : α), Cut a (t :: b ++ c) → ¬ Cut (a ++ t :: b) c) {a b a' b' : List α}
    (h : a ++ b = a' ++ b') (h₁ : Cut a b) (h₂ : Cut a' b') : a = a' ∧ b = b' := by
  rcases List.append_eq_append_iff.1 h with ⟨z, rfl, rfl⟩ | ⟨z, rfl, rfl⟩
  · cases z with
    | nil => exact ⟨(List.append_nil a).symm, rfl⟩
    | cons t z => exact absurd h₂ (hcut _ _ _ _ h₁)
  · cases z with
    | nil => exact ⟨List.append_nil a', rfl⟩
    | cons t z => exact absurd h₁ (hcut _ _ _ _ h₂)

/-- A cut at the last occurrence of a keyword at top level. -/
structure LastCut (k : Keyword) (a b : List Token) : Prop where
  closed : level a = 0
  last : ∃ c, b = .keyword k :: c ∧ TopFree k c

theorem LastCut.unique {k : Keyword} {a b a' b' : List Token} (h₁ : LastCut k a (.keyword k :: b))
    (h₂ : LastCut k a' (.keyword k :: b')) (h : a ++ .keyword k :: b = a' ++ .keyword k :: b') : a = a' ∧ b = b' := by
  -- between two cuts there is a keyword at top level, which the first of them would not be the last of
  have hcut : ∀ (a b c : List Token) (t : Token), LastCut k a (t :: b ++ c) → ¬ LastCut k (a ++ t :: b) c := by
    rintro a b c t ⟨hclosed, c', hc', hfree⟩ ⟨hclosed', c'', rfl, -⟩
    obtain ⟨rfl, hsplit⟩ := List.cons.inj hc'
    rw [level_append, hclosed, Int.zero_add, level_keyword] at hclosed'
    exact hfree b c'' hsplit.symm hclosed'
  obtain ⟨ha, hb⟩ := cut_unique (LastCut k) hcut h h₁ h₂
  exact ⟨ha, (List.cons.inj hb).2⟩

/-! ## Scalars and tests -/

/-- The tokens that scalars are made of. -/
def IsScalarToken (t : Token) : Prop := (Scalar.ofToken? t).isSome = true ∨ t = .bars

theorem isScalarToken_of_operand {t : Token} {x : Scalar} (h : Scalar.ofToken? t = some x) : IsScalarToken t :=
  .inl (by rw [h]; rfl)

theorem not_isScalarToken_keyword (k : Keyword) : ¬ IsScalarToken (.keyword k) := by
  rintro (h | h) <;> cases h

theorem not_isScalarToken_sign {s : Text} {r : Comparison} (h : Comparison.ofSign? s = some r) :
    ¬ IsScalarToken (.sign s) := by
  rintro (hs | hs)
  · cases hs
  · obtain rfl : s = "||".toList := Token.sign.inj hs
    have hnone : Comparison.ofSign? "||".toList = none := by decide
    rw [hnone] at h
    cases h

theorem Scalar.Reading.tokens {a : List Token} {x : Scalar} (h : Scalar.Reading a x) : ∀ t ∈ a, IsScalarToken t := by
  induction h with
  | operand ht =>
    intro u hu
    rw [List.mem_singleton.1 hu]
    exact isScalarToken_of_operand ht
  | concat _ ht ih =>
    intro u hu
    rcases List.mem_append.1 hu with hu | hu
    · exact ih u hu
    · rcases List.mem_pair.1 hu with rfl | rfl
      · exact .inr rfl
      · exact isScalarToken_of_operand ht

theorem Scalar.Reading.head {a : List Token} {x : Scalar} (h : Scalar.Reading a x) :
    ∃ t ∈ a.head?, (ofToken? t).isSome = true := by
  induction h with
  | @operand t x ht => exact ⟨t, rfl, by rw [ht]; rfl⟩
  | concat _ _ ih =>
    obtain ⟨t, ht, hsome⟩ := ih
    exact ⟨t, by rw [List.head?_append, Option.mem_def.1 ht]; rfl, hsome⟩

theorem Scalar.Reading.unique {a : List Token} {x y : Scalar} (hx : Scalar.Reading a x) (hy : Scalar.Reading a y) :
    x = y := by
  induction hx generalizing y with
  | operand ht =>
    generalize ha : [_] = a at hy
    cases hy with
    | operand ht' =>
      obtain ⟨rfl, -⟩ := List.cons.inj ha
      exact Option.some.inj (ht.symm.trans ht')
    | concat _ _ =>
      have := congrArg List.length ha
      simp at this
  | @concat a t x z h ht ih =>
    generalize ha : a ++ [.bars, t] = b at hy
    cases hy with
    | operand _ =>
      have := congrArg List.length ha
      simp at this
    | concat h' ht' =>
      obtain ⟨rfl, hlast⟩ := List.append_inj' ha rfl
      obtain ⟨rfl, -⟩ := List.cons.inj (List.cons.inj hlast).2
      rw [ih h', Option.some.inj (ht.symm.trans ht')]

/-- A test begins with a token that ends the scalar in front of it. -/
theorem Test.Reading.head {b : List Token} {t : Test} (h : Test.Reading b t) :
    ∃ u c, b = u :: c ∧ ¬ IsScalarToken u := by
  cases h with
  | isNull => exact ⟨_, _, rfl, not_isScalarToken_keyword _⟩
  | sign hs _ => exact ⟨_, _, rfl, not_isScalarToken_sign hs⟩
  | equalAny _ => exact ⟨_, _, rfl, not_isScalarToken_sign (r := .equal) rfl⟩
  | ilike _ => exact ⟨_, _, rfl, not_isScalarToken_keyword _⟩

theorem Test.Reading.unique {b : List Token} {t u : Test} (ht : Test.Reading b t) (hu : Test.Reading b u) : t = u := by
  -- this parts `= ANY (` from a comparison with `=`
  have any_not_scalar : ∀ {c : List Token} {y : Scalar}, ¬ Scalar.Reading (.keyword .any :: c) y := by
    rintro c y h
    obtain ⟨t, ht, hsome⟩ := h.head
    cases ht
    cases hsome
  cases ht with
  | isNull => cases hu; rfl
  | sign hs hy =>
    cases hu with
    | sign hs' hy' => rw [hy.unique hy', Option.some.inj (hs.symm.trans hs')]
    | equalAny _ => exact absurd hy any_not_scalar
  | @equalAny c y hy =>
    generalize hb : .sign _ :: .keyword .any :: .opening :: (c ++ [.closing]) = b at hu
    cases hu with
    | isNull => cases hb
    | sign _ hy' =>
      obtain ⟨-, rfl⟩ := List.cons.inj hb
      exact absurd hy' any_not_scalar
    | equalAny hy' =>
      simp only [List.cons.injEq, true_and, List.append_left_inj] at hb
      subst hb
      rw [hy.unique hy']
    | ilike _ => cases hb
  | @ilike c y escape hy =>
    generalize hb : .keyword .ilike :: (c ++ [.keyword .escape, .literal escape]) = b at hu
    cases hu with
    | isNull => cases hb
    | sign _ _ => cases hb
    | equalAny _ => cases hb
    | ilike hy' =>
      obtain ⟨rfl, hlast⟩ := List.append_inj' (List.cons.inj hb).2 rfl
      cases hlast
      rw [hy.unique hy']

/-- The scalar of a test ends where its tokens end. -/
theorem Scalar.Reading.cut_test {a b a' b' : List Token} {x x' : Scalar} {t t' : Test} (hx : Scalar.Reading a x)
    (ht : Test.Reading b t) (hx' : Scalar.Reading a' x') (ht' : Test.Reading b' t') (h : a ++ b = a' ++ b') :
    a = a' ∧ b = b' := by
  let Cut (a b : List Token) : Prop := (∀ t ∈ a, IsScalarToken t) ∧ ∃ u c, b = u :: c ∧ ¬ IsScalarToken u
  have hcut : ∀ (a b c : List Token) (t : Token), Cut a (t :: b ++ c) → ¬ Cut (a ++ t :: b) c := by
    rintro a b c t ⟨-, u, d, hu, hend⟩ ⟨htokens, -⟩
    obtain ⟨rfl, -⟩ := List.cons.inj hu
    exact hend (htokens _ (by simp))
  exact cut_unique Cut hcut h ⟨hx.tokens, ht.head⟩ ⟨hx'.tokens, ht'.head⟩

/-! ## Unambiguity -/

theorem flat_of_isScalarToken {t : Token} (h : IsScalarToken t) : t ≠ .opening ∧ t ≠ .closing := by
  constructor <;> (rintro rfl; rcases h with h | h <;> cases h)

theorem Scalar.Reading.append_ne_opening {a b c : List Token} {x : Scalar} (h : Scalar.Reading a x) :
    a ++ b ≠ .opening :: c := by
  obtain ⟨t, ht, -⟩ := h.head
  intro hc
  have hfirst := congrArg List.head? hc
  rw [List.head?_append, Option.mem_def.1 ht] at hfirst
  exact (flat_of_isScalarToken (h.tokens t (List.mem_of_mem_head? ht))).1 (Option.some.inj hfirst)

theorem Scalar.Reading.nested {a : List Token} {x : Scalar} (h : Scalar.Reading a x) : Nested a :=
  nested_of_flat fun t ht => flat_of_isScalarToken (h.tokens t ht)

theorem Test.Reading.nested {b : List Token} {t : Test} (h : Test.Reading b t) : Nested b := by
  cases h with
  | isNull => exact nested_of_flat (by simp)
  | @sign s r b y _ hy => exact Nested.append (a := [.sign s]) (nested_of_flat (by simp)) hy.nested
  | equalAny hy =>
    exact Nested.append (a := [.sign "=".toList, .keyword .any]) (nested_of_flat (by simp)) hy.nested.group
  | @ilike b y escape hy =>
    have := hy.nested.append (nested_of_flat (a := [.keyword .escape, .literal escape]) (by simp))
    exact Nested.append (a := [.keyword .ilike]) (nested_of_flat (by simp)) this

theorem Reading.nested {r : Rank} {a : List Token} {x : Expr} (h : Reading r a x) : Nested a := by
  have word : ∀ k : Keyword, Nested [.keyword k] := fun k => nested_of_flat (by simp)
  induction h with
  | or _ _ iha ihb => exact iha.append ((word .or).append ihb)
  | and _ _ iha ihb => exact iha.append ((word .and).append ihb)
  | not _ ih => exact (word .not).append ih
  | group _ ih => exact ih.group
  | test hx ht => exact hx.nested.append ht.nested
  | conjunction _ ih | negation _ ih | tight _ ih => exact ih

/-- The keywords that stand in an expression of the rank in parentheses only. -/
def Rank.absent : Rank → List Keyword
  | .disjunction => []
  | .conjunction => [.or]
  | .negation | .test => [.or, .and]

theorem Test.Reading.not_mem {b : List Token} {t : Test} (h : Test.Reading b t) {k : Keyword}
    (hk : k ∈ Rank.test.absent) : .keyword k ∉ b := by
  have scalar : ∀ {a : List Token} {y : Scalar}, Scalar.Reading a y → .keyword k ∉ a :=
    fun hy hmem => not_isScalarToken_keyword k (hy.tokens _ hmem)
  have hword : k = .or ∨ k = .and := by simpa [Rank.absent] using hk
  cases h with
  | isNull => rcases hword with rfl | rfl <;> decide
  | sign _ hy => simpa using scalar hy
  | equalAny hy => rcases hword with rfl | rfl <;> simpa using scalar hy
  | ilike hy => rcases hword with rfl | rfl <;> simpa using scalar hy

theorem Reading.topFree {r : Rank} {a : List Token} {x : Expr} (h : Reading r a x) :
    ∀ k ∈ r.absent, TopFree k a := by
  have word : ∀ {j k : Keyword}, k ≠ j → ∀ {a : List Token}, TopFree k a → TopFree k (.keyword j :: a) :=
    fun hne _ ha => TopFree.append (a := [.keyword _]) (nested_of_flat (by simp))
      (topFree_of_not_mem (by simp [hne])) ha
  intro k hk
  induction h with
  | or _ _ _ _ | conjunction _ _ => cases hk
  | and hx _ ihx ihy =>
    obtain rfl := List.mem_singleton.1 hk
    exact TopFree.append hx.nested (ihx hk) (word (by decide) (ihy List.mem_cons_self))
  | negation _ ih =>
    obtain rfl := List.mem_singleton.1 hk
    exact ih List.mem_cons_self
  | not _ ih =>
    refine word ?_ (ih hk)
    rintro rfl
    revert hk; decide
  | tight _ ih => exact ih hk
  | group hx _ => exact hx.nested.topFree_group k
  | test hx ht =>
    refine TopFree.append hx.nested (topFree_of_not_mem fun hmem => ?_) (topFree_of_not_mem (ht.not_mem hk))
    exact not_isScalarToken_keyword k (hx.tokens _ hmem)

theorem Reading.lastCut {r : Rank} {a b : List Token} {x : Expr} {k : Keyword} (h : Reading r a x) (hb : TopFree k b) :
    LastCut k a (.keyword k :: b) :=
  ⟨h.nested.closed, b, rfl, hb⟩

/-- A test begins with a parenthesis or a scalar, never with NOT. -/
theorem Reading.ne_keyword {a b : List Token} {x : Expr} {k : Keyword} (h : Reading .test a x) :
    a ≠ .keyword k :: b := by
  intro ha
  cases h with
  | group _ => cases ha
  | test hx _ =>
    obtain ⟨t, ht, hsome⟩ := hx.head
    have hfirst := congrArg List.head? ha
    rw [List.head?_append, Option.mem_def.1 ht] at hfirst
    obtain rfl : t = .keyword k := Option.some.inj hfirst
    cases hsome

/-- The grammar is unambiguous: tokens read as one expression at most. -/
theorem Reading.unique {r : Rank} {a : List Token} {x y : Expr} (hx : Reading r a x) (hy : Reading r a y) : x = y := by
  induction hx generalizing y with
  | @or a b x₁ x₂ h₁ h₂ ih₁ ih₂ =>
    generalize hc : a ++ .keyword .or :: b = c at hy
    cases hy with
    | or h₁' h₂' =>
      -- no OR is at top level behind either cut, so both are at the last one
      obtain ⟨rfl, rfl⟩ := LastCut.unique (h₁.lastCut (h₂.topFree _ (by decide)))
        (h₁'.lastCut (h₂'.topFree _ (by decide))) hc
      rw [ih₁ h₁', ih₂ h₂']
    | conjunction h' =>
      -- the OR would stand at top level in a conjunction
      exact absurd h₁.nested.closed (h'.topFree .or (by decide) a b hc.symm)
  | @conjunction a x h ih =>
    cases hy with
    | @or b c _ _ h₁' h₂' => exact absurd h₁'.nested.closed (h.topFree .or (by decide) b c rfl)
    | conjunction h' => exact ih h'
  | @and a b x₁ x₂ h₁ h₂ ih₁ ih₂ =>
    generalize hc : a ++ .keyword .and :: b = c at hy
    cases hy with
    | and h₁' h₂' =>
      obtain ⟨rfl, rfl⟩ := LastCut.unique (h₁.lastCut (h₂.topFree _ (by decide)))
        (h₁'.lastCut (h₂'.topFree _ (by decide))) hc
      rw [ih₁ h₁', ih₂ h₂']
    | negation h' => exact absurd h₁.nested.closed (h'.topFree .and (by decide) a b hc.symm)
  | @negation a x h ih =>
    cases hy with
    | @and b c _ _ h₁' h₂' => exact absurd h₁'.nested.closed (h.topFree .and (by decide) b c rfl)
    | negation h' => exact ih h'
  | @not a x h ih =>
    cases hy with
    | not h' => rw [ih h']
    | tight h' => exact absurd rfl h'.ne_keyword
  | @tight a x h ih =>
    cases hy with
    | not _ => exact absurd rfl h.ne_keyword
    | tight h' => exact ih h'
  | @group a x h ih =>
    generalize hc : Token.opening :: (a ++ [.closing]) = c at hy
    cases hy with
    | group h' =>
      obtain rfl := List.append_cancel_right (List.cons.inj hc).2
      exact ih h'
    | test hx' _ => exact absurd hc.symm hx'.append_ne_opening
  | @test a b x t hx ht =>
    generalize hc : a ++ b = c at hy
    cases hy with
    | group _ => exact absurd hc hx.append_ne_opening
    | test hx' ht' =>
      obtain ⟨rfl, rfl⟩ := hx.cut_test ht hx' ht' hc
      rw [hx.unique hx', ht.unique ht']

theorem ReadsAs.unique {s : Text} {x y : Expr} (hx : ReadsAs s x) (hy : ReadsAs s y) : x = y := by
  obtain ⟨ts, hts, hx⟩ := hx
  obtain ⟨us, hus, hy⟩ := hy
  obtain rfl := Option.some.inj (hts.symm.trans hus)
  exact hx.unique hy

end SensorRegistry.Sql
