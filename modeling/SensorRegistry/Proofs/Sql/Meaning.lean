/-
What a condition means. Its expression is worth one of three truth values on a row, over comparisons
about which nothing is assumed but that they are unknown of missing values. Each predicate reads as a
test, in parentheses where it has an OR, so that the conjunction reads as the AND of all of them; and
each is true of the rows that its filter accepts, by its own parameter.
-/
import SensorRegistry.Proofs.Sql.Condition
import SensorRegistry.Proofs.Sql.Expression

namespace SensorRegistry.Sql

/-! ## Three-valued logic -/

inductive Truth
  | false
  | unknown
  | true
  deriving DecidableEq

namespace Truth

def ofBool : Bool → Truth
  | .true => .true
  | .false => .false

def not : Truth → Truth
  | .true => .false
  | .unknown => .unknown
  | .false => .true

def and : Truth → Truth → Truth
  | .true, t => t
  | .unknown, .false => .false
  | .unknown, _ => .unknown
  | .false, _ => .false

def or (s t : Truth) : Truth := (s.not.and t.not).not

theorem ofBool_eq_true {b : Bool} : ofBool b = .true ↔ b = .true := by cases b <;> decide

theorem and_eq_true {s t : Truth} : s.and t = .true ↔ s = .true ∧ t = .true := by
  cases s <;> cases t <;> decide

theorem or_eq_true {s t : Truth} : s.or t = .true ↔ s = .true ∨ t = .true := by
  cases s <;> cases t <;> decide

end Truth

/-! ## Evaluation -/

/-- The values of a database, how parameters and literals become values, and what its comparisons hold of. -/
structure Engine (V : Type) where
  value : Param → V
  literal : Text → V
  concat : V → V → V
  holds : Comparison → V → V → Bool

section Evaluation

variable {V : Type} (engine : Engine V) (row : Text → Option V) (params : List Param)

/-- The value of a scalar, unless it is missing. Placeholders count from one. -/
def Scalar.eval : Scalar → Option V
  | .column name => row name
  | .placeholder 0 => none
  | .placeholder (n + 1) => params[n]?.map engine.value
  | .literal content => some (engine.literal content)
  | .concat x y => x.eval.bind fun v => y.eval.map (engine.concat v)

def Test.eval (cell : Option V) : Test → Truth
  | .isNull => .ofBool cell.isNone
  | .compare r y =>
    match cell, y.eval engine row params with
    | some v, some w => .ofBool (engine.holds r v w)
    | _, _ => .unknown

def Expr.eval : Expr → Truth
  | .test x t => t.eval engine row params (x.eval engine row params)
  | .not x => x.eval.not
  | .and x y => x.eval.and y.eval
  | .or x y => x.eval.or y.eval

@[simp] theorem Expr.eval_not (x : Expr) : x.not.eval engine row params = (x.eval engine row params).not := rfl

@[simp] theorem Expr.eval_and (x y : Expr) :
    (x.and y).eval engine row params = (x.eval engine row params).and (y.eval engine row params) := rfl

@[simp] theorem Expr.eval_or (x y : Expr) :
    (x.or y).eval engine row params = (x.eval engine row params).or (y.eval engine row params) := rfl

end Evaluation

/-! ## What filters accept -/

namespace Engine

variable {V : Type} (engine : Engine V)

/-- Whether the operation's comparison of a value with a parameter is true. -/
def compares (op : Operation) (v : V) (p : Param) : Bool :=
  match op with
  | .equals | .notEquals => engine.holds .equal v (engine.value p)
  | .oneOf => engine.holds .equalAny v (engine.value p)
  | .like =>
    let any := engine.literal "%".toList
    engine.holds (.ilike "\\".toList) v (engine.concat (engine.concat any (engine.value p)) any)
  | .greater => engine.holds .greater v (engine.value p)
  | .greaterOrEqual => engine.holds .greaterOrEqual v (engine.value p)
  | .lower => engine.holds .less v (engine.value p)
  | .lowerOrEqual => engine.holds .lessOrEqual v (engine.value p)
  | .unknown => false

/-- Whether a filter with the operation and the parameter accepts a cell: inequality does if the cell is
missing or its comparison false, every other operation if the cell is there and its comparison true. -/
def Accepts (op : Operation) (cell : Option V) (p : Param) : Prop :=
  if op = .notEquals then ∀ v ∈ cell, engine.compares op v p = false
  else ∃ v ∈ cell, engine.compares op v p = true

/-- Equality and inequality share their comparison, so one of them accepts and the other does not. -/
theorem accepts_equals_xor_notEquals (cell : Option V) (p : Param) :
    Xor (engine.Accepts .equals cell p) (engine.Accepts .notEquals cell p) := by
  unfold Accepts
  cases cell with
  | none => exact .inr ⟨by simp, by simp⟩
  | some v =>
    cases h : engine.holds .equal v (engine.value p) with
    | false => exact .inr ⟨by simp [compares, h], by simp [compares, h]⟩
    | true => exact .inl ⟨by simp [compares, h], by simp [compares, h]⟩

end Engine

/-! ## One predicate -/

/-- The expression that an operation's predicate reads as. -/
def expression? (column : Text) (op : Operation) (n : Nat) : Option Expr :=
  let compare (r : Comparison) : Expr := .test (.column column) (.compare r (.placeholder n))
  match op with
  | .equals => some (compare .equal)
  | .notEquals => some (.or (.not (compare .equal)) (.test (.column column) .isNull))
  | .like => some (.test (.column column) (.compare (.ilike "\\".toList)
      (.concat (.concat (.literal "%".toList) (.placeholder n)) (.literal "%".toList))))
  | .oneOf => some (compare .equalAny)
  | .greater => some (compare .greater)
  | .greaterOrEqual => some (compare .greaterOrEqual)
  | .lower => some (compare .less)
  | .lowerOrEqual => some (compare .lessOrEqual)
  | .unknown => none

theorem Scans.behind {p q : Pending} {s : Text} {ts us : List Token} (hp : p.finish? = some ts)
    (h : Scans .none s us q) : Scans p (' ' :: s) (ts ++ us) q :=
  (Scans.blank hp).append h

theorem Scans.tokens? {s : Text} {p : Pending} {ts us : List Token} (h : Scans .none s ts p)
    (hp : p.finish? = some us) : tokens? s = some (ts ++ us) :=
  tokens?_eq_some_iff.2 ⟨ts, p, us, h, hp, rfl⟩

section Predicates

variable {column : Text} (hcol : IsName column) (n : Nat)
include hcol

theorem scans_equal : Scans .none (column ++ "=".toList ++ Placeholder.write n) [.name column, .sign "=".toList]
    (.placeholder (Text.ofNat n)) := by
  have hsign : Scans (.word column) "=".toList ([.name column] ++ [] ++ []) (.sign "=".toList) :=
    Scans.start rfl hcol.finish rfl (.nil _)
  exact (hcol.scans.append hsign).append (scans_write rfl rfl n)

omit hcol in
theorem reading_compare {sign : Text} {r : Comparison} (hr : Comparison.ofSign? sign = some r) :
    Reading .test [.name column, .sign sign, .placeholder n]
      (.test (.column column) (.compare r (.placeholder n))) := by
  show Reading .test ([.name column] ++ [.sign sign, .placeholder n]) _
  exact .test (.operand rfl) (.sign hr (.operand rfl))

theorem readsAt_equal : ReadsAt .test (column ++ "=".toList ++ Placeholder.write n)
    (.test (.column column) (.compare .equal (.placeholder n))) :=
  ⟨_, (scans_equal hcol n).tokens? (finish_ofNat n), reading_compare n rfl⟩

theorem readsAt_order (sign : Text) {r : Comparison} (hr : Comparison.ofSign? sign = some r)
    (hsign : Scans .none (sign ++ [' ']) [.sign sign] .none) :
    ReadsAt .test (column ++ ' ' :: (sign ++ [' ']) ++ Placeholder.write n)
      (.test (.column column) (.compare r (.placeholder n))) := by
  have hscan := (hcol.scans.append (hsign.behind hcol.finish)).append (scans_write rfl rfl n)
  exact ⟨_, hscan.tokens? (finish_ofNat n), reading_compare n hr⟩

/-- The parentheses keep the OR of a negation together. -/
theorem readsAt_notEqual :
    ReadsAt .test ("(NOT ".toList ++ column ++ "=".toList ++ Placeholder.write n ++ " OR ".toList ++ column
        ++ " IS NULL)".toList)
      (.or (.not (.test (.column column) (.compare .equal (.placeholder n)))) (.test (.column column) .isNull)) := by
  have hnot : Scans .none "(NOT ".toList [.opening, .keyword .not] .none := by decide
  have hor : Scans .none "OR ".toList [.keyword .or] .none := by decide
  have hnull : Scans .none "IS NULL)".toList [.keyword .is, .keyword .null, .closing] .none := by decide
  -- NOT and the comparison, OR, the column again with IS NULL and the closing parenthesis
  have hscan := (((hnot.append (scans_equal hcol n)).append (hor.behind (finish_ofNat n))).append hcol.scans).append
    (hnull.behind hcol.finish)
  have hmissing : Reading .test [.name column, .keyword .is, .keyword .null] (.test (.column column) .isNull) := by
    show Reading .test ([.name column] ++ [.keyword .is, .keyword .null]) _
    exact .test (.operand rfl) .isNull
  have hequal : Reading .test [.name column, .sign "=".toList, .placeholder n] _ := reading_compare n rfl
  refine ⟨_, ?_, .group (.or (.conjunction (.negation (.not (.tight hequal)))) (.negation (.tight hmissing)))⟩
  simpa using hscan.tokens? rfl

theorem readsAt_oneOf : ReadsAt .test (column ++ " = ANY(".toList ++ Placeholder.write n ++ ")".toList)
    (.test (.column column) (.compare .equalAny (.placeholder n))) := by
  have hany : Scans .none "= ANY(".toList [.sign "=".toList, .keyword .any, .opening] .none := by decide
  have hclosing : Scans (.placeholder (Text.ofNat n)) ")".toList ([.placeholder n] ++ [.closing] ++ []) .none :=
    Scans.start rfl (finish_ofNat n) rfl (.nil _)
  have hscan := ((hcol.scans.append (hany.behind hcol.finish)).append (scans_write rfl rfl n)).append hclosing
  refine ⟨_, hscan.tokens? rfl, ?_⟩
  show Reading .test ([.name column] ++
    .sign "=".toList :: .keyword .any :: .opening :: ([.placeholder n] ++ [.closing])) _
  exact .test (.operand rfl) (.equalAny (.operand rfl))

theorem readsAt_like :
    ReadsAt .test (column ++ " ILIKE '%' || ".toList ++ Placeholder.write n ++ " || '%' ESCAPE '\\'".toList)
      (.test (.column column) (.compare (.ilike "\\".toList)
        (.concat (.concat (.literal "%".toList) (.placeholder n)) (.literal "%".toList)))) := by
  have hlike : Scans .none "ILIKE '%' || ".toList [.keyword .ilike, .literal "%".toList, .bars] .none := by decide
  have hescape : Scans .none "|| '%' ESCAPE '\\'".toList [.bars, .literal "%".toList, .keyword .escape]
      (.quoted "\\".toList) := by decide
  have hscan := ((hcol.scans.append (hlike.behind hcol.finish)).append (scans_write rfl rfl n)).append
    (hescape.behind (finish_ofNat n))
  refine ⟨_, hscan.tokens? rfl, ?_⟩
  show Reading .test ([.name column] ++ .keyword .ilike :: ((([.literal "%".toList] ++ [.bars, .placeholder n]) ++
    [.bars, .literal "%".toList]) ++ [.keyword .escape, .literal "\\".toList])) _
  exact .test (.operand rfl) (.ilike (.concat (.concat (.operand rfl) rfl) rfl))

theorem readsAt_predicate {sql : Text} {op : Operation} (h : Condition.predicate? column op n = some sql) :
    ∃ x, expression? column op n = some x ∧ ReadsAt .test sql x := by
  cases op <;> cases h
  case equals => exact ⟨_, rfl, readsAt_equal hcol n⟩
  case notEquals => exact ⟨_, rfl, readsAt_notEqual hcol n⟩
  case oneOf => exact ⟨_, rfl, readsAt_oneOf hcol n⟩
  case like => exact ⟨_, rfl, readsAt_like hcol n⟩
  case greater => exact ⟨_, rfl, readsAt_order hcol n ">".toList rfl (by decide)⟩
  case greaterOrEqual => exact ⟨_, rfl, readsAt_order hcol n ">=".toList rfl (by decide)⟩
  case lower => exact ⟨_, rfl, readsAt_order hcol n "<".toList rfl (by decide)⟩
  case lowerOrEqual => exact ⟨_, rfl, readsAt_order hcol n "<=".toList rfl (by decide)⟩

end Predicates

theorem ReadsAt.tight {s : Text} {x : Expr} (h : ReadsAt .test s x) : ReadsAt .negation s x := by
  obtain ⟨ts, hts, hx⟩ := h
  exact ⟨ts, hts, .tight hx⟩

theorem ReadsAt.negation {s : Text} {x : Expr} (h : ReadsAt .negation s x) : ReadsAt .conjunction s x := by
  obtain ⟨ts, hts, hx⟩ := h
  exact ⟨ts, hts, .negation hx⟩

theorem ReadsAt.readsAs {s : Text} {x : Expr} (h : ReadsAt .conjunction s x) : ReadsAs s x := by
  obtain ⟨ts, hts, hx⟩ := h
  exact ⟨ts, hts, .conjunction hx⟩

theorem ReadsAt.and {s t : Text} {x y : Expr} (hx : ReadsAt .conjunction s x) (hy : ReadsAt .negation t y) :
    ReadsAt .conjunction (s ++ " AND ".toList ++ t) (.and x y) := by
  obtain ⟨a, ha, hx⟩ := hx
  obtain ⟨b, hb, hy⟩ := hy
  obtain ⟨us, p, vs, hs, hp, rfl⟩ := tokens?_eq_some_iff.1 ha
  obtain ⟨us', q, vs', ht, hq, rfl⟩ := tokens?_eq_some_iff.1 hb
  have hand : Scans .none "AND ".toList [.keyword .and] .none := by decide
  have hscan := (hs.append (hand.behind hp)).append ht
  refine ⟨_, hscan.tokens? hq, ?_⟩
  rw [show us ++ (vs ++ [.keyword .and]) ++ us' ++ vs' = us ++ vs ++ .keyword .and :: (us' ++ vs') by simp]
  exact .and hx hy

/-! ## Predicates are true of what their filters accept -/

section Truth

variable {V : Type} (engine : Engine V) (row : Text → Option V) (params : List Param)

theorem eval_compare_missing {column : Text} (hcell : row column = none) (r : Comparison) (y : Scalar) :
    (Expr.test (.column column) (.compare r y)).eval engine row params = .unknown := by
  rw [Expr.eval, Scalar.eval, hcell]
  rfl

theorem eval_compare {column : Text} {v w : V} {y : Scalar} (hcell : row column = some v)
    (hy : y.eval engine row params = some w) (r : Comparison) :
    (Expr.test (.column column) (.compare r y)).eval engine row params = .ofBool (engine.holds r v w) := by
  rw [Expr.eval, Scalar.eval, hcell]
  simp only [Test.eval, hy]

theorem eval_isNull (column : Text) :
    (Expr.test (.column column) .isNull).eval engine row params = .ofBool (row column).isNone := rfl

/-- Of a missing cell every comparison is unknown and so is its negation, but the test for NULL is true. -/
theorem eval_expression_missing {column : Text} {op : Operation} {n : Nat} {x : Expr} (hcell : row column = none)
    (hx : expression? column op n = some x) : x.eval engine row params = .true ↔ op = .notEquals := by
  have hmissing := eval_compare_missing engine row params hcell
  cases op <;> cases hx
  case notEquals => simp [hmissing, eval_isNull, hcell, Truth.or_eq_true, Truth.ofBool]
  all_goals simp [hmissing]

theorem eval_expression_present {column : Text} {op : Operation} {n : Nat} {x : Expr} {v : V} {p : Param}
    (hcell : row column = some v) (hx : expression? column op (n + 1) = some x) (hp : params[n]? = some p) :
    x.eval engine row params = .true ↔ engine.compares op v p = ! decide (op = .notEquals) := by
  have hvalue : (Scalar.placeholder (n + 1)).eval engine row params = some (engine.value p) := by
    rw [Scalar.eval, hp]; rfl
  -- matching compares with the parameter between two wildcards
  have hpattern : (Scalar.concat (.concat (.literal "%".toList) (.placeholder (n + 1))) (.literal "%".toList)).eval
      engine row params = some (engine.concat (engine.concat (engine.literal "%".toList) (engine.value p))
        (engine.literal "%".toList)) := by
    simp only [Scalar.eval.eq_5, Scalar.eval.eq_4, hvalue, Option.map_some, Option.bind_some]
  have hcompare := eval_compare engine row params hcell hvalue
  cases op <;> cases hx
  case notEquals =>
    cases h : engine.holds .equal v (engine.value p) <;>
      simp [hcompare, eval_isNull, hcell, Engine.compares, h, Truth.or_eq_true, Truth.ofBool, Truth.not]
  case like =>
    rw [eval_compare engine row params hcell hpattern, Truth.ofBool_eq_true]
    exact Iff.rfl
  all_goals simp [hcompare, Engine.compares, Truth.ofBool_eq_true]

theorem eval_expression {column : Text} {op : Operation} {n : Nat} {x : Expr} {p : Param}
    (hx : expression? column op (n + 1) = some x) (hp : params[n]? = some p) :
    x.eval engine row params = .true ↔ engine.Accepts op (row column) p := by
  unfold Engine.Accepts
  cases hcell : row column with
  | none =>
    rw [eval_expression_missing engine row params hcell hx]
    split
    · rename_i hne
      exact ⟨fun _ v hv => (nomatch hv), fun _ => hne⟩
    · rename_i hne
      exact ⟨fun h => absurd h hne, fun ⟨v, hv, _⟩ => (nomatch hv)⟩
  | some v =>
    rw [eval_expression_present engine row params hcell hx hp]
    split <;> simp [*]

end Truth

end SensorRegistry.Sql

namespace SensorRegistry.Condition

open Sql

/-! ## The conjunction -/

section Conjunction

variable {V : Type} (engine : Engine V) (row : Text → Option V)

/-- The filter accepts the row by the parameter that its own value becomes. -/
def AcceptedBy (m : Text × Filter) : Prop :=
  ∃ p, m.2.coerce = .ok p ∧ engine.Accepts m.2.operation (row m.1) p

/-- The predicate of a filter is true by the filter's own parameter, which stands at its placeholder. -/
theorem eval_own {column : Text} {f : Filter} {x : Expr} {p : Param} {params : List Param} {n : Nat}
    (hp : f.coerce = .ok p) (hx : expression? column f.operation (n + 1) = some x) (hown : params[n]? = some p) :
    x.eval engine row params = .true ↔ AcceptedBy engine row (column, f) := by
  rw [eval_expression engine row params hx hown]
  constructor
  · exact fun h => ⟨p, hp, h⟩
  · rintro ⟨q, hq, h⟩
    cases hp.symm.trans hq
    exact h

/-- Behind a condition that is read already, the rendered predicates read as further ANDs, and they add
that their filters accept the row. -/
theorem Rendered.reads_behind {last : Nat} {ms : List (Text × Filter)} {ts : List (Text × Param)}
    (h : Rendered last ms ts) (hcol : ∀ m ∈ ms, IsName m.1) {s : Text} {x : Expr} (hx : ReadsAt .conjunction s x) :
    ∃ y, ReadsAt .conjunction (Text.join " AND " (s :: ts.map (·.1))) y ∧
      ∀ before params : List Param, before.length = last → params = before ++ ts.map (·.2) →
        (y.eval engine row params = .true ↔
          x.eval engine row params = .true ∧ ∀ m ∈ ms, AcceptedBy engine row m) := by
  induction h generalizing s x with
  | nil => exact ⟨x, by rwa [List.map_nil, Text.join_singleton], by simp⟩
  | @cons last column sql f p ms ts hp hsql _ ih =>
    obtain ⟨hname, hnames⟩ := List.forall_mem_cons.1 hcol
    obtain ⟨z, hz, hsqlz⟩ := readsAt_predicate hname (last + 1) hsql
    obtain ⟨y, hy, heval⟩ := ih hnames (hx.and hsqlz.tight)
    refine ⟨y, by rwa [Text.join_cons_cons] at hy, fun before params hlength hparams => ?_⟩
    -- the parameter of this predicate is the last one before those of the others
    have hown : params[last]? = some p := by simp [hparams, ← hlength]
    rw [heval (before ++ [p]) params (by simp [hlength]) (by simp [hparams]), Expr.eval_and, Truth.and_eq_true,
      eval_own engine row hp hz hown, List.forall_mem_cons, and_assoc]

theorem Rendered.reads {last : Nat} {ms : List (Text × Filter)} {ts : List (Text × Param)}
    (h : Rendered last ms ts) (hne : ms ≠ []) (hcol : ∀ m ∈ ms, IsName m.1) :
    ∃ y, ReadsAs (Text.join " AND " (ts.map (·.1))) y ∧
      ∀ before : List Param, before.length = last →
        (y.eval engine row (before ++ ts.map (·.2)) = .true ↔ ∀ m ∈ ms, AcceptedBy engine row m) := by
  cases h with
  | nil => exact absurd rfl hne
  | @cons _ column sql f p ms ts hp hsql h =>
    obtain ⟨hname, hnames⟩ := List.forall_mem_cons.1 hcol
    obtain ⟨z, hz, hsqlz⟩ := readsAt_predicate hname (last + 1) hsql
    obtain ⟨y, hy, heval⟩ := h.reads_behind engine row hnames hsqlz.tight.negation
    refine ⟨y, hy.readsAs, fun before hlength => ?_⟩
    have hown : (before ++ ((sql, p) :: ts).map (·.2))[last]? = some p := by simp [← hlength]
    rw [heval (before ++ [p]) _ (by simp [hlength]) (by simp), eval_own engine row hp hz hown, List.forall_mem_cons]

end Conjunction

/-- A condition means that every mapped filter accepts the row. Over columns that read as names, a compiled
condition that is not empty can be read, and however it is read, it is true of a row, its parameters bound
behind those of the placeholders before it, exactly when each mapped filter accepts the row by its own
parameter. Of equality and inequality with one field and value exactly one accepts a row. -/
theorem ofGroup_meaning {columns : Columns} {group : FilterGroup} {last : Nat} {c : Condition}
    (hc : ofGroup columns group last = .ok c) (hne : c.sql ≠ []) (hcol : ∀ m ∈ mapped columns group, IsName m.1)
    {V : Type} (engine : Engine V) (row : Text → Option V) :
    (∃ x, ReadsAs c.sql x) ∧
    (∀ x, ReadsAs c.sql x → ∀ before : List Param, before.length = last →
      (x.eval engine row (before ++ c.params) = .true ↔
        ∀ m ∈ mapped columns group, ∃ p, m.2.coerce = .ok p ∧ engine.Accepts m.2.operation (row m.1) p)) ∧
    ∀ (f : Filter) (p : Param) (column : Text), { f with operation := .equals }.coerce = .ok p →
      { f with operation := .notEquals }.coerce = .ok p ∧
        Xor (engine.Accepts .equals (row column) p) (engine.Accepts .notEquals (row column) p) := by
  obtain ⟨ts, hts, rfl⟩ := ofGroup_eq_ok_iff.1 hc
  have hmapped : mapped columns group ≠ [] := by
    intro hnil
    rw [hnil] at hts
    cases hts
    exact hne rfl
  obtain ⟨y, hy, heval⟩ := hts.reads engine row hmapped hcol
  refine ⟨⟨y, hy⟩, fun x hx before hlength => ?_, fun f p column hp => ?_⟩
  · rw [hx.unique hy]
    exact heval before hlength
  · refine ⟨?_, engine.accepts_equals_xor_notEquals (row column) p⟩
    rw [← hp]
    unfold Filter.coerce
    cases f.valueType <;> rfl

/-- A missing name is no reason to reject, although its comparison is unknown. -/
theorem ofGroup_meaning_missing_cell :
    let columns : Columns := ⟨[("name".toList, "name".toList), ("rate".toList, "rate".toList)], []⟩
    let group : FilterGroup := ⟨[⟨"name".toList, .notEquals, "a".toList, .string⟩,
      ⟨"rate".toList, .greater, "5".toList, .int⟩], none, .ascending⟩
    let holds : Comparison → Param → Param → Bool
      | .equal, v, w => decide (v = w)
      | .greater, .int v, .int w => decide (w < v)
      | _, _, _ => false
    let row : Text → Option Param := fun column => if column = "rate".toList then some (.int 7) else none
    ∃ c x, ofGroup columns group 1 = .ok c ∧ c.sql = "(NOT name=$2 OR name IS NULL) AND rate > $3".toList ∧
      ReadsAs c.sql x ∧ x.eval ⟨id, .text, fun v _ => v, holds⟩ row ([.bool true] ++ c.params) = .true := by
  intro columns group holds row
  let name : Filter := ⟨"name".toList, .notEquals, "a".toList, .string⟩
  let rate : Filter := ⟨"rate".toList, .greater, "5".toList, .int⟩
  have hc : ofGroup columns group 1 =
      .ok ⟨"(NOT name=$2 OR name IS NULL) AND rate > $3".toList, [.text "a".toList, .int 5]⟩ := by decide +kernel
  have hmapped : mapped columns group = [("name".toList, name), ("rate".toList, rate)] := by decide +kernel
  have hcol : ∀ m ∈ mapped columns group, IsName m.1 := by rw [hmapped]; decide +kernel
  obtain ⟨⟨x, hx⟩, hmeaning, -⟩ := ofGroup_meaning hc (by simp) hcol ⟨id, .text, fun v _ => v, holds⟩ row
  refine ⟨_, x, hc, rfl, hx, (hmeaning x hx [.bool true] rfl).2 ?_⟩
  rw [hmapped]
  simp only [List.forall_mem_cons]
  refine ⟨⟨.text "a".toList, rfl, ?_⟩, ⟨.int 5, by decide +kernel, ?_⟩, List.forall_mem_nil _⟩
  · exact fun v hv => nomatch hv
  · exact ⟨.int 7, rfl, by decide⟩

end SensorRegistry.Condition
