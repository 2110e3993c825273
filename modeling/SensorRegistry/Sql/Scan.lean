/-
Positions in a statement, found without parsing it.

A single pass keeps track of parentheses and of single-quoted literals. A keyword counts only where
no parenthesis is open and no literal is, and only as a whole word. Positions are byte offsets.
-/
import SensorRegistry.Text

namespace SensorRegistry.Sql

/-! ## Nesting -/

/-- How deep in parentheses a position lies, and whether it lies in a literal. The depth has no bounds; a counter of
32 bits agrees with it as long as fewer than 2^31 parentheses are open or closed in excess. -/
structure Nesting where
  depth : Int
  quoted : Bool
  deriving DecidableEq, Repr

namespace Nesting

/-- Outside parentheses and literals. -/
def outer : Nesting := ⟨0, false⟩

/-- The nesting behind a character. In a literal only the quote that ends it counts. -/
def step (n : Nesting) (c : Char) : Nesting :=
  if n.quoted then (if c = '\'' then { n with quoted := false } else n)
  else if c = '\'' then { n with quoted := true }
  else if c = '(' then { n with depth := n.depth + 1 }
  else if c = ')' then { n with depth := n.depth - 1 }
  else n

/-- The nesting behind a text. -/
def after (n : Nesting) (s : Text) : Nesting := s.foldl step n

end Nesting

/-- Whether the character changes the nesting outside a literal. -/
def isDelimiter (c : Char) : Bool := c == '\'' || c == '(' || c == ')'

/-! ## Words -/

/-- Whether the character can be part of an identifier. -/
def isIdentifierChar (c : Char) : Bool := c.isAlphanum || c == '_' || c == '.' || c == '$'

/-- What follows the keyword at the start of a text, ASCII case ignored. -/
def afterKeyword? : Text → Text → Option Text
  | [], s => some s
  | _ :: _, [] => none
  | k :: keyword, c :: s => if k.toLower = c.toLower then afterKeyword? keyword s else none

/-- Whether two neighbours are not inside one word: one of them is no identifier character. -/
def isBreak (inside outside : Option Char) : Bool :=
  !(inside.any isIdentifierChar && outside.any isIdentifierChar)

/-- Whether the text starts with the keyword as a whole word, `before` being the character in front
of the text. -/
def startsWithKeyword (keyword : Text) (before : Option Char) (s : Text) : Bool :=
  match afterKeyword? keyword s with
  | none => false
  | some after => isBreak keyword.head? before && isBreak keyword.getLast? after.head?

/-! ## Search -/

/-- The first position not before `start` where the keyword stands at top level, in a text that
begins at `pos` behind the character `before` with the given nesting. -/
def seek (keyword : Text) (start : Nat) (nesting : Nesting) (before : Option Char) (pos : Nat) :
    Text → Option Nat
  | [] => none
  | c :: rest =>
    if nesting = .outer ∧ isDelimiter c = false ∧ start ≤ pos
        ∧ startsWithKeyword keyword before (c :: rest) then some pos
    else seek keyword start (nesting.step c) (some c) (pos + c.utf8Size) rest

/-- The first position of the keyword at top level that is not before `start`. -/
def findTopLevel (sql keyword : Text) (start : Nat) : Option Nat :=
  seek keyword start .outer none 0 sql

/-- The first position of any of the keywords at top level that is not before `start`. -/
def findFirstOf (sql : Text) (keywords : List Text) (start : Nat) : Option Nat :=
  (keywords.filterMap fun keyword => findTopLevel sql keyword start).min?

end SensorRegistry.Sql
