/-
Placeholders `$1`, `$2`, … of a statement: how one is written, and the highest index in a text.

The scan looks at characters alone. A `$` without digits counts as index zero, and an index that
does not fit 64 bits counts as the greatest one that does.
-/
import SensorRegistry.Text
import SensorRegistry.Number.Integer

namespace SensorRegistry.Placeholder

/-- The placeholder of an index. -/
def write (index : Nat) : Text := '$' :: Text.ofNat index

/-- The greatest index. -/
def greatest : Nat := 18446744073709551615

/-- The highest index of a text, given the highest so far and the index that is being read. -/
def scan (last : Nat) (current : Option Nat) : Text → Nat
  | [] => max last (current.getD 0)
  | c :: rest =>
    match current, digitValue? c with
    | some index, some d => scan last (some (min greatest (index * 10 + d))) rest
    | _, _ => scan (max last (current.getD 0)) (if c = '$' then some 0 else none) rest

/-- The highest placeholder index of a statement, zero if it has none. -/
def last (sql : Text) : Nat := scan 0 none sql

end SensorRegistry.Placeholder
