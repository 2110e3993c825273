/-
The readers of one query string. A whitelist takes the raw texts behind `filters=` and, as form pairs, the first `sort`
and the first `order`; the options of paging take the first pairs of their two names. So a piece that is none of these
changes nothing, wherever it stands: each reader sees a query string through what it takes from it.

The texts of a filter's value and of a field to sort by go through different decoders, a strict one and a forgiving one.
What the strict one reads is the text whose written form stands there, and then the other reads the same.
-/
import SensorRegistry.Filter.Whitelist
import SensorRegistry.Page.Options
import SensorRegistry.Proofs.QueryString

namespace SensorRegistry

open QueryString

/-! ## What the readers take -/

theorem OrderRequest.read_congr {query query' : Text} (hsort : first? "sort".toList query = first? "sort".toList query')
    (horder : first? "order".toList query = first? "order".toList query') (orderable : List Text) :
    read orderable query = read orderable query' := by
  have hfield : param "sort" query = param "sort" query' := congrArg (·.getD []) hsort
  have hdirection : param "order" query = param "order" query' := congrArg (·.getD []) horder
  unfold read fieldProblem? directionProblem? field? direction?
  rw [hfield, hdirection]

theorem Whitelist.parse_congr {query query' : Option Text}
    (htokens : tokens (query.getD []) = tokens (query'.getD []))
    (hsort : first? "sort".toList (query.getD []) = first? "sort".toList (query'.getD []))
    (horder : first? "order".toList (query.getD []) = first? "order".toList (query'.getD [])) (w : Whitelist) :
    w.parse query = w.parse query' := by
  unfold parse problems outcomes
  dsimp only
  rw [htokens, OrderRequest.read_congr hsort horder]

theorem PageOptions.resolve_congr {o : PageOptions} {query query' : Option Text}
    (hlimit : first? o.limitName (query.getD []) = first? o.limitName (query'.getD []))
    (hoffset : first? o.offsetName (query.getD []) = first? o.offsetName (query'.getD [])) :
    o.resolve query = o.resolve query' := by
  unfold resolve number?
  dsimp only
  rw [hlimit, hoffset]

/-! ## Foreign pieces -/

/-- Query parameters do not interfere. Take any query string, or none, and put one more piece between its pieces, at
any place. If the piece does not start with `filters=` and its decoded key is neither `sort` nor `order`, every
whitelist gives the same group or the same problems in the same order. If its key is neither of the two names that
the options of paging read, they give the same page. An empty piece has no key. -/
theorem foreign_piece_unseen {p : Text} (hp : '&' ∉ p) (n : Nat) (query : Option Text) :
    (¬ "filters=".toList <+: p → key? p ≠ some "sort".toList → key? p ≠ some "order".toList →
      ∀ w : Whitelist, w.parse (some (insertPiece n p query)) = w.parse query) ∧
    ∀ o : PageOptions, key? p ≠ some o.limitName → key? p ≠ some o.offsetName →
      o.resolve (some (insertPiece n p query)) = o.resolve query := by
  constructor
  · intro hfilters hsort horder w
    have hname : ¬ "filters".toList ++ ['='] <+: p := hfilters
    refine Whitelist.parse_congr ?_ ?_ ?_ w
    · exact literals_insertPiece hp n query hname
    · exact first?_insertPiece hp n query hsort
    · exact first?_insertPiece hp n query horder
  · intro o hlimit hoffset
    exact PageOptions.resolve_congr (first?_insertPiece hp n query hlimit) (first?_insertPiece hp n query hoffset)

/-- A key that only decodes to `filters` is no literal one, so its piece asks for no filter. -/
theorem foreign_piece_unseen_escaped :
    let p := "filter%73=alias:eq:x".toList
    let query := "filters=alias:eq:a&sort=alias&limit=7".toList
    let w := (Whitelist.empty.filter "alias".toList .string).allowOrder ["alias".toList]
    '&' ∉ p ∧ ¬ "filters=".toList <+: p ∧ key? p = some "filters".toList ∧
      insertPiece 1 p (some query) = "filters=alias:eq:a&filter%73=alias:eq:x&sort=alias&limit=7".toList ∧
      w.parse (some (insertPiece 1 p (some query))) = w.parse (some query) ∧
      PageOptions.standard.resolve (some (insertPiece 1 p (some query))) =
        PageOptions.standard.resolve (some query) := by
  intro p query w
  have hp : '&' ∉ p := by decide
  have hfilters : ¬ "filters=".toList <+: p := by decide
  have hkey : key? p = some "filters".toList := by decide +kernel
  obtain ⟨hparse, hresolve⟩ := foreign_piece_unseen hp 1 (some query)
  refine ⟨hp, hfilters, hkey, by decide +kernel, hparse hfilters ?_ ?_ w, hresolve .standard ?_ ?_⟩
  all_goals
    rw [hkey]
    decide

/-! ## Two decoders -/

theorem QueryString.decodeValue?_eq_none_iff {raw : Text} : decodeValue? raw = none ↔
    Text.BrokenEscape raw ∨ ∃ bs, Text.Spells raw bs ∧ ∀ value, Text.bytes value ≠ bs := by
  rw [Option.eq_none_iff_forall_ne_some]
  constructor
  · intro h
    by_cases hbroken : Text.BrokenEscape raw
    · exact .inl hbroken
    · have hspells := Text.spells_iff.2 ⟨Text.escapesClosed_iff.2 hbroken, rfl⟩
      refine .inr ⟨_, hspells, fun value hvalue => h value ?_⟩
      exact decodeValue?_eq_some_iff.2 (hvalue ▸ hspells)
  · rintro (hbroken | ⟨bs, hspells, hnone⟩) value h
    · exact Text.escapesClosed_iff.1 (Text.spells_iff.1 (decodeValue?_eq_some_iff.1 h)).1 hbroken
    · exact hnone value ((decodeValue?_eq_some_iff.1 h).unique hspells)

/-- The two decoders of values agree. The strict one refuses a text exactly when some `%` in it is not followed by two
hexadecimal digits, or when the bytes that it spells are those of no text. Where it reads a value, the text spells the
bytes of that value, and a field to sort by that is written like it is read as that value too. -/
theorem decoders_agree {raw : Text} (hraw : '&' ∉ raw) :
    (decodeValue? raw = none ↔
      Text.BrokenEscape raw ∨ ∃ bs, Text.Spells raw bs ∧ ∀ value, Text.bytes value ≠ bs) ∧
    ∀ value, decodeValue? raw = some value →
      Text.Spells raw (Text.bytes value) ∧ OrderRequest.param "sort" ("sort=".toList ++ raw) = value := by
  refine ⟨decodeValue?_eq_none_iff, fun value hvalue => ?_⟩
  have hspells := decodeValue?_eq_some_iff.1 hvalue
  refine ⟨hspells, ?_⟩
  have hkey : formDecode "sort".toList = "sort".toList := by decide +kernel
  have hpiece : '&' ∉ "sort".toList ++ '=' :: raw := by
    simpa using hraw
  have hfirst := first?_single (by decide) hpiece
  rw [hkey, formDecode_of_spells hspells] at hfirst
  exact congrArg (·.getD []) hfirst

/-- A `+` and an escaped one, an escaped character of three bytes and a plain one of two; and the two ways to be
refused, an escape that the end cuts off and a character that a space cuts off. -/
theorem decoders_agree_mixed :
    let raw := "a%2Bb+%e2%82%AC=é".toList
    let value := "a+b €=é".toList
    decodeValue? raw = some value ∧ OrderRequest.param "sort" ("sort=".toList ++ raw) = value ∧
      Text.BrokenEscape "a%2".toList ∧ decodeValue? "a%2".toList = none ∧
      decodeValue? "%E2%82+".toList = none ∧
      ∃ bs, Text.Spells "%E2%82+".toList bs ∧ ∀ value, Text.bytes value ≠ bs := by
  intro raw value
  have hvalue : decodeValue? raw = some value := by decide +kernel
  have hbroken : Text.BrokenEscape "a%2".toList := by
    refine ⟨['a'], ['2'], rfl, ?_⟩
    rintro ⟨high, low, rest, hs, -⟩
    cases hs
  have hnone : decodeValue? "%E2%82+".toList = none := by decide +kernel
  have hclosed : ¬ Text.BrokenEscape "%E2%82+".toList := Text.escapesClosed_iff.1 (by decide +kernel)
  exact ⟨hvalue, ((decoders_agree (by decide)).2 value hvalue).2, hbroken,
    (decoders_agree (by decide)).1.2 (.inl hbroken), hnone,
    ((decoders_agree (by decide)).1.1 hnone).resolve_left hclosed⟩

end SensorRegistry
