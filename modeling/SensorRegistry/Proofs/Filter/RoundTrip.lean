/-
Writing a list request and reading it back. A request is a list of parameters: filters, a field to sort
by and a direction. Filters are found by their literal name and cut raw, the other two are form pairs,
so the two readers share the text and not each other's parameters: in whatever order the parameters
stand, each reader finds its own in theirs.
-/
import SensorRegistry.Proofs.Filter.Verdict

namespace SensorRegistry

/-- One parameter of a list request. -/
inductive ListParameter
  | filter (f : Filter)
  | sort (field : Text)
  | order (direction : Direction)

namespace ListParameter

variable {code : Text.HexCode}

def filter? : ListParameter → Option Filter
  | .filter f => some f
  | _ => none

def sort? : ListParameter → Option Text
  | .sort field => some field
  | _ => none

def order? : ListParameter → Option Direction
  | .order direction => some direction
  | _ => none

/-- A filter with its value percent-encoded and its field as it is. -/
def token (code : Text.HexCode) (f : Filter) : Text :=
  f.field ++ ':' :: f.operation.token ++ ':' :: Text.percentEncode code f.value

def write (code : Text.HexCode) : ListParameter → Text
  | .filter f => "filters=".toList ++ token code f
  | .sort field => "sort=".toList ++ Text.percentEncode code field
  | .order direction => "order=".toList ++ direction.param

/-- The query string of the parameters, in their order. -/
def query (code : Text.HexCode) (ps : List ListParameter) : Text := Text.join "&" (ps.map (write code))

/-- The parameters are those of a group: the filters in their order, the field if there is one, and the
direction, each between the others in any way. -/
structure Arranges (ps : List ListParameter) (group : FilterGroup) : Prop where
  filters : ps.filterMap filter? = group.filters
  sort : ps.filterMap sort? = group.order.toList
  order : ps.filterMap order? = [group.direction]

/-! ## Pieces -/

theorem not_mem_token {d : Char} (hd : Text.IsSeparator d) (hcolon : d ≠ ':') {f : Filter} (hfield : d ∉ f.field)
    (hop : d ∉ f.operation.token) : d ∉ token code f := by
  unfold token
  simp only [List.mem_append, List.mem_cons, not_or]
  exact ⟨⟨hfield, hcolon, hop⟩, hcolon, Text.not_mem_percentEncode hd code f.value⟩

theorem amp_not_mem_write {p : ListParameter} (hfield : ∀ f ∈ p.filter?, '&' ∉ f.field) : '&' ∉ write code p := by
  have hseparator : Text.IsSeparator '&' := by decide
  cases p with
  | filter f =>
    have hop : '&' ∉ f.operation.token := by cases f.operation <;> decide
    exact List.not_mem_append (by decide) (not_mem_token hseparator (by decide) (hfield f rfl) hop)
  | sort field => exact List.not_mem_append (by decide) (Text.not_mem_percentEncode hseparator code field)
  | order direction => exact List.not_mem_append (by decide) (by cases direction <;> decide)

theorem write_ne_nil (p : ListParameter) : write code p ≠ [] := by
  cases p <;> exact List.cons_ne_nil _ _

/-- A parameter as the form reader takes it. -/
def pair (code : Text.HexCode) : ListParameter → Text × Text
  | .filter f => ("filters".toList, QueryString.formDecode (token code f))
  | .sort field => ("sort".toList, field)
  | .order direction => ("order".toList, direction.param)

theorem pair_write (p : ListParameter) : QueryString.pair (write code p) = pair code p := by
  cases p with
  | filter f =>
    have hkey : QueryString.formDecode "filters".toList = "filters".toList := by decide +kernel
    exact (QueryString.pair_append (show '=' ∉ "filters".toList by decide) _).trans (congrArg (·, _) hkey)
  | sort field =>
    have hkey : QueryString.formDecode "sort".toList = "sort".toList := by decide +kernel
    have hvalue := QueryString.formDecode_of_spells (Text.spells_percentEncode code field)
    exact (QueryString.pair_append (show '=' ∉ "sort".toList by decide) _).trans (congrArg₂ _ hkey hvalue)
  | order direction =>
    have hkey : QueryString.formDecode "order".toList = "order".toList := by decide +kernel
    have hvalue : QueryString.formDecode direction.param = direction.param := by cases direction <;> decide +kernel
    exact (QueryString.pair_append (show '=' ∉ "order".toList by decide) _).trans (congrArg₂ _ hkey hvalue)

/-- The value that a written parameter gives a key, if it is the key of the parameter. -/
theorem value?_write (key : Text) (p : ListParameter) :
    QueryString.value? key (write code p) = if (pair code p).1 = key then some (pair code p).2 else none := by
  have hkey : QueryString.key? (write code p) = some (pair code p).1 := by
    rw [QueryString.key?, if_neg (by simpa using write_ne_nil p), pair_write]
  rw [QueryString.value?, hkey, pair_write]
  simp only [Option.some.injEq]

section Readers

variable {ps : List ListParameter} (hfields : ∀ p ∈ ps, ∀ f ∈ p.filter?, '&' ∉ f.field) (hne : ps ≠ [])
include hfields hne

theorem pieces_query : QueryString.pieces (query code ps) = ps.map (write code) := by
  refine QueryString.pieces_join (fun piece hpiece => ?_) (by simpa using hne)
  obtain ⟨p, hp, rfl⟩ := List.mem_map.1 hpiece
  exact amp_not_mem_write (hfields p hp)

/-! ## What each reader finds -/

/-- The literal reader finds the filters. -/
theorem tokens_query : Whitelist.tokens (query code ps) = (ps.filterMap filter?).map (token code) := by
  rw [Whitelist.tokens, QueryString.literals, pieces_query hfields hne, List.filterMap_map, List.map_filterMap]
  refine List.filterMap_congr fun p _ => ?_
  cases p <;> rfl

/-- The form reader finds the first field to sort by. -/
theorem first?_sort : QueryString.first? "sort".toList (query code ps) = (ps.filterMap sort?).head? := by
  rw [QueryString.first?_eq_head?, pieces_query hfields hne, List.filterMap_map]
  refine congrArg List.head? (List.filterMap_congr fun p _ => (value?_write _ p).trans ?_)
  cases p <;> rfl

/-- The form reader finds the first direction. -/
theorem first?_order :
    QueryString.first? "order".toList (query code ps) = (ps.filterMap order?).head?.map Direction.param := by
  rw [QueryString.first?_eq_head?, pieces_query hfields hne, List.filterMap_map, ← List.head?_map, List.map_filterMap]
  refine congrArg List.head? (List.filterMap_congr fun p _ => (value?_write _ p).trans ?_)
  cases p <;> rfl

end Readers

end ListParameter

/-! ## Reading back -/

theorem OrderRequest.read_of_params {orderable : List Text} {query : Text} {field : Option Text} {direction : Direction}
    (hfield : param "sort" query = field.getD []) (hdirection : param "order" query = direction.param)
    (hne : ∀ name ∈ field, name ≠ []) (horderable : ∀ name ∈ field, name ∈ orderable) :
    read orderable query = (⟨field, direction⟩, []) := by
  have hnamed : field? query = field := by
    rw [field?_eq, hfield]
    cases field with
    | none => rfl
    | some name => exact if_neg (hne name rfl)
  have hfine : (fieldProblem? orderable query).toList = [] := by
    rw [toList_fieldProblem?, hfield]
    cases field with
    | none => rfl
    | some name => exact if_pos (.inr (horderable name rfl))
  have hread : direction? query = direction ∧ (directionProblem? query).toList = [] := by
    rw [direction?_eq, toList_directionProblem?, hdirection]
    cases direction <;> decide
  rw [read, hnamed, hread.1, hfine, hread.2]
  rfl

namespace Whitelist

variable {w : Whitelist} {code : Text.HexCode} {ps : List ListParameter} {group : FilterGroup}

theorem readToken_token {f : Filter} (hcolon : ':' ∉ f.field) (htype : w.type? f.field = some f.valueType)
    (hallows : f.operation.allows f.valueType = true) : w.readToken (ListParameter.token code f) = .ok f := by
  have hknown : f.operation ≠ .unknown := by
    intro hunknown
    rw [hunknown] at hallows
    cases hallows
  have hop : ':' ∉ f.operation.token := by cases f.operation <;> decide
  have hvalue := Text.not_mem_percentEncode (d := ':') (by decide) code f.value
  have hreads : Reads (ListParameter.token code f) f.field f.operation.token f.value :=
    ⟨Text.percentEncode code f.value, ⟨rfl, hcolon, hop, hvalue⟩, Text.spells_percentEncode code f.value⟩
  exact readToken_of_judges (.accepted hreads htype hknown hallows)

/-- Parsing undoes writing. Take any group that the whitelist admits, with a field to sort by that is not
empty, if any, and write its filters, this field and its direction as parameters, with every value
percent-encoded and the parameters in any order that keeps the filters in theirs. Then parsing accepts
the query string and gives the group. -/
theorem parse_query (hnames : ∀ p ∈ w.fields, ':' ∉ p.1 ∧ '&' ∉ p.1) (hadmits : w.Admits group)
    (horder : ∀ field ∈ group.order, field ≠ []) (hps : ListParameter.Arranges ps group) :
    w.parse (some (ListParameter.query code ps)) = .ok group := by
  have hfield : ∀ f ∈ group.filters, ':' ∉ f.field ∧ '&' ∉ f.field :=
    fun f hf => hnames _ (mem_fields (hadmits.declared f hf))
  have hamp : ∀ p ∈ ps, ∀ f ∈ p.filter?, '&' ∉ f.field := fun p hp f hf =>
    (hfield f (hps.filters ▸ List.mem_filterMap.2 ⟨p, hp, hf⟩)).2
  have hne : ps ≠ [] := by
    rintro rfl
    cases hps.order
  have hread : OrderRequest.read w.orderable (ListParameter.query code ps) = (⟨group.order, group.direction⟩, []) := by
    refine OrderRequest.read_of_params ?_ ?_ horder hadmits.orderable
    · rw [OrderRequest.param, ListParameter.first?_sort hamp hne, hps.sort]
      cases group.order <;> rfl
    · rw [OrderRequest.param, ListParameter.first?_order hamp hne, hps.order]
      rfl
  refine parse_eq_ok_iff.2 ⟨?_, congrArg (·.2) hread, congrArg (·.1) hread⟩
  rw [outcomes, Option.getD_some, ListParameter.tokens_query hamp hne, hps.filters, List.map_map]
  exact List.map_congr_left fun f hf =>
    readToken_token (hfield f hf).1 (hadmits.declared f hf) (hadmits.allowed f hf)

/-- Separators, escapes and characters past ASCII in names and values, and the order between two filters. -/
theorem parse_query_separators :
    let w : Whitelist := ⟨[("größe=%".toList, .string), ("n".toList, .int)], ["a&b".toList]⟩
    let like : Filter := ⟨"größe=%".toList, .like, "50% & a:b=c+d €😀".toList, .string⟩
    let less : Filter := ⟨"n".toList, .lower, [], .int⟩
    let ps : List ListParameter := [.filter like, .order .descending, .filter less, .sort "a&b".toList]
    ListParameter.query .capital ps = ("filters=größe=%:like:50%25%20%26%20a%3Ab%3Dc%2Bd%20%E2%82%AC%F0%9F%98%80"
      ++ "&order=desc&filters=n:lt:&sort=a%26b").toList ∧
    w.parse (some (ListParameter.query .capital ps)) = .ok ⟨[like, less], some "a&b".toList, .descending⟩ := by
  intro w like less ps
  have hadmits : w.Admits ⟨[like, less], some "a&b".toList, .descending⟩ := ⟨by decide, by decide, by decide⟩
  exact ⟨by decide +kernel, parse_query (by decide) hadmits (by decide) ⟨rfl, rfl, rfl⟩⟩

end Whitelist

end SensorRegistry
