/-
What the lists send. A list is a template that normalizes to a plain SELECT, a whitelist, and columns
that cover it. Then every filter that the whitelist accepts has a column and so a predicate, the order
has its key, and the statement is the direct rendering of both; its placeholders are numbered from one,
so its count and its pages can be written down as well. Sensors and metrics are two such lists.
-/
import SensorRegistry.Api.Endpoint
import SensorRegistry.Store.Tables
import SensorRegistry.Proofs.Sql.Typing
import SensorRegistry.Proofs.Statement.Paging
import SensorRegistry.Proofs.Statement.Select

namespace SensorRegistry

/-! ## Tokens of a query string -/

theorem length_filterMap_le_intercalate {f : Text → Option Text} (hf : f [] = none) (c : Char) (ps : List Text) :
    (ps.filterMap f).length ≤ ([c].intercalate ps).length := by
  have one : ∀ p : Text, ([p].filterMap f).length ≤ p.length := by
    intro p
    cases p with
    | nil => simp [hf]
    | cons d p => exact (List.length_filterMap_le f [d :: p]).trans (Nat.succ_le_succ (Nat.zero_le _))
  -- a piece that counts is not empty, and the separators only add to the length
  induction ps with
  | nil => exact Nat.le_refl _
  | cons p ps ih =>
    have hsplit : ((p :: ps).filterMap f).length = ([p].filterMap f).length + (ps.filterMap f).length := by
      rw [← List.singleton_append, List.filterMap_append, List.length_append]
    have hone := one p
    cases ps with
    | nil => rw [List.intercalate_singleton]; exact hone
    | cons q ps =>
      rw [List.intercalate_cons_of_ne_nil (List.cons_ne_nil q ps), List.length_append, List.length_append]
      omega

theorem Text.length_le_byteSize (s : Text) : s.length ≤ byteSize s := by
  induction s with
  | nil => exact Nat.le_refl _
  | cons c s ih =>
    have := c.utf8Size_pos
    rw [List.length_cons, byteSize]
    omega

/-- A query string has no more parameters than bytes. -/
theorem QueryString.length_literals_le (name query : Text) : (literals name query).length ≤ Text.byteSize query := by
  have hempty : (name ++ ['=']).isPrefixOf? ([] : Text) = none := by cases name <;> rfl
  have hlen := length_filterMap_le_intercalate (f := fun piece => (name ++ ['=']).isPrefixOf? piece) hempty '&'
    (query.splitOn '&')
  rw [List.intercalate_splitOn] at hlen
  exact hlen.trans (Text.length_le_byteSize query)

namespace Columns

/-- The columns have one for every field that requests may filter by and for every field that they may
order by. -/
structure Covers (columns : Columns) (w : Whitelist) : Prop where
  filters : ∀ p ∈ w.fields, (columns.filterColumn? p.1).isSome = true
  orders : ∀ field ∈ w.orderable, (columns.orderColumn? field).isSome = true

end Columns

namespace Condition

/-- Columns that cover the whitelist skip no filter that it accepts. -/
theorem mapped_of_covers {w : Whitelist} {columns : Columns} {group : FilterGroup} (hc : columns.Covers w)
    (hg : w.Admits group) : (mapped columns group).map (·.2) = group.filters := by
  have hcol : ∀ f ∈ group.filters, (columns.filterColumn? f.field).isSome = true :=
    fun f hf => hc.filters _ (Whitelist.mem_fields (hg.declared f hf))
  unfold mapped
  generalize group.filters = fs at hcol ⊢
  induction fs with
  | nil => rfl
  | cons f fs ih =>
    obtain ⟨hf, hfs⟩ := List.forall_mem_cons.1 hcol
    obtain ⟨column, hcolumn⟩ := Option.isSome_iff_exists.1 hf
    rw [List.filterMap_cons, hcolumn]
    exact congrArg (f :: ·) (ih hfs)

/-- Rendered terms, written down filter by filter: the predicates of the columns in order, numbered
without a gap, and the values as parameters. -/
theorem Rendered.direct {columns : Columns} {last : Nat} {ms : List (Text × Filter)} {ts : List (Text × Param)}
    (h : Rendered last ms ts) (hcol : ∀ m ∈ ms, columns.filterColumn? m.2.field = some m.1) :
    (ms.map (·.2)).mapIdx (fun i f => (columns.filterColumn? f.field).bind fun column =>
        predicate? column f.operation (last + i + 1)) = (ts.map (·.1)).map some ∧
      (ms.map (·.2)).map Filter.coerce = (ts.map (·.2)).map .ok := by
  induction h with
  | nil => exact ⟨rfl, rfl⟩
  | @cons last column sql f p ms ts hp hsql _ ih =>
    obtain ⟨hfirst, hrest⟩ := List.forall_mem_cons.1 hcol
    obtain ⟨hpredicates, hparams⟩ := ih hrest
    constructor
    · rw [List.map_cons, List.mapIdx_cons, List.map_cons, List.map_cons, ← hpredicates, hfirst]
      refine congrArg₂ _ hsql ?_
      congr 1
      funext i f
      rw [Nat.add_right_comm last 1 i, Nat.add_assoc last i 1]
    · rw [List.map_cons, List.map_cons, List.map_cons, List.map_cons, hp, hparams]

end Condition

namespace Listing

open Sql Statement

/-! ## One list -/

/-- A list: its template normalizes to a plain SELECT without placeholders, and its columns, which cover
its whitelist, are plain and have no placeholders either. -/
structure Listable (w : Whitelist) (template select : Text) (columns : Columns) : Prop where
  plain : PlainSelect select
  normal : Text.normalize template = select ++ [';']
  unnumbered : '$' ∉ select
  columns_plain : columns.All PlainColumn
  columns_unnumbered : columns.All ('$' ∉ ·)
  covers : columns.Covers w

/-- The statement is what a list request asks of a SELECT. Each filter token of the query string is one
filter, and each filter has its predicate, in request order and numbered from one, and its value as the
parameter of this number. The order has its key. The text is the SELECT with these predicates and this
key and nothing else, and so are its count and its pages, the latter as long as sizes fit 64 bits. -/
structure Intended (w : Whitelist) (select : Text) (columns : Columns) (query : Text) (group : FilterGroup)
    (predicates : List Text) (key : Option Text) (s : Statement) : Prop where
  tokens : (Whitelist.tokens query).map w.readToken = group.filters.map .ok
  terms : group.filters.mapIdx (fun i f => (columns.filterColumn? f.field).bind fun column =>
    Condition.predicate? column f.operation (i + 1)) = predicates.map some
  values : group.filters.map Filter.coerce = s.params.map .ok
  order : group.order.map (fun field => (columns.orderColumn? field).map (· ++ ' ' :: group.direction.sql)) =
    key.map some
  text : s.sql = selectText select predicates key ++ ";".toList
  count : s.count =
    ⟨"SELECT COUNT(*) FROM (".toList ++ selectText select predicates key ++ ") AS subquery".toList, s.params⟩
  page : Text.byteSize query ≤ Placeholder.greatest → ∀ page : Page, s.paginate page =
    ⟨selectText select predicates key ++ " LIMIT ".toList ++ Placeholder.write (group.filters.length + 1) ++
      " OFFSET ".toList ++ Placeholder.write (group.filters.length + 2) ++ ";".toList,
      s.params ++ [.int page.limit, .int page.offset]⟩

section Lists

variable {w : Whitelist} {template select : Text} {columns : Columns} {query : Option Text} {group : FilterGroup}

theorem Listable.last_template (h : Listable w template select columns) : Placeholder.last template = 0 := by
  have hruns : Placeholder.runs template = Placeholder.runs (select ++ [';']) := by
    rw [← Placeholder.markSeparated_runs.normalize, h.normal]
  have hdollar : '$' ∉ select ++ [';'] := List.not_mem_append h.unnumbered (by decide)
  rw [Placeholder.last_eq, hruns, Placeholder.runs_of_no_dollar hdollar]
  rfl

theorem joinable_orderKey (hcol : columns.All PlainColumn) {key : Text} (h : group.orderKey? columns = some key) :
    Joinable key := by
  rw [orderKey?_eq_map, Option.map_eq_some_iff] at h
  obtain ⟨column, hc, rfl⟩ := h
  obtain ⟨field, -, hfield⟩ := Option.bind_eq_some_iff.1 hc
  refine ⟨(hcol.orders hfield).joinable.first_append _, ?_⟩
  rw [List.getLast?_append_of_ne_nil _ (List.cons_ne_nil _ _)]
  cases group.direction <;> (rintro c ⟨⟩; decide)

/-- Columns that cover the whitelist leave out no order that it accepts. -/
theorem order_of_covers (hc : columns.Covers w) (hg : w.Admits group) :
    group.order.map (fun field => (columns.orderColumn? field).map (· ++ ' ' :: group.direction.sql)) =
      (group.orderKey? columns).map some := by
  rw [orderKey?_eq_map]
  cases ho : group.order with
  | none => rfl
  | some field =>
    obtain ⟨column, hcolumn⟩ := Option.isSome_iff_exists.1 (hc.orders field (hg.orderable field ho))
    simp [hcolumn]

/-- A list whose mapped filters render sends what its request intends. -/
theorem Listable.intended (h : Listable w template select columns) (hparse : w.parse query = .ok group)
    {ts : List (Text × Param)} (hts : Condition.Rendered 0 (Condition.mapped columns group) ts) :
    ∃ s predicates key, filtered template columns (some group) = .ok s ∧
      Intended w select columns (query.getD []) group predicates key s := by
  have hadmits := Whitelist.parse_admits hparse
  have hkey : ∀ k ∈ group.orderKey? columns, Joinable k := fun k hk => joinable_orderKey h.columns_plain hk
  have hpredicates : ∀ p ∈ ts.map (·.1), Conjunct p ∧ Joinable p := by
    intro p hp
    obtain ⟨m, hm, n, hn⟩ := hts.exists_predicate hp
    have hcolumn := h.columns_plain.mapped hm
    exact ⟨conjunct_predicate hcolumn.toBareColumn (fun _ => hcolumn.wordless.keywordless) hn,
      joinable_predicate hcolumn.joinable hn⟩
  obtain ⟨hterms, hvalues⟩ := hts.direct fun m hm => (Condition.mem_mapped_iff.1 hm).2
  -- no filter is skipped, so positions among the mapped filters are positions in the request
  rw [Condition.mapped_of_covers h.covers hadmits] at hterms hvalues
  simp only [Nat.zero_add] at hterms
  have hjoinable := joinable_selectText h.plain hpredicates hkey
  let s : Statement := ⟨selectText select (ts.map (·.1)) (group.orderKey? columns) ++ ";".toList, ts.map (·.2)⟩
  refine ⟨s, ts.map (·.1), group.orderKey? columns, ?_, ?_⟩
  · refine applyFilter_eq_ok_iff.2 ⟨ts, s.sql, ?_, h.plain.splice h.normal hpredicates hkey, rfl⟩
    show Condition.Rendered (Placeholder.last template) _ _
    rwa [h.last_template]
  · obtain ⟨htokens, -, -⟩ := Whitelist.parse_eq_ok_iff.1 hparse
    refine ⟨htokens, hterms, hvalues, order_of_covers h.covers hadmits, rfl, ?_, fun hsize page => ?_⟩
    · exact congrArg (Statement.mk · s.params) (countText_semicolon hjoinable)
    · -- the placeholders are those of the predicates, and there are no more of these than bytes in the query
      have hlen : ts.length = group.filters.length := by simpa using (congrArg List.length hvalues).symm
      have hfit : group.filters.length ≤ Placeholder.greatest := by
        rw [Whitelist.parse_length hparse]
        exact (QueryString.length_literals_le _ _).trans hsize
      have hkeys : ∀ k ∈ group.orderKey? columns, '$' ∉ k := fun k hk => orderKey?_no_dollar h.columns_unnumbered hk
      have hlast := last_selectText hts (fun m hm => h.columns_unnumbered.mapped hm) h.unnumbered hkeys (hlen ▸ hfit)
      rw [hlen] at hlast
      exact congrArg (Statement.mk · (s.params ++ pageParams page)) (pageText_semicolon hjoinable hlast)

/-- A list fails only on the values of its filters, one problem for each that does not fit. -/
theorem Listable.fails (h : Listable w template select columns) (hparse : w.parse query = .ok group)
    {problems : List Problem}
    (hc : Condition.ofGroup columns group 0 = .error problems) :
    filtered template columns (some group) = .error (.request problems) ∧ problems ≠ [] ∧
      ∀ p ∈ problems, ∃ f ∈ group.filters, f.coerce = .error p := by
  obtain ⟨hne, hproblems⟩ := Condition.problems_of_ofGroup (Whitelist.parse_admits hparse).known hc
  refine ⟨?_, hne, fun p hp => ?_⟩
  · show (Statement.ofText template).applyFilter group columns = _
    have hlast : Placeholder.last (Statement.ofText template).sql = 0 := h.last_template
    rw [applyFilter, hlast, hc]
  · obtain ⟨m, hm, he⟩ := hproblems p hp
    exact ⟨m.2, (Condition.mem_mapped_iff.1 hm).1, he⟩

end Lists

/-! ## The lists of the service -/

def sensorSelect : Text :=
  "SELECT id, type, alias, rate, max_threshold, min_threshold, updated_at FROM devices".toList

def metricSelect : Text := "SELECT sensor_id, value, unit, timestamp FROM metrics".toList

theorem plainSelect_sensors : PlainSelect sensorSelect := by
  have hjoinable : Joinable sensorSelect := joinable_of_ends rfl rfl (by decide) (by decide)
  exact ⟨by decide +kernel, by decide +kernel, hjoinable, by decide +kernel, by decide +kernel⟩

theorem plainSelect_metrics : PlainSelect metricSelect := by
  have hjoinable : Joinable metricSelect := joinable_of_ends rfl rfl (by decide) (by decide)
  exact ⟨by decide +kernel, by decide +kernel, hjoinable, by decide +kernel, by decide +kernel⟩

theorem listable_sensors (config : Config) :
    Listable (ListEndpoint.sensors config).whitelist SensorTable.listTemplate sensorSelect SensorTable.columns := by
  have hwhitelist : (ListEndpoint.sensors config).whitelist = (ListEndpoint.sensors .standard).whitelist := rfl
  rw [hwhitelist]
  exact ⟨plainSelect_sensors, by decide +kernel, by decide,
    Columns.all_of_entries (by decide +kernel) (by decide +kernel),
    Columns.all_of_entries (by decide) (by decide), by decide, by decide⟩

theorem listable_metrics (config : Config) :
    Listable (ListEndpoint.metrics config).whitelist MetricTable.listTemplate metricSelect MetricTable.columns := by
  have hwhitelist : (ListEndpoint.metrics config).whitelist = (ListEndpoint.metrics .standard).whitelist := rfl
  rw [hwhitelist]
  exact ⟨plainSelect_metrics, by decide +kernel, by decide,
    Columns.all_of_entries (by decide +kernel) (by decide +kernel),
    Columns.all_of_entries (by decide) (by decide), by decide, by decide⟩

/-- Sensors are filtered by texts only, which always coerce. -/
theorem coerce_sensors {config : Config} {group : FilterGroup}
    (hg : (ListEndpoint.sensors config).whitelist.Admits group) {f : Filter} (hf : f ∈ group.filters) {p : Problem} :
    f.coerce ≠ .error p := by
  have htypes : ∀ q ∈ (ListEndpoint.sensors .standard).whitelist.fields, q.2 ∉ [ValueType.int, .float, .bool] := by
    decide
  intro h
  exact htypes _ (Whitelist.mem_fields (hg.declared f hf)) (Filter.coerce_eq_error h).1

/-- Metrics are filtered by one number, the timestamp. -/
theorem coerce_metrics {config : Config} {group : FilterGroup}
    (hg : (ListEndpoint.metrics config).whitelist.Admits group) {f : Filter} (hf : f ∈ group.filters) {p : Problem}
    (h : f.coerce = .error p) : f.field = "timestamp".toList ∧ p = .coercion f.value "int".toList := by
  have htypes : ∀ q ∈ (ListEndpoint.metrics .standard).whitelist.fields, q.2 ∈ [ValueType.int, .float, .bool] →
      q = ("timestamp".toList, .int) := by decide
  obtain ⟨htype, hp⟩ := Filter.coerce_eq_error h
  obtain ⟨hfield, hint⟩ := Prod.mk.inj (htypes _ (Whitelist.mem_fields (hg.declared f hf)) htype)
  refine ⟨hfield, ?_⟩
  rw [hp, hint]
  rfl

/-- The lists send exactly the intended statements and drop no accepted filter, for every query string that
their whitelists accept. A list of sensors never fails to compile. A list of metrics fails on timestamps
that are no numbers, and on nothing else. -/
theorem filtered_intended (config : Config) (query : Option Text) (group : FilterGroup) :
    ((ListEndpoint.sensors config).whitelist.parse query = .ok group →
      ∃ s predicates key, filtered SensorTable.listTemplate SensorTable.columns (some group) = .ok s ∧
        Intended (ListEndpoint.sensors config).whitelist sensorSelect SensorTable.columns
          (query.getD []) group predicates key s) ∧
    ((ListEndpoint.metrics config).whitelist.parse query = .ok group →
      (∃ s predicates key, filtered MetricTable.listTemplate MetricTable.columns (some group) = .ok s ∧
        Intended (ListEndpoint.metrics config).whitelist metricSelect MetricTable.columns
          (query.getD []) group predicates key s) ∨
      ∃ problems, filtered MetricTable.listTemplate MetricTable.columns (some group) = .error (.request problems) ∧
        problems ≠ [] ∧ ∀ p ∈ problems, ∃ f ∈ group.filters, f.field = "timestamp".toList ∧ f.coerce = .error p ∧
          p = .coercion f.value "int".toList) := by
  constructor
  · intro hparse
    have hlist := listable_sensors config
    cases hc : Condition.ofGroup SensorTable.columns group 0 with
    | ok c =>
      obtain ⟨ts, hts, -⟩ := Condition.ofGroup_eq_ok_iff.1 hc
      exact hlist.intended hparse hts
    | error problems =>
      -- a failure would be the problem of some filter, and no text has one
      obtain ⟨-, hne, hproblems⟩ := hlist.fails hparse hc
      obtain ⟨p, hp⟩ := List.exists_mem_of_ne_nil problems hne
      obtain ⟨f, hf, he⟩ := hproblems p hp
      exact absurd he (coerce_sensors (Whitelist.parse_admits hparse) hf)
  · intro hparse
    have hlist := listable_metrics config
    cases hc : Condition.ofGroup MetricTable.columns group 0 with
    | ok c =>
      obtain ⟨ts, hts, -⟩ := Condition.ofGroup_eq_ok_iff.1 hc
      exact .inl (hlist.intended hparse hts)
    | error problems =>
      obtain ⟨hfault, hne, hproblems⟩ := hlist.fails hparse hc
      refine .inr ⟨problems, hfault, hne, fun p hp => ?_⟩
      obtain ⟨f, hf, he⟩ := hproblems p hp
      obtain ⟨hfield, hcoercion⟩ := coerce_metrics (Whitelist.parse_admits hparse) hf he
      exact ⟨f, hf, hfield, he, hcoercion⟩

/-- A pattern, a negation and an order on the sensors, and a timestamp that is no number. -/
theorem filtered_intended_requests :
    let query := "filters=alias:like:a%25&filters=type:ne:b&sort=updatedAt&order=desc".toList
    let sensors : FilterGroup := ⟨[⟨"alias".toList, .like, "a%".toList, .string⟩,
      ⟨"type".toList, .notEquals, "b".toList, .string⟩], some "updatedAt".toList, .descending⟩
    let metrics : FilterGroup := ⟨[⟨"timestamp".toList, .greater, "soon".toList, .int⟩], none, .ascending⟩
    (ListEndpoint.sensors .standard).whitelist.parse (some query) = .ok sensors ∧
    (∃ s, filtered SensorTable.listTemplate SensorTable.columns (some sensors) = .ok s ∧
      s.sql = selectText sensorSelect
        ["alias ILIKE '%' || $1 || '%' ESCAPE '\\'".toList, "(NOT type=$2 OR type IS NULL)".toList]
        (some "updated_at DESC NULLS LAST".toList) ++ ";".toList) ∧
    ∃ problems, filtered MetricTable.listTemplate MetricTable.columns (some metrics) = .error (.request problems) ∧
      ∀ p ∈ problems, p = .coercion "soon".toList "int".toList := by
  intro query sensors metrics
  have hsensors : (ListEndpoint.sensors .standard).whitelist.parse (some query) = .ok sensors := by decide +kernel
  have hmetrics : (ListEndpoint.metrics .standard).whitelist.parse (some "filters=timestamp:gt:soon".toList) =
      .ok metrics := by decide +kernel
  have hsome : Function.Injective (some : Text → Option Text) := fun _ _ h => Option.some.inj h
  refine ⟨hsensors, ?_, ?_⟩
  · obtain ⟨s, predicates, key, hs, hi⟩ := (filtered_intended .standard _ _).1 hsensors
    have hpredicates : predicates =
        ["alias ILIKE '%' || $1 || '%' ESCAPE '\\'".toList, "(NOT type=$2 OR type IS NULL)".toList] :=
      List.map_injective_iff.2 hsome (hi.terms.symm.trans (by decide +kernel))
    have hkey : key = some "updated_at DESC NULLS LAST".toList :=
      Option.map_injective hsome (hi.order.symm.trans (by decide +kernel))
    exact ⟨s, hs, hpredicates ▸ hkey ▸ hi.text⟩
  · have hfault : filtered MetricTable.listTemplate MetricTable.columns (some metrics) =
        .error (.request [.coercion "soon".toList "int".toList]) := by decide +kernel
    rcases (filtered_intended .standard _ _).2 hmetrics with ⟨s, -, -, hs, -⟩ | ⟨problems, hp, -, hproblems⟩
    · cases hfault.symm.trans hs
    · refine ⟨problems, hp, fun p hmem => ?_⟩
      obtain ⟨f, hf, -, -, hcoercion⟩ := hproblems p hmem
      rw [hcoercion, List.mem_singleton.1 hf]

end Listing

end SensorRegistry
