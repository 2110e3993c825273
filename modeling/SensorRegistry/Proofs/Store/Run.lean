/-
How a list query ends. Its two statements wrap one text, that of the filtered statement without white space
at its ends and without its semicolon, so the total counts the rows that the page is taken from. The scope
takes the total as soon as there is one, and is left alone before.
-/
import SensorRegistry.Store.Tables
import SensorRegistry.Proofs.Scope.Run
import SensorRegistry.Proofs.Statement.Run

namespace SensorRegistry

namespace Statement

/-! ## The text inside a statement -/

/-- A statement is `text` within white space, with at most one semicolon behind it. -/
structure Wraps (sql text : Text) : Prop where
  trimmed : Text.Trimmed text
  surrounded : ∃ x e, Text.AllBlank x ∧ Sql.Trailing text e ∧ sql = x ++ text ++ e

theorem head_inner (sql : Text) : ∀ c ∈ (inner sql).head?, Text.isBlank c = false := by
  obtain ⟨e, he, -, -⟩ := Sql.exists_body (Text.trimStart sql)
  intro c hc
  refine Text.head_trimStart sql c ?_
  rw [he]
  exact List.mem_head?_append_of_mem_head? hc

theorem wraps_inner (sql : Text) : Wraps sql (inner sql) := by
  obtain ⟨x, hx, hsql⟩ := Text.exists_trimStart sql
  obtain ⟨e, he, htrailing, hlast⟩ := Sql.exists_body (Text.trimStart sql)
  refine ⟨⟨head_inner sql, hlast⟩, x, e, hx, htrailing, ?_⟩
  rw [List.append_assoc, inner, ← he, ← hsql]

/-- Nothing but white space and the semicolon is lost at the front of an empty text. -/
theorem trailing_trimStart {e : Text} (he : Sql.Trailing [] e) : Sql.Trailing [] (Text.trimStart e) := by
  cases he with
  | blank hblank hs =>
    have hnil : Text.trimStart e = [] := List.dropWhile_eq_nil_iff.2 hblank
    rw [hnil]
    exact .blank Text.allBlank_nil hs
  | @semicolon x y hx hy =>
    rw [Text.trimStart_blank_append hx]
    exact .semicolon (x := []) Text.allBlank_nil hy

/-- A statement wraps one text only. -/
theorem Wraps.inner_eq {sql text : Text} (h : Wraps sql text) : inner sql = text := by
  obtain ⟨htrimmed, x, e, hx, he, rfl⟩ := h
  rw [inner, List.append_assoc, Text.trimStart_blank_append hx]
  cases text with
  | nil => exact Sql.body_of_trailing htrimmed.last (trailing_trimStart he)
  | cons c text =>
    rw [Text.trimStart_eq_self (s := c :: text ++ e) htrimmed.first]
    exact Sql.body_of_trailing htrimmed.last he

end Statement

namespace Listing

/-! ## The ends of a run -/

/-- What the filter of a scope makes of a template: a statement without parameters if there is none. -/
inductive Filtering (template : Text) (columns : Columns) : Option FilterGroup → Except QueryFault Statement → Prop
  | absent : Filtering template columns none (.ok ⟨template, []⟩)
  | present {group : FilterGroup} {outcome : Except QueryFault Statement} :
      Statement.applyFilter ⟨template, []⟩ group columns = outcome → Filtering template columns (some group) outcome

/-- The text that counts the rows of the statement within `text`. -/
def countingText (text : Text) : Text := "SELECT COUNT(*) FROM (".toList ++ text ++ ") AS subquery".toList

/-- What follows the text inside a statement when one page of it is fetched. -/
def pageTail (s : Statement) : Text :=
  " LIMIT ".toList ++ Placeholder.write (Placeholder.last s.sql + 1) ++ " OFFSET ".toList ++
    Placeholder.write (Placeholder.last s.sql + 2) ++ ";".toList

/-- The statement that fetches what `s` selects, and the command that it is sent as: `s` itself with its parameters, or
one page of it, whose limit and offset follow the parameters of `s`. -/
inductive Fetching (s : Statement) (text : Text) : Option Page → Statement → Command → Prop
  | whole : Fetching s text none s ⟨s.sql, s.params.map .param⟩
  | page (p : Page) : Fetching s text (some p) ⟨text ++ pageTail s, s.params ++ [.int p.limit, .int p.offset]⟩
      ⟨text ++ pageTail s, s.params.map .param ++ [.param (.int p.limit), .param (.int p.offset)]⟩

/-- The ends of a list query: the scope that it leaves, the commands that it sent and its result. -/
inductive Ends (count : Statement → Except DatabaseFault Int) (rows : Statement → Except DatabaseFault (List α))
    (template : Text) (columns : Columns) (scope : Scope) : Scope × Exchange (List α) → Prop
  | refused {fault : QueryFault} : Filtering template columns scope.filter (.error fault) →
      Ends count rows template columns scope (scope, ⟨[], .error (.query fault)⟩)
  | uncounted {s : Statement} {text : Text} {fault : DatabaseFault} :
      Filtering template columns scope.filter (.ok s) → Statement.Wraps s.sql text →
      count ⟨countingText text, s.params⟩ = .error fault →
      Ends count rows template columns scope
        (scope, ⟨[⟨countingText text, s.params.map .param⟩], .error (.database fault)⟩)
  | unfetched {s fetching : Statement} {command : Command} {text : Text} {total : Int} {fault : DatabaseFault} :
      Filtering template columns scope.filter (.ok s) → Statement.Wraps s.sql text →
      count ⟨countingText text, s.params⟩ = .ok total → Fetching s text scope.page fetching command →
      rows fetching = .error fault →
      Ends count rows template columns scope (scope.recordTotal total,
        ⟨[⟨countingText text, s.params.map .param⟩, command], .error (.database fault)⟩)
  | fetched {s fetching : Statement} {command : Command} {text : Text} {total : Int} {items : List α} :
      Filtering template columns scope.filter (.ok s) → Statement.Wraps s.sql text →
      count ⟨countingText text, s.params⟩ = .ok total → Fetching s text scope.page fetching command →
      rows fetching = .ok items →
      Ends count rows template columns scope (scope.recordTotal total,
        ⟨[⟨countingText text, s.params.map .param⟩, command], .ok items⟩)

theorem filtered_eq_iff {template : Text} {columns : Columns} {filter : Option FilterGroup}
    {outcome : Except QueryFault Statement} :
    filtered template columns filter = outcome ↔ Filtering template columns filter outcome := by
  cases filter with
  | none =>
    constructor
    · rintro rfl
      exact .absent
    · rintro ⟨⟩
      rfl
  | some group =>
    constructor
    · exact .present
    · intro h
      cases h with
      | present h => exact h

theorem count_eq {s : Statement} {text : Text} (h : Statement.Wraps s.sql text) :
    s.count = ⟨countingText text, s.params⟩ := by
  have hinner := h.inner_eq
  subst hinner
  rfl

theorem paginate_eq {s : Statement} {text : Text} (h : Statement.Wraps s.sql text) (page : Page) :
    s.paginate page = ⟨text ++ pageTail s, s.params ++ [.int page.limit, .int page.offset]⟩ := by
  have hinner := h.inner_eq
  subst hinner
  rw [Statement.paginate, Statement.pageText_eq]
  rfl

/-- The total changes neither the limit nor the offset, so the page is that of the scope before the count. -/
theorem pageStatement_eq_iff {s fetching : Statement} {text : Text} (h : Statement.Wraps s.sql text)
    {scope : Scope} {total : Int} {command : Command} :
    pageStatement s (scope.recordTotal total).page = fetching ∧ Command.ofStatement fetching = command ↔
      Fetching s text scope.page fetching command := by
  rw [Scope.recordTotal_page]
  cases scope.page with
  | none =>
    constructor
    · rintro ⟨rfl, rfl⟩
      exact .whole
    · rintro ⟨⟩
      exact ⟨rfl, rfl⟩
  | some page =>
    rw [Option.map_some, pageStatement, paginate_eq h]
    have hcommand : Command.ofStatement ⟨text ++ pageTail s, s.params ++ [.int page.limit, .int page.offset]⟩ =
        ⟨text ++ pageTail s, s.params.map .param ++ [.param (.int page.limit), .param (.int page.offset)]⟩ := by
      rw [Command.ofStatement, List.map_append]
      rfl
    constructor
    · rintro ⟨rfl, rfl⟩
      exact hcommand ▸ .page page
    · rintro ⟨⟩
      exact ⟨rfl, hcommand⟩

section
variable {count : Statement → Except DatabaseFault Int} {rows : Statement → Except DatabaseFault (List α)}
  {template : Text} {columns : Columns} {scope : Scope}

theorem run_of_filtered {s : Statement} {text : Text} (hs : Filtering template columns scope.filter (.ok s))
    (htext : Statement.Wraps s.sql text) :
    run count rows template columns scope = match count ⟨countingText text, s.params⟩ with
      | .error fault => (scope, ⟨[⟨countingText text, s.params.map .param⟩], .error (.database fault)⟩)
      | .ok total =>
        let fetching := pageStatement s (scope.recordTotal total).page
        (scope.recordTotal total, ⟨[⟨countingText text, s.params.map .param⟩, .ofStatement fetching],
          (rows fetching).mapError .database⟩) := by
  rewrite [run, filtered_eq_iff.2 hs]
  dsimp only
  rw [count_eq htext]
  rfl

theorem run_ends : Ends count rows template columns scope (run count rows template columns scope) := by
  cases hs : filtered template columns scope.filter with
  | error fault =>
    rw [run, hs]
    exact .refused (filtered_eq_iff.1 hs)
  | ok s =>
    have hs := filtered_eq_iff.1 hs
    have htext := Statement.wraps_inner s.sql
    rw [run_of_filtered hs htext]
    cases hcount : count ⟨countingText (Statement.inner s.sql), s.params⟩ with
    | error fault => exact .uncounted hs htext hcount
    | ok total =>
      have hfetching : Fetching s _ scope.page (pageStatement s (scope.recordTotal total).page) _ :=
        (pageStatement_eq_iff htext).1 ⟨rfl, rfl⟩
      dsimp only
      cases hrows : rows (pageStatement s (scope.recordTotal total).page) with
      | error fault => exact .unfetched hs htext hcount hfetching hrows
      | ok items => exact .fetched hs htext hcount hfetching hrows

theorem Ends.run_eq {r : Scope × Exchange (List α)} (h : Ends count rows template columns scope r) :
    run count rows template columns scope = r := by
  cases h with
  | refused hs =>
    rw [run, filtered_eq_iff.2 hs]
    rfl
  | uncounted hs htext hcount => rw [run_of_filtered hs htext, hcount]
  | unfetched hs htext hcount hfetching hrows | fetched hs htext hcount hfetching hrows =>
    obtain ⟨hfetching, hcommand⟩ := (pageStatement_eq_iff htext).2 hfetching
    rw [run_of_filtered hs htext, hcount]
    dsimp only
    rw [hfetching, hcommand, hrows]
    rfl

end

/-- The second statement of a run contains the text that the first one counts, and binds its parameters first. -/
theorem Ends.agree {count : Statement → Except DatabaseFault Int} {rows : Statement → Except DatabaseFault (List α)}
    {template : Text} {columns : Columns} {scope : Scope} {r : Scope × Exchange (List α)}
    (h : Ends count rows template columns scope r) {counted paged : Command} (hsent : r.2.sent = [counted, paged]) :
    ∃ text before after, counted.sql = "SELECT COUNT(*) FROM (".toList ++ text ++ ") AS subquery".toList ∧
      Text.AllBlank before ∧ paged.sql = before ++ text ++ after ∧ counted.values <+: paged.values := by
  cases h with
  | refused | uncounted => cases hsent
  | @unfetched s _ _ text _ _ _ htext _ hfetching | @fetched s _ _ text _ _ _ htext _ hfetching =>
    cases hsent
    generalize scope.page = page at hfetching
    cases hfetching with
    | whole =>
      obtain ⟨x, e, hx, -, hsql⟩ := htext.surrounded
      exact ⟨text, x, e, rfl, hx, hsql, List.prefix_refl _⟩
    | page p => exact ⟨text, [], pageTail s, rfl, Text.allBlank_nil, rfl, List.prefix_append _ _⟩

/-- A list query ends in one of four ways, whatever the database answers: the filter is refused and nothing is
sent, the count fails, or the total is recorded and the rows are lost or fetched. Where two statements are
sent they wrap one text, and the parameters of the count begin those of the page. -/
theorem run_eq_iff_ends (count : Statement → Except DatabaseFault Int)
    (rows : Statement → Except DatabaseFault (List α)) (template : Text) (columns : Columns) (scope : Scope) :
    (∀ r, run count rows template columns scope = r ↔ Ends count rows template columns scope r) ∧
    ∀ counted paged, (run count rows template columns scope).2.sent = [counted, paged] →
      ∃ text before after, counted.sql = "SELECT COUNT(*) FROM (".toList ++ text ++ ") AS subquery".toList ∧
        Text.AllBlank before ∧ paged.sql = before ++ text ++ after ∧ counted.values <+: paged.values := by
  refine ⟨fun r => ⟨?_, Ends.run_eq⟩, fun counted paged => Ends.agree run_ends⟩
  rintro rfl
  exact run_ends

/-- A page of a sensor's metrics is lost after the count: the total stays, and the page was one of what was counted. -/
theorem run_eq_iff_ends_lost_page :
    let group : FilterGroup := ⟨[⟨"sensorId".toList, .equals, "s1".toList, .string⟩], none, .ascending⟩
    let scope := ((Scope.empty.withPage ⟨40, 20, 0⟩).withFilter group).register Scope.totalHeader
    let r : Scope × Exchange (List Metric) := run (fun _ => .ok 57) (fun _ => .error .poolTimedOut)
      MetricTable.listTemplate MetricTable.columns scope
    let text := "SELECT sensor_id, value, unit, timestamp FROM metrics WHERE sensor_id=$1".toList
    let counted : Command := ⟨"SELECT COUNT(*) FROM (".toList ++ text ++ ") AS subquery".toList,
      [.param (.text "s1".toList)]⟩
    let paged : Command := ⟨text ++ " LIMIT $2 OFFSET $3;".toList,
      [.param (.text "s1".toList), .param (.int 20), .param (.int 40)]⟩
    r.1.page = some ⟨40, 20, 57⟩ ∧ r.1.headers = [("Total".toList, "57".toList)] ∧ r.2.sent = [counted, paged] ∧
      r.2.result = .error (.database .poolTimedOut) ∧
      ∃ text before after, counted.sql = "SELECT COUNT(*) FROM (".toList ++ text ++ ") AS subquery".toList ∧
        Text.AllBlank before ∧ paged.sql = before ++ text ++ after ∧ counted.values <+: paged.values := by
  intro group scope r text counted paged
  have hsent : r.2.sent = [counted, paged] := by decide +kernel
  exact ⟨by decide +kernel, by decide +kernel, hsent, by decide +kernel, (run_eq_iff_ends _ _ _ _ _).2 _ _ hsent⟩

end Listing

end SensorRegistry
