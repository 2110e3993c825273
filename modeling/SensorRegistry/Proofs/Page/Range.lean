/-
The numbers that a page binds. Whatever the settings of an endpoint and whatever the query string, a page is resolved
to a positive limit and to an offset that is not negative, both 64-bit integers, and to an unknown total. What is done
with the scope of a request afterwards, recording totals above all, changes neither of the two, so every statement that
takes a page of its rows binds a number that LIMIT admits and one that OFFSET admits.

What the settings keep is that the limits are positive and fit 64 bits; a limit is one of them, or lies between two.
-/
import SensorRegistry.Api.Endpoint
import SensorRegistry.Proofs.Page.Walk
import SensorRegistry.Proofs.Scope.Run
import SensorRegistry.Sql.Statement

namespace SensorRegistry

/-- A page whose limit and offset a statement can bind. -/
structure Page.InRange (page : Page) : Prop where
  limit_pos : 0 < page.limit
  limit_le : page.limit ≤ IntegerRange.int64.greatest
  offset_nonneg : 0 ≤ page.offset
  offset_le : page.offset ≤ IntegerRange.int64.greatest

/-- Whether a page is in range does not depend on its total. -/
theorem Page.InRange.congr {page other : Page} (h : page.InRange)
    (heq : (other.offset, other.limit) = (page.offset, page.limit)) : other.InRange := by
  obtain ⟨hoffset, hlimit⟩ := Prod.ext_iff.1 heq
  dsimp only at hoffset hlimit
  exact ⟨hlimit ▸ h.limit_pos, hlimit ▸ h.limit_le, hoffset ▸ h.offset_nonneg, hoffset ▸ h.offset_le⟩

namespace PageOptions

/-- A clamped limit is positive and fits 64 bits, also where the least limit is above the greatest. -/
theorem clamp_inRange {o : PageOptions} (hpositive : o.Positive)
    (hbounded : o.Limits (· ≤ IntegerRange.int64.greatest)) (n : Int) :
    0 < o.clamp n ∧ o.clamp n ≤ IntegerRange.int64.greatest := by
  have hmax := hpositive.maxLimit
  have hmin := hpositive.minLimit
  have hmax' := hbounded.maxLimit
  have hmin' := hbounded.minLimit
  unfold clamp
  split_ifs <;> omega

theorem resolve_inRange {o : PageOptions} (hpositive : o.Positive)
    (hbounded : o.Limits (· ≤ IntegerRange.int64.greatest)) (query : Option Text) : (o.resolve query).InRange := by
  have hlimit : 0 < (o.resolve query).limit ∧ (o.resolve query).limit ≤ IntegerRange.int64.greatest := by
    rw [resolve_limit]
    cases number? o.limitName (query.getD []) with
    | none => exact ⟨hpositive.defaultLimit, hbounded.defaultLimit⟩
    | some n => exact clamp_inRange hpositive hbounded n
  obtain ⟨hoffset, hoffset'⟩ := resolve_offset_mem o query
  exact ⟨hlimit.1, hlimit.2, hoffset, hoffset'⟩

end PageOptions

namespace ListEndpoint

theorem page_of_openScope {e : ListEndpoint} {r : ListRequest} {scope : Scope} (h : e.openScope r = .ok scope) :
    scope.page = e.page? r := by
  unfold openScope at h
  cases hparse : e.whitelist.parse r.query with
  | error problems =>
    rw [hparse] at h
    cases h
  | ok group =>
    rw [hparse] at h
    cases h
    rfl

/-- The page of a request is resolved from its query string. -/
theorem eq_resolve_of_page? {e : ListEndpoint} {r : ListRequest} {page : Page} (h : e.page? r = some page) :
    page = e.paging.resolve r.query := by
  unfold page? at h
  split_ifs at h
  exact (Option.some.inj h).symm

/-- Resolving gives a limit of at least one, an offset of at least zero and no total, for all settings and all query
strings. Every statement that is paged in the scope of a request, whatever was done with that scope short of setting
another page, binds a limit and an offset that are 64-bit integers, the one positive and the other not negative. -/
theorem paginate_inRange {settings : List PageOptions.Setting} (hfits : ∀ s ∈ settings, s.Fits) :
    let paging := PageOptions.ofSettings settings
    (∀ query, 1 ≤ (paging.resolve query).limit ∧ 0 ≤ (paging.resolve query).offset ∧ (paging.resolve query).total = 0) ∧
    ∀ whitelist scheme r scope, (ListEndpoint.mk whitelist paging scheme).openScope r = .ok scope →
      ∀ steps : List Scope.Step, (∀ page, .withPage page ∉ steps) → ∀ page ∈ (scope.run steps).page, ∀ s : Statement,
        ∃ limit offset, (s.paginate page).params = s.params ++ [.int limit, .int offset] ∧
          0 < limit ∧ IntegerRange.int64.contains limit = true ∧
          0 ≤ offset ∧ IntegerRange.int64.contains offset = true := by
  intro paging
  have hrange : ∀ query, (paging.resolve query).InRange :=
    PageOptions.resolve_inRange (PageOptions.positive_ofSettings settings) (PageOptions.limits_le_ofSettings hfits)
  refine ⟨fun query => ⟨(hrange query).limit_pos, (hrange query).offset_nonneg, rfl⟩, ?_⟩
  intro whitelist scheme r scope hopen steps hsteps page hpage s
  -- the page of the scope is that of the request but for its total
  have hwindow := Scope.page_run (s := scope) hsteps
  rw [hpage, Option.map_some, eq_comm, Option.map_eq_some_iff] at hwindow
  obtain ⟨resolved, hresolved, heq⟩ := hwindow
  rw [page_of_openScope hopen] at hresolved
  have hin : page.InRange := by
    refine Page.InRange.congr (hrange r.query) ?_
    rw [← heq, eq_resolve_of_page? hresolved]
  have hleast : IntegerRange.int64.least < 0 := by decide
  have hlimit := hin.limit_pos
  have hoffset := hin.offset_nonneg
  exact ⟨page.limit, page.offset, rfl, hlimit, IntegerRange.contains_iff.2 ⟨by omega, hin.limit_le⟩,
    hoffset, IntegerRange.contains_iff.2 ⟨by omega, hin.offset_le⟩⟩

/-- An offset that fits no 64 bits and a limit below zero, under a least limit above the greatest one. -/
theorem paginate_inRange_extreme :
    let settings : List PageOptions.Setting :=
      [.minLimit 50, .maxLimit 5, .defaultLimit (-3), .limitName " size ".toList]
    let e : ListEndpoint := ⟨.empty, .ofSettings settings, "http".toList⟩
    let r : ListRequest := ⟨"get".toList, none, "/".toList, some "size=-9&offset=9223372036854775808".toList⟩
    (∀ s ∈ settings, s.Fits) ∧ ∃ scope page, e.openScope r = .ok scope ∧
      (scope.run [.recordTotal (-1), .recordTotal 57]).page = some page ∧
      ∃ limit offset,
        ((Statement.ofText "SELECT id FROM sensors;".toList).paginate page).params = [.int limit, .int offset] ∧
        0 < limit ∧ 0 ≤ offset := by
  intro settings e r
  have hfits : ∀ s ∈ settings, s.Fits := by decide
  let scope : Scope := ⟨some .empty, some ⟨0, 50, 0⟩, [("total".toList, "Total".toList)], []⟩
  have hopen : e.openScope r = .ok scope := by decide +kernel
  have hpage : (scope.run [.recordTotal (-1), .recordTotal 57]).page = some ⟨0, 50, 57⟩ := by decide +kernel
  obtain ⟨limit, offset, hparams, hlimit, -, hoffset, -⟩ :=
    (paginate_inRange hfits).2 .empty "http".toList r scope hopen
    [.recordTotal (-1), .recordTotal 57] (by simp) _ hpage (Statement.ofText "SELECT id FROM sensors;".toList)
  exact ⟨hfits, scope, _, hopen, hpage, limit, offset, hparams, hlimit, hoffset⟩

end ListEndpoint

end SensorRegistry
