/-
Following the links of a page. A link carries its page as a query string, and resolving that string with the
same options gives the page: both names and both numbers are read back, and the limit, which is within the
bounds already, is not changed by clamping. So the next links of a list with a known total lead from each
offset to the one behind it, and end at the total.

What a step keeps is that a page is resolved: its numbers are ones that some query string asks for.
-/
import SensorRegistry.Page.Link
import SensorRegistry.Proofs.Number.Integer
import SensorRegistry.Proofs.Page.Limit

namespace SensorRegistry

namespace PageOptions

/-! ## Options -/

/-- The number of a setting, if it has one, is a 64-bit integer, as every number of paging is. -/
def Setting.Fits : Setting → Prop
  | .maxLimit n | .minLimit n | .defaultLimit n => IntegerRange.int64.contains n = true
  | _ => True

instance (s : Setting) : Decidable s.Fits := by
  unfold Setting.Fits
  split <;> infer_instance

/-- Settings that fit 64 bits give limits that do. -/
theorem limits_le_ofSettings {settings : List Setting} (h : ∀ s ∈ settings, s.Fits) :
    (ofSettings settings).Limits (· ≤ IntegerRange.int64.greatest) := by
  refine limits_ofSettings ⟨by decide, by decide, by decide⟩ fun s hs n hn _ => ?_
  have hfits := h s hs
  cases s with
  | maxLimit m | minLimit m | defaultLimit m =>
    cases hn
    exact (IntegerRange.contains_iff.1 hfits).2
  | limitName name | offsetName name | totalName name | linkHeader on | pageHeaders on | headerStem stem => cases hn

theorem maxLimit_ofSettings_le {settings : List Setting} (h : ∀ s ∈ settings, s.Fits) :
    (ofSettings settings).maxLimit ≤ IntegerRange.int64.greatest :=
  (limits_le_ofSettings h).maxLimit

/-! ## Resolved pages -/

/-- A page whose offset and limit some query string asks for. -/
structure Resolved (o : PageOptions) (page : Page) : Prop where
  offset_nonneg : 0 ≤ page.offset
  offset_le : page.offset ≤ IntegerRange.int64.greatest
  minLimit_le : o.minLimit ≤ page.limit
  limit_le : page.limit ≤ o.maxLimit

theorem number?_le {name query : Text} {n : Int} (h : number? name query = some n) :
    n ≤ IntegerRange.int64.greatest := by
  obtain ⟨value, -, hread⟩ := Option.bind_eq_some_iff.1 h
  cases hn : IntegerRange.int64.read value with
  | error fault => rw [hn] at hread; cases hread
  | ok m =>
    rw [hn] at hread
    cases hread
    exact (IntegerRange.contains_iff.1 (IntegerRange.contains_of_read (by decide) hn)).2

/-- An offset that fits no 64 bits is read as zero, one below zero is raised to it. -/
theorem resolve_offset_mem (o : PageOptions) (query : Option Text) :
    0 ≤ (o.resolve query).offset ∧ (o.resolve query).offset ≤ IntegerRange.int64.greatest := by
  have hgreatest : (number? o.offsetName (query.getD [])).getD 0 ≤ IntegerRange.int64.greatest := by
    cases h : number? o.offsetName (query.getD []) with
    | none => decide
    | some n => exact number?_le h
  rw [resolve_offset]
  exact ⟨Int.le_max_right _ _, Int.max_le.2 ⟨hgreatest, by decide⟩⟩

theorem Resolved.next {o : PageOptions} {page : Page} (hp : Resolved o page) (h : page.offset < page.total)
    (htotal : page.total ≤ IntegerRange.int64.greatest) : Resolved o { page with offset := page.offset + 1 } := by
  have hoffset := hp.offset_nonneg
  exact ⟨by show 0 ≤ page.offset + 1; omega, by show page.offset + 1 ≤ _; omega, hp.minLimit_le, hp.limit_le⟩

end PageOptions

end SensorRegistry
