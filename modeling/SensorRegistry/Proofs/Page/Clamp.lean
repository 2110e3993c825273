/-
Limits that a query string writes as numerals. A numeral that fits 64 bits is clamped between the least and the
greatest limit, so a greater request never gives a smaller page. One that does not fit cannot be read and counts as no
limit at all: it gives the default, where its value would be clamped to the bound at its end. So numerals of every
length are clamped, and larger requests never give smaller pages, exactly when the three limits are one.
-/
import SensorRegistry.Proofs.Page.Walk

namespace SensorRegistry.PageOptions

/-! ## Requests -/

/-- The first limit of the query string is the numeral. -/
def Asks (o : PageOptions) (query : Text) (d : Numeral) : Prop := QueryString.first? o.limitName query = some d.text

theorem exists_asks (o : PageOptions) (n : Int) : ∃ query d, o.Asks query d ∧ d.value = n := by
  obtain ⟨d, hd⟩ := Numeral.exists_value n
  obtain ⟨query, hquery⟩ := QueryString.exists_first? o.limitName d.text
  exact ⟨query, d, hquery, hd⟩

/-- A number between two bounds, or the bound that it passes. -/
theorem clamp_eq {o : PageOptions} (h : o.minLimit ≤ o.maxLimit) (n : Int) :
    o.clamp n = min (max n o.minLimit) o.maxLimit := by
  unfold clamp
  split_ifs <;> omega

theorem clamp_mono {o : PageOptions} (h : o.minLimit ≤ o.maxLimit) {m n : Int} (hmn : m ≤ n) :
    o.clamp m ≤ o.clamp n := by
  rw [clamp_eq h, clamp_eq h]
  omega

/-- The limit of a page that a numeral asks for. -/
theorem limit_of_asks {o : PageOptions} {query : Text} {d : Numeral} (h : o.Asks query d) :
    (o.resolve (some query)).limit =
      if IntegerRange.int64.contains d.value then o.clamp d.value else o.defaultLimit := by
  have hread := IntegerRange.read_numeral (r := .int64) (by decide) (by decide) d
  rw [resolve_limit, Option.getD_some, number?, h, Option.bind_some, hread]
  split <;> rfl

theorem limit_of_fits {o : PageOptions} {query : Text} {d : Numeral} (h : o.Asks query d)
    (hfits : IntegerRange.int64.contains d.value = true) : (o.resolve (some query)).limit = o.clamp d.value := by
  rw [limit_of_asks h, if_pos hfits]

theorem limit_of_not_fits {o : PageOptions} {query : Text} {d : Numeral} (h : o.Asks query d)
    (hfits : IntegerRange.int64.contains d.value = false) : (o.resolve (some query)).limit = o.defaultLimit := by
  rw [limit_of_asks h, if_neg (by simp [hfits])]

/-! ## Numerals of every length -/

/-- Where a limit is the least, the default and the greatest one, every page has it. -/
theorem limit_eq_of_single {o : PageOptions} (hmin : o.defaultLimit = o.minLimit) (hmax : o.minLimit = o.maxLimit)
    {query : Text} {d : Numeral} (h : o.Asks query d) : (o.resolve (some query)).limit = o.minLimit := by
  rw [limit_of_asks h, clamp_eq (by omega)]
  split <;> omega

/-- Pages that grow with what is asked for, past the ends of the 64-bit integers too, are all of one size: the default
follows the greatest limit at the one end, and the least limit follows the default at the other. -/
theorem single_of_mono {o : PageOptions} (hlimits : o.minLimit ≤ o.maxLimit) (hpositive : o.Positive)
    (hmax : o.maxLimit ≤ IntegerRange.int64.greatest)
    (h : ∀ query query' d d', o.Asks query d → o.Asks query' d' → d.value ≤ d'.value →
      (o.resolve (some query)).limit ≤ (o.resolve (some query')).limit) :
    o.defaultLimit = o.minLimit ∧ o.minLimit = o.maxLimit := by
  have hmin := hpositive.minLimit
  have hgreatest : o.maxLimit ≤ o.defaultLimit := by
    obtain ⟨query, d, hd, hvalue⟩ := o.exists_asks IntegerRange.int64.greatest
    obtain ⟨query', d', hd', hvalue'⟩ := o.exists_asks (IntegerRange.int64.greatest + 1)
    have hle := h query query' d d' hd hd' (by omega)
    rw [limit_of_fits hd (by rw [hvalue]; decide), limit_of_not_fits hd' (by rw [hvalue']; decide), hvalue,
      clamp_eq hlimits] at hle
    omega
  have hleast : o.defaultLimit ≤ o.minLimit := by
    obtain ⟨query, d, hd, hvalue⟩ := o.exists_asks (IntegerRange.int64.least - 1)
    obtain ⟨query', d', hd', hvalue'⟩ := o.exists_asks IntegerRange.int64.least
    have hle := h query query' d d' hd hd' (by omega)
    have hnegative : IntegerRange.int64.least < 0 := by decide
    rw [limit_of_not_fits hd (by rw [hvalue]; decide), limit_of_fits hd' (by rw [hvalue']; decide), hvalue',
      clamp_eq hlimits] at hle
    omega
  omega

/-- A numeral that fits 64 bits is clamped between the limits, and one that does not gives the default. Among the
numerals that fit, larger ones never give smaller pages. Numerals of every length are clamped exactly when the three
limits are one, and so it is with larger numerals and larger pages. -/
theorem limit_clamped_iff {settings : List Setting} (hfits : ∀ s ∈ settings, s.Fits)
    (hlimits : (ofSettings settings).minLimit ≤ (ofSettings settings).maxLimit) :
    let o := ofSettings settings
    let single := o.defaultLimit = o.minLimit ∧ o.minLimit = o.maxLimit
    (∀ query d, o.Asks query d → (o.resolve (some query)).limit =
      if IntegerRange.int64.contains d.value then min (max d.value o.minLimit) o.maxLimit else o.defaultLimit) ∧
    (∀ query query' d d', o.Asks query d → o.Asks query' d' → d.value ≤ d'.value →
      IntegerRange.int64.contains d.value = true → IntegerRange.int64.contains d'.value = true →
        (o.resolve (some query)).limit ≤ (o.resolve (some query')).limit) ∧
    ((∀ query d, o.Asks query d → (o.resolve (some query)).limit = min (max d.value o.minLimit) o.maxLimit) ↔
      single) ∧
    ((∀ query query' d d', o.Asks query d → o.Asks query' d' → d.value ≤ d'.value →
      (o.resolve (some query)).limit ≤ (o.resolve (some query')).limit) ↔ single) := by
  intro o single
  have hmono := single_of_mono hlimits (positive_ofSettings settings) (maxLimit_ofSettings_le hfits)
  refine ⟨fun query d hd => ?_, fun query query' d d' hd hd' hle hd64 hd64' => ?_, ⟨fun h => ?_, ?_⟩, ⟨hmono, ?_⟩⟩
  · rw [← clamp_eq hlimits, limit_of_asks hd]
  · rw [limit_of_fits hd hd64, limit_of_fits hd' hd64']
    exact clamp_mono hlimits hle
  · -- clamped numerals of larger values give larger pages, whatever their length
    refine hmono fun query query' d d' hd hd' hle => ?_
    rw [h query d hd, h query' d' hd', ← clamp_eq hlimits, ← clamp_eq hlimits]
    exact clamp_mono hlimits hle
  · rintro ⟨hdefault, hsingle⟩ query d hd
    rw [limit_eq_of_single hdefault hsingle hd]
    omega
  · rintro ⟨hdefault, hsingle⟩ query query' d d' hd hd' -
    have hd := limit_eq_of_single hdefault hsingle hd
    exact Int.le_of_eq (hd.trans (limit_eq_of_single hdefault hsingle hd').symm)

/-- One more than the greatest 64-bit integer gives twenty entries, where that integer gives a hundred. -/
theorem limit_clamped_iff_overflow :
    let settings := [Setting.limitName "per_page".toList, .minLimit 5]
    let o := ofSettings settings
    let query := "per_page=9223372036854775808".toList
    ∃ d, (∀ s ∈ settings, s.Fits) ∧ o.minLimit ≤ o.maxLimit ∧ o.Asks query d ∧ d.value = 9223372036854775808 ∧
      (o.resolve (some query)).limit = 20 ∧ min (max d.value o.minLimit) o.maxLimit = 100 := by
  intro settings o query
  let d : Numeral := ⟨false, "9223372036854775808".toList, by decide, List.all_eq_true.1 (by decide)⟩
  have hfits : ∀ s ∈ settings, s.Fits := by decide
  have hlimits : o.minLimit ≤ o.maxLimit := by decide
  have hasks : o.Asks query d := by
    show QueryString.first? o.limitName query = some d.text
    decide +kernel
  have hvalue : d.value = 9223372036854775808 := by decide +kernel
  refine ⟨d, hfits, hlimits, hasks, hvalue, ?_, by rw [hvalue]; decide⟩
  have hlimit := (limit_clamped_iff hfits hlimits).1 query d hasks
  rw [hvalue] at hlimit
  exact hlimit

end SensorRegistry.PageOptions
