/-
The limit of a page against the greatest limit. Settings keep every limit positive, and the least one
below the greatest at the moment it is set; they do not keep the least and the default limit below a
greatest one that is set afterwards. So the greatest limit bounds every page exactly when both of the
others are at most as great: a query string without a usable limit gives the default, and one that asks
for less than the least gives the least, whatever the greatest is.
-/
import SensorRegistry.Page.Options
import SensorRegistry.Proofs.QueryString

namespace SensorRegistry.PageOptions

/-! ## Settings -/

/-- What the standard options have and every setting keeps, options built from settings have. -/
theorem ofSettings_induction {motive : PageOptions → Prop} (settings : List Setting) (hstandard : motive standard)
    (hset : ∀ o, ∀ s ∈ settings, motive o → motive (o.set s)) : motive (ofSettings settings) :=
  List.foldlRecOn settings set hstandard fun o ho s hs => hset o s hs ho

/-- All three limits have the property. -/
structure Limits (P : Int → Prop) (o : PageOptions) : Prop where
  maxLimit : P o.maxLimit
  minLimit : P o.minLimit
  defaultLimit : P o.defaultLimit

/-- The limit that a setting asks for. -/
def Setting.limit? : Setting → Option Int
  | .maxLimit n | .minLimit n | .defaultLimit n => some n
  | .limitName _ | .offsetName _ | .totalName _ | .linkHeader _ | .pageHeaders _ | .headerStem _ => none

/-- Limits come from settings, and only positive ones are taken. -/
theorem Limits.set {P : Int → Prop} {o : PageOptions} (h : o.Limits P) {setting : Setting}
    (hsetting : ∀ n ∈ setting.limit?, 0 < n → P n) : (o.set setting).Limits P := by
  cases setting with
  | maxLimit n =>
    dsimp only [PageOptions.set]
    split_ifs with hn
    · exact ⟨hsetting n rfl hn, h.minLimit, h.defaultLimit⟩
    · exact h
  | minLimit n =>
    dsimp only [PageOptions.set]
    split_ifs with hn
    · exact ⟨h.maxLimit, hsetting n rfl hn.1, h.defaultLimit⟩
    · exact h
  | defaultLimit n =>
    dsimp only [PageOptions.set]
    split_ifs with hn
    · exact ⟨h.maxLimit, h.minLimit, hsetting n rfl hn⟩
    · exact h
  | limitName name | offsetName name | totalName name | headerStem name =>
    dsimp only [PageOptions.set]
    split_ifs
    · exact h
    · exact ⟨h.maxLimit, h.minLimit, h.defaultLimit⟩
  | linkHeader on | pageHeaders on => exact ⟨h.maxLimit, h.minLimit, h.defaultLimit⟩

theorem limits_ofSettings {P : Int → Prop} {settings : List Setting} (hstandard : standard.Limits P)
    (hsettings : ∀ s ∈ settings, ∀ n ∈ s.limit?, 0 < n → P n) : (ofSettings settings).Limits P :=
  ofSettings_induction settings hstandard fun _ s hs ho => ho.set (hsettings s hs)

/-- All three limits are positive. -/
structure Positive (o : PageOptions) : Prop where
  maxLimit : 0 < o.maxLimit
  minLimit : 0 < o.minLimit
  defaultLimit : 0 < o.defaultLimit

theorem positive_ofSettings (settings : List Setting) : (ofSettings settings).Positive := by
  have hlimits : (ofSettings settings).Limits (0 < ·) :=
    limits_ofSettings ⟨by decide, by decide, by decide⟩ fun _ _ _ _ hn => hn
  exact ⟨hlimits.maxLimit, hlimits.minLimit, hlimits.defaultLimit⟩

/-! ## Resolution -/

theorem resolve_limit (o : PageOptions) (query : Option Text) :
    (o.resolve query).limit = ((number? o.limitName (query.getD [])).map o.clamp).getD o.defaultLimit := rfl

theorem resolve_offset (o : PageOptions) (query : Option Text) :
    (o.resolve query).offset = max ((number? o.offsetName (query.getD [])).getD 0) 0 := rfl

/-- Clamping leaves the bound only towards a least limit above it. -/
theorem maxLimit_lt_clamp_iff {o : PageOptions} {n : Int} :
    o.maxLimit < o.clamp n ↔ n < o.maxLimit ∧ o.maxLimit < o.minLimit := by
  unfold clamp
  split_ifs <;> omega

/-- Every name can be given the value zero. -/
theorem exists_query_zero (name : Text) : ∃ query, number? name query = some 0 := by
  obtain ⟨query, hquery⟩ := QueryString.exists_first? name ['0']
  refine ⟨query, ?_⟩
  rw [number?, hquery]
  rfl

/-! ## The bound -/

/-- The page of a query string leaves the bound when that string has no usable limit and the default is
above the bound, or it asks for less than the bound and the least limit is above it. -/
theorem maxLimit_lt_resolve_iff (o : PageOptions) (query : Option Text) :
    o.maxLimit < (o.resolve query).limit ↔
      match number? o.limitName (query.getD []) with
      | none => o.maxLimit < o.defaultLimit
      | some n => n < o.maxLimit ∧ o.maxLimit < o.minLimit := by
  rw [resolve_limit]
  cases number? o.limitName (query.getD []) with
  | none => exact Iff.rfl
  | some n => exact maxLimit_lt_clamp_iff

theorem forall_resolve_le_iff {o : PageOptions} (h : o.Positive) :
    (∀ query, (o.resolve query).limit ≤ o.maxLimit) ↔ o.defaultLimit ≤ o.maxLimit ∧ o.minLimit ≤ o.maxLimit := by
  constructor
  · intro hall
    obtain ⟨query, hquery⟩ := exists_query_zero o.limitName
    have hzero := (maxLimit_lt_resolve_iff o (some query)).not.1 (Int.not_lt.2 (hall (some query)))
    rw [Option.getD_some, hquery] at hzero
    -- Without a query string the limit is the default one, as no pair names it.
    exact ⟨hall none, Int.not_lt.1 fun hmin => hzero ⟨h.maxLimit, hmin⟩⟩
  · rintro ⟨hdefault, hmin⟩ query
    rw [← Int.not_lt, maxLimit_lt_resolve_iff]
    cases number? o.limitName (query.getD []) with
    | none => exact Int.not_lt.2 hdefault
    | some n => exact fun hn => Int.not_lt.2 hmin hn.2

/-- The greatest limit bounds the page of a query string unless that string has no usable limit and the
default is above the bound, or it asks for less than the bound and the least limit is above it. It bounds
the pages of all query strings exactly when neither the default nor the least limit is above it. -/
theorem limit_le_maxLimit_iff (settings : List Setting) :
    let o := ofSettings settings
    (∀ query, o.maxLimit < (o.resolve query).limit ↔
      match number? o.limitName (query.getD []) with
      | none => o.maxLimit < o.defaultLimit
      | some n => n < o.maxLimit ∧ o.maxLimit < o.minLimit) ∧
    ((∀ query, (o.resolve query).limit ≤ o.maxLimit) ↔ o.defaultLimit ≤ o.maxLimit ∧ o.minLimit ≤ o.maxLimit) :=
  ⟨maxLimit_lt_resolve_iff _, forall_resolve_le_iff (positive_ofSettings settings)⟩

/-- Under a greatest limit of five, a request for three entries gets ten. -/
example : ((ofSettings [.maxLimit 5]).resolve (some "limit=3".toList)).limit = 10 := by decide

/-- The lists of the service set the greatest limit alone: it bounds their pages unless it is positive and
below the standard default. -/
theorem forall_resolve_ofSettings_maxLimit_le_iff (n : Int) :
    (∀ query, ((ofSettings [.maxLimit n]).resolve query).limit ≤ (ofSettings [.maxLimit n]).maxLimit) ↔
      n ≤ 0 ∨ 20 ≤ n := by
  rw [forall_resolve_le_iff (positive_ofSettings _)]
  dsimp only [ofSettings, List.foldl_cons, List.foldl_nil, PageOptions.set]
  split_ifs with hn
  · dsimp only [standard]
    omega
  · dsimp only [standard]
    omega

end SensorRegistry.PageOptions
