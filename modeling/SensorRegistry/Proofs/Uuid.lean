/-
The hyphenated form of a UUID, and how many bytes each form has. All forms consist of characters of one byte, and no two
have the same length, so a UUID of 36 bytes is a hyphenated one.
-/
import SensorRegistry.Uuid
import SensorRegistry.Proofs.QueryString
import SensorRegistry.Proofs.Sql.Span

namespace SensorRegistry.Uuid

/-- Groups of 8, 4, 4, 4 and 12 hexadecimal digits with hyphens between them. -/
def Hyphenated (s : Text) : Prop :=
  ∃ groups : List Text, s = Text.join "-" groups ∧ groups.map List.length = [8, 4, 4, 4, 12] ∧
    ∀ g ∈ groups, ∀ c ∈ g, Text.IsHexDigit c

theorem isHex_iff {c : Char} : isHex c = true ↔ Text.IsHexDigit c := Text.isSome_hexValue?_iff

theorem isHyphenated_iff {s : Text} : isHyphenated s = true ↔ Hyphenated s := by
  have hdigits : ∀ groups : List Text,
      groups.all (·.all isHex) = true ↔ ∀ g ∈ groups, ∀ c ∈ g, Text.IsHexDigit c := by
    intro groups
    simp only [List.all_eq_true, isHex_iff]
  unfold isHyphenated
  rw [Bool.and_eq_true, beq_iff_eq, hdigits]
  constructor
  · rintro ⟨hlengths, hgroups⟩
    exact ⟨s.splitOn '-', (List.intercalate_splitOn '-').symm, hlengths, hgroups⟩
  · rintro ⟨groups, rfl, hlengths, hgroups⟩
    have hhyphen : ∀ g ∈ groups, '-' ∉ g := fun g hg hmem => absurd (hgroups g hg _ hmem) (by decide)
    have hne : groups ≠ [] := by
      rintro rfl
      cases hlengths
    have hsplit : (Text.join "-" groups).splitOn '-' = groups := List.splitOn_intercalate '-' hhyphen hne
    rw [hsplit]
    exact ⟨hlengths, hgroups⟩

/-! ## Bytes -/

theorem byteSize_of_isHexDigit {s : Text} (h : ∀ c ∈ s, Text.IsHexDigit c) : Text.byteSize s = s.length := by
  have hsizes : "0123456789abcdefABCDEF".toList.all (·.utf8Size == 1) = true := by decide
  have hsize : ∀ {c : Char}, Text.IsHexDigit c → c.utf8Size = 1 :=
    fun hc => beq_iff_eq.1 (List.all_eq_true.1 hsizes _ hc)
  induction s with
  | nil => rfl
  | cons c s ih =>
    obtain ⟨hc, hs⟩ := List.forall_mem_cons.1 h
    rw [Text.byteSize, hsize hc, ih hs, List.length_cons, Nat.add_comm]

theorem Hyphenated.byteSize {s : Text} (h : Hyphenated s) : Text.byteSize s = 36 := by
  obtain ⟨groups, rfl, hlengths, hgroups⟩ := h
  simp only [List.map_eq_cons_iff, List.map_eq_nil_iff] at hlengths
  obtain ⟨a, _, rfl, ha, b, _, rfl, hb, c, _, rfl, hc, d, _, rfl, hd, e, _, rfl, he, rfl⟩ := hlengths
  simp only [List.forall_mem_cons] at hgroups
  obtain ⟨ha', hb', hc', hd', he', -⟩ := hgroups
  have hjoin : Text.join "-" [a, b, c, d, e] = a ++ ['-'] ++ (b ++ ['-'] ++ (c ++ ['-'] ++ (d ++ ['-'] ++ e))) := by
    simp [Text.join_cons, Text.join_singleton]
  have hhyphen : Text.byteSize ['-'] = 1 := by decide
  rw [hjoin]
  simp only [Text.byteSize_append, byteSize_of_isHexDigit ha', byteSize_of_isHexDigit hb', byteSize_of_isHexDigit hc',
    byteSize_of_isHexDigit hd', byteSize_of_isHexDigit he', hhyphen, ha, hb, hc, hd, he]

theorem byteSize_of_isSimple {s : Text} (h : isSimple s = true) : Text.byteSize s = 32 := by
  unfold isSimple at h
  rw [Bool.and_eq_true, beq_iff_eq, List.all_eq_true] at h
  rw [byteSize_of_isHexDigit fun c hc => isHex_iff.1 (h.2 c hc), h.1]

theorem byteSize_of_isBraced {s : Text} (h : isBraced s = true) : Text.byteSize s = 38 := by
  unfold isBraced at h
  split at h
  · rename_i rest
    rw [Bool.and_eq_true, beq_iff_eq, isHyphenated_iff] at h
    obtain ⟨hclose, hinner⟩ := h
    have hrest := Text.byteSize_append rest.dropLast ['}']
    rw [List.dropLast_append_getLast? '}' hclose, hinner.byteSize] at hrest
    rw [Text.byteSize, hrest]
    decide
  · cases h

theorem byteSize_of_isUrn {s : Text} (h : isUrn s = true) : Text.byteSize s = 45 := by
  unfold isUrn at h
  rw [Option.any_eq_true] at h
  obtain ⟨rest, hrest, hinner⟩ := h
  rw [← List.isPrefixOf?_eq_some_iff_append_eq.1 hrest, Text.byteSize_append, (isHyphenated_iff.1 hinner).byteSize]
  decide

/-- Of the forms of a UUID the number of bytes leaves the hyphenated one. -/
theorem isUuid_iff_of_byteSize {s : Text} : (Text.byteSize s = 36 ∧ isUuid s = true) ↔ Hyphenated s := by
  constructor
  · rintro ⟨hsize, huuid⟩
    simp only [isUuid, Bool.or_eq_true] at huuid
    rcases huuid with ((hsimple | hhyphenated) | hbraced) | hurn
    · have := byteSize_of_isSimple hsimple
      omega
    · exact isHyphenated_iff.1 hhyphenated
    · have := byteSize_of_isBraced hbraced
      omega
    · have := byteSize_of_isUrn hurn
      omega
  · intro h
    refine ⟨h.byteSize, ?_⟩
    simp [isUuid, isHyphenated_iff.2 h]

end SensorRegistry.Uuid
