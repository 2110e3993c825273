/-
Positions in the bytes of a text. A position where a byte stands that can begin a character lies between two
characters, and a text whose bytes begin with those of another one begins with that text. So what is searched for in
the bytes of a text is found where it stands in the text.

Bytes past ASCII are parts of longer characters only. A test that no byte past ASCII passes, and that agrees with one
of characters on ASCII, gives the same answer for every byte of a character.
-/
import SensorRegistry.Proofs.Sql.Span
import SensorRegistry.Proofs.Text.Utf8

namespace SensorRegistry.Text

theorem bytes_append (a b : Text) : bytes (a ++ b) = bytes a ++ bytes b := List.flatMap_append

theorem length_bytes (s : Text) : (bytes s).length = byteSize s := by
  induction s with
  | nil => rfl
  | cons c s ih => rw [bytes_cons, List.length_append, String.length_utf8EncodeChar, ih, byteSize]

theorem take_bytes (a b : Text) : (bytes (a ++ b)).take (byteSize a) = bytes a := by
  rw [bytes_append, ← length_bytes, List.take_left]

theorem drop_bytes (a b : Text) : (bytes (a ++ b)).drop (byteSize a) = bytes b := by
  rw [bytes_append, ← length_bytes, List.drop_left]

theorem bytes_ne_nil {s : Text} (hs : s ≠ []) : bytes s ≠ [] := by
  intro h
  have hsize := byteSize_pos hs
  rw [← length_bytes, h] at hsize
  exact Nat.lt_irrefl 0 hsize

/-! ## Bytes of one character -/

/-- A character is its one byte, or all of its bytes lie past ASCII. -/
theorem encode_cases (c : Char) :
    (c.toNat < 0x80 ∧ String.utf8EncodeChar c = [UInt8.ofNat c.toNat]) ∨
      (0x80 ≤ c.toNat ∧ ∀ b ∈ String.utf8EncodeChar c, 0x80 ≤ b.toNat) := by
  have hval : c.val.toNat = c.toNat := rfl
  rw [String.utf8EncodeChar, hval]
  by_cases h : c.toNat < 0x80
  · rw [if_pos (by omega)]
    exact .inl ⟨h, rfl⟩
  · refine .inr ⟨by omega, ?_⟩
    have hvalid : c.val.toNat.isValidChar := c.valid
    rw [hval, Nat.isValidChar] at hvalid
    -- every byte of a longer character has its top bit set
    have byte : ∀ {n : Nat} {b : UInt8}, 0x80 ≤ n → n < 0x100 → b = UInt8.ofNat n → 0x80 ≤ b.toNat := by
      rintro n b hlow hhigh rfl
      rwa [Utf8.toNat_byte hhigh]
    rw [if_neg (by omega)]
    split_ifs <;> intro b hb <;> simp only [List.mem_cons, List.not_mem_nil, or_false] at hb
    · rcases hb with hb | hb <;> exact byte (by omega) (by omega) hb
    · rcases hb with hb | hb | hb <;> exact byte (by omega) (by omega) hb
    · rcases hb with hb | hb | hb | hb <;> exact byte (by omega) (by omega) hb

theorem forall_byte {P : UInt8 → Prop} (h : ∀ n < 0x100, P (UInt8.ofNat n)) (b : UInt8) : P b := by
  have := h b.toNat b.toNat_lt
  rwa [UInt8.ofNat_toNat] at this

/-- A test of bytes agrees with one of characters if they agree on ASCII and nothing past ASCII passes either. -/
theorem test_of_mem_encode {p : UInt8 → Bool} {q : Char → Bool}
    (hascii : ∀ n < 0x80, p (UInt8.ofNat n) = q (Char.ofNat n))
    (hp : ∀ b : UInt8, 0x80 ≤ b.toNat → p b = false) (hq : ∀ c : Char, 0x80 ≤ c.toNat → q c = false) {c : Char}
    {b : UInt8} (hb : b ∈ String.utf8EncodeChar c) : p b = q c := by
  rcases encode_cases c with ⟨hc, hbytes⟩ | ⟨hc, hbytes⟩
  · rw [hbytes, List.mem_singleton] at hb
    rw [hb, hascii _ hc, Char.ofNat_toNat]
  · rw [hp b (hbytes b hb), hq c hc]

/-! ## Boundaries -/

/-- A byte that can begin a character stands between two characters, as no character has one behind its first byte. -/
theorem exists_cut {s : Text} {i : Nat} {b : UInt8} (hb : (bytes s)[i]? = some b) (hfirst : b.IsUTF8FirstByte) :
    ∃ u v, s = u ++ v ∧ byteSize u = i := by
  induction s generalizing i with
  | nil => cases hb
  | cons c s ih =>
    rw [bytes_cons] at hb
    by_cases hi : i < (String.utf8EncodeChar c).length
    · rw [List.getElem?_append_left hi, List.getElem?_eq_getElem hi] at hb
      obtain rfl := Option.some.inj hb
      exact ⟨[], c :: s, rfl, (UInt8.isUTF8FirstByte_getElem_utf8EncodeChar.1 hfirst).symm⟩
    · have hle := Nat.le_of_not_lt hi
      rw [List.getElem?_append_right hle] at hb
      obtain ⟨u, v, rfl, hu⟩ := ih hb
      rw [String.length_utf8EncodeChar] at hle hu
      exact ⟨c :: u, v, rfl, by rw [byteSize, hu]; omega⟩

theorem isUTF8FirstByte_of_head {s : Text} {b : UInt8} (hb : (bytes s).head? = some b) : b.IsUTF8FirstByte := by
  cases s with
  | nil => cases hb
  | cons c s =>
    have hlen : 0 < (String.utf8EncodeChar c).length := by
      rw [String.length_utf8EncodeChar]
      exact c.utf8Size_pos
    rw [bytes_cons, List.head?_append_of_ne_nil _ (List.length_pos_iff.1 hlen), List.head?_eq_getElem?,
      List.getElem?_eq_getElem hlen] at hb
    obtain rfl := Option.some.inj hb
    exact UInt8.isUTF8FirstByte_getElem_utf8EncodeChar.2 rfl

/-- The encodings of characters are told apart from the first byte on, so bytes at the start are characters there. -/
theorem prefix_of_bytes {k s : Text} (h : bytes k <+: bytes s) : k <+: s := by
  obtain ⟨r, hr⟩ := h
  have hunits := congrArg (Utf8.units none) hr
  rw [Utf8.units_bytes, ← List.append_nil (bytes s), Utf8.units_bytes] at hunits
  have hprefix : k.map some <+: s.map some := by
    have hnil : Utf8.units none [] = [] := rfl
    rw [hnil, List.append_nil] at hunits
    exact ⟨_, hunits⟩
  exact (List.prefix_map_iff_of_injective fun _ _ => Option.some.inj).1 hprefix

/-! ## Letter case -/

/-- Bytes of the capitals `A` to `Z` become those of `a` to `z`; every other byte stays. -/
def lowerByte (b : UInt8) : UInt8 := if 0x41 ≤ b ∧ b ≤ 0x5A then b + 0x20 else b

theorem map_lowerByte_encode (c : Char) :
    (String.utf8EncodeChar c).map lowerByte = String.utf8EncodeChar c.toLower := by
  rcases encode_cases c with ⟨hc, hbytes⟩ | ⟨hc, hbytes⟩
  · have hascii : ∀ n < 0x80, [lowerByte (UInt8.ofNat n)] = String.utf8EncodeChar (Char.ofNat n).toLower := by
      decide +kernel
    rw [hbytes, List.map_singleton, hascii _ hc, Char.ofNat_toNat]
  · have hkept : ∀ b ∈ String.utf8EncodeChar c, lowerByte b = b := by
      intro b hb
      have hlow := hbytes b hb
      refine if_neg fun h => ?_
      have : b.toNat ≤ 0x5A := UInt8.le_iff_toNat_le.1 h.2
      omega
    have hsame : c.toLower = c := by
      unfold Char.toLower
      refine dif_neg fun h => ?_
      have : c.toNat ≤ 90 := UInt32.le_iff_toNat_le.1 h.2
      omega
    rw [hsame, List.map_congr_left hkept, List.map_id']

theorem map_lowerByte_bytes (s : Text) : (bytes s).map lowerByte = bytes (lower s) := by
  induction s with
  | nil => rfl
  | cons c s ih => rw [bytes_cons, List.map_append, map_lowerByte_encode, ih]; rfl

theorem isUTF8FirstByte_lowerByte (b : UInt8) : (lowerByte b).IsUTF8FirstByte ↔ b.IsUTF8FirstByte :=
  forall_byte (P := fun b => (lowerByte b).IsUTF8FirstByte ↔ b.IsUTF8FirstByte) (by decide +kernel) b

end SensorRegistry.Text
