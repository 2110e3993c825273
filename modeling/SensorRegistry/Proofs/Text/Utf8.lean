/-
Decoding undoes encoding. The bytes of a text read back as that text, strictly and forgivingly, and
the strict reading accepts nothing else: bytes that decode are the bytes of what they decode to.

A character past ASCII is a lead byte and the bytes that complete it. Both directions go through this
relation: the decoder follows it byte by byte, and arithmetic on code points says that the encoder
writes nothing else.
-/
import SensorRegistry.Text.Utf8
import Mathlib.Data.List.Basic
import Mathlib.Tactic.SplitIfs

namespace SensorRegistry.Text

theorem bytes_cons (c : Char) (s : Text) : bytes (c :: s) = String.utf8EncodeChar c ++ bytes s := rfl

namespace Utf8

/-! ## Leads -/

/-- What a lead byte announces: the number of bytes and, for the second of them, a range that leaves out
overlong forms, surrogates and numbers past the last code point. -/
inductive Announces (b : Nat) (p : Lead) : Prop
  | two : p.more = 1 → b = p.bits + 0xC0 → 2 ≤ p.bits → p.bits < 0x20 →
    (∀ x, p.low ≤ x ∧ x ≤ p.high ↔ 0x80 ≤ x ∧ x ≤ 0xBF) → Announces b p
  | three : p.more = 2 → b = p.bits + 0xE0 → p.bits < 0x10 →
    (∀ x, p.low ≤ x ∧ x ≤ p.high ↔ (0x80 ≤ x ∧ x ≤ 0xBF) ∧ 0x20 ≤ p.bits * 64 + (x - 0x80) ∧
      (p.bits * 64 + (x - 0x80) < 0x360 ∨ 0x380 ≤ p.bits * 64 + (x - 0x80))) → Announces b p
  | four : p.more = 3 → b = p.bits + 0xF0 → p.bits < 5 →
    (∀ x, p.low ≤ x ∧ x ≤ p.high ↔ (0x80 ≤ x ∧ x ≤ 0xBF) ∧ 0x10 ≤ p.bits * 64 + (x - 0x80) ∧
      p.bits * 64 + (x - 0x80) < 0x110) → Announces b p

theorem announces_of_lead? {b : Nat} {p : Lead} (h : lead? b = some p) : Announces b p := by
  unfold lead? at h
  by_cases h1 : b < 0xC2
  · rw [if_pos h1] at h; cases h
  rw [if_neg h1] at h
  by_cases h2 : b < 0xE0
  · rw [if_pos h2] at h
    obtain rfl := Option.some.inj h
    exact .two rfl (by dsimp only; omega) (by dsimp only; omega) (by dsimp only; omega) fun x => Iff.rfl
  rw [if_neg h2] at h
  by_cases h3 : b < 0xF0
  · rw [if_pos h3] at h
    obtain rfl := Option.some.inj h
    refine .three rfl (by dsimp only; omega) (by dsimp only; omega) fun x => ?_
    dsimp only
    split_ifs <;> omega
  rw [if_neg h3] at h
  by_cases h4 : b < 0xF5
  · rw [if_pos h4] at h
    obtain rfl := Option.some.inj h
    refine .four rfl (by dsimp only; omega) (by dsimp only; omega) fun x => ?_
    dsimp only
    split_ifs <;> omega
  · rw [if_neg h4] at h; cases h

theorem exists_lead {b : Nat} (h : 0xC2 ≤ b) (h' : b < 0xF5) : ∃ p, lead? b = some p := by
  unfold lead?
  rw [if_neg (by omega)]
  by_cases h1 : b < 0xE0
  · exact ⟨_, if_pos h1⟩
  · rw [if_neg h1]
    by_cases h2 : b < 0xF0
    · exact ⟨_, if_pos h2⟩
    · exact ⟨_, (if_neg h2).trans (if_pos h')⟩

theorem le_of_lead? {b : Nat} {p : Lead} (h : lead? b = some p) : 0x80 ≤ b := by
  cases announces_of_lead? h <;> omega

/-! ## Characters past ASCII -/

/-- The bytes complete an unfinished character to `c`. -/
def Completes : Lead → List UInt8 → Char → Prop
  | _, [], _ => False
  | p, b :: bs, c => (p.low ≤ b.toNat ∧ b.toNat ≤ p.high) ∧
    if p.more ≤ 1 then bs = [] ∧ c = Char.ofNat (p.bits * 64 + (b.toNat - 0x80))
    else Completes ⟨p.more - 1, p.bits * 64 + (b.toNat - 0x80), 0x80, 0xBF⟩ bs c

theorem val_ofNat {n : Nat} (h : n.isValidChar) : (Char.ofNat n).val.toNat = n := by
  rw [Char.ofNat, dif_pos h]
  rfl

theorem toNat_byte {n : Nat} (h : n < 256) : (UInt8.ofNat n).toNat = n :=
  UInt8.toNat_ofNat'.trans (Nat.mod_eq_of_lt h)

theorem byte_eq {n : Nat} {b : UInt8} (h : n = b.toNat) : UInt8.ofNat n = b := by
  rw [h, UInt8.ofNat_toNat]

/-- A lead byte and the bytes that complete it are the encoding of the character. -/
theorem encode_of_completes {b : UInt8} {p : Lead} {bs : List UInt8} {c : Char} (hp : lead? b.toNat = some p)
    (h : Completes p bs c) : String.utf8EncodeChar c = b :: bs := by
  cases announces_of_lead? hp with
  | two hmore hb hlo hhi hrange =>
    match bs, h with
    | x :: bs, h =>
      rw [Completes, if_pos (by omega), hrange] at h
      obtain ⟨hx, rfl, hc⟩ := h
      have hval := val_ofNat (n := p.bits * 64 + (x.toNat - 0x80)) (by unfold Nat.isValidChar; omega)
      rw [hc, String.utf8EncodeChar, hval]
      rw [if_neg (by omega), if_pos (by omega), byte_eq (b := b) (by omega), byte_eq (b := x) (by omega)]
  | three hmore hb hhi hrange =>
    match bs, h with
    | x :: bs, h =>
      rw [Completes, if_neg (by omega), hrange] at h
      obtain ⟨hx, h⟩ := h
      match bs, h with
      | y :: bs, h =>
        rw [Completes, if_pos (by dsimp only; omega)] at h
        obtain ⟨hy, rfl, hc⟩ := h
        dsimp only at hy hc
        have hval := val_ofNat (n := (p.bits * 64 + (x.toNat - 0x80)) * 64 + (y.toNat - 0x80))
          (by unfold Nat.isValidChar; omega)
        rw [hc, String.utf8EncodeChar, hval]
        rw [if_neg (by omega), if_neg (by omega), if_pos (by omega), byte_eq (b := b) (by omega),
          byte_eq (b := x) (by omega), byte_eq (b := y) (by omega)]
  | four hmore hb hhi hrange =>
    match bs, h with
    | x :: bs, h =>
      rw [Completes, if_neg (by omega), hrange] at h
      obtain ⟨hx, h⟩ := h
      match bs, h with
      | y :: bs, h =>
        rw [Completes, if_neg (by dsimp only; omega)] at h
        obtain ⟨hy, h⟩ := h
        match bs, h with
        | z :: bs, h =>
          rw [Completes, if_pos (by dsimp only; omega)] at h
          obtain ⟨hz, rfl, hc⟩ := h
          dsimp only at hy hz hc
          have hval := val_ofNat
            (n := ((p.bits * 64 + (x.toNat - 0x80)) * 64 + (y.toNat - 0x80)) * 64 + (z.toNat - 0x80))
            (by unfold Nat.isValidChar; omega)
          rw [hc, String.utf8EncodeChar, hval]
          rw [if_neg (by omega), if_neg (by omega), if_neg (by omega), byte_eq (b := b) (by omega),
            byte_eq (b := x) (by omega), byte_eq (b := y) (by omega), byte_eq (b := z) (by omega)]

/-- The encoding of a character past ASCII is a lead byte and bytes that complete it. -/
theorem exists_completes {c : Char} (h : 0x80 ≤ c.val.toNat) :
    ∃ b p bs, String.utf8EncodeChar c = b :: bs ∧ lead? b.toNat = some p ∧ Completes p bs c := by
  have hvalid : c.val.toNat.isValidChar := c.valid
  have hc : c = Char.ofNat c.val.toNat := (Char.ofNat_toNat c).symm
  rw [String.utf8EncodeChar, if_neg (by omega)]
  generalize c.val.toNat = n at h hvalid hc
  unfold Nat.isValidChar at hvalid
  by_cases h2 : n ≤ 0x7FF
  · have hb := toNat_byte (n := n / 64 % 32 + 192) (by omega)
    have hx := toNat_byte (n := n % 64 + 128) (by omega)
    obtain ⟨p, hp⟩ := exists_lead (b := n / 64 % 32 + 192) (by omega) (by omega)
    refine ⟨_, p, _, if_pos h2, hb.symm ▸ hp, ?_⟩
    cases announces_of_lead? hp with
    | three _ hbits | four _ hbits => omega
    | two hmore hbits _ _ hrange =>
      rw [Completes, if_pos (by omega), hrange, hx]
      exact ⟨by omega, rfl, hc.trans (congrArg Char.ofNat (by omega))⟩
  rw [if_neg h2]
  by_cases h3 : n ≤ 0xFFFF
  · have hb := toNat_byte (n := n / 4096 % 16 + 224) (by omega)
    have hx := toNat_byte (n := n / 64 % 64 + 128) (by omega)
    have hy := toNat_byte (n := n % 64 + 128) (by omega)
    obtain ⟨p, hp⟩ := exists_lead (b := n / 4096 % 16 + 224) (by omega) (by omega)
    refine ⟨_, p, _, if_pos h3, hb.symm ▸ hp, ?_⟩
    cases announces_of_lead? hp with
    | two _ hbits | four _ hbits => omega
    | three hmore hbits _ hrange =>
      rw [Completes, if_neg (by omega), hrange, hx, Completes, if_pos (by dsimp only; omega), hy]
      refine ⟨by omega, ?_, rfl, hc.trans (congrArg Char.ofNat ?_)⟩ <;> dsimp only <;> omega
  · have hb := toNat_byte (n := n / 262144 % 8 + 240) (by omega)
    have hx := toNat_byte (n := n / 4096 % 64 + 128) (by omega)
    have hy := toNat_byte (n := n / 64 % 64 + 128) (by omega)
    have hz := toNat_byte (n := n % 64 + 128) (by omega)
    obtain ⟨p, hp⟩ := exists_lead (b := n / 262144 % 8 + 240) (by omega) (by omega)
    refine ⟨_, p, _, if_neg h3, hb.symm ▸ hp, ?_⟩
    cases announces_of_lead? hp with
    | two _ hbits | three _ hbits => omega
    | four hmore hbits _ hrange =>
      rw [Completes, if_neg (by omega), hrange, hx, Completes, if_neg (by dsimp only; omega), hy,
        Completes, if_pos (by dsimp only; omega), hz]
      refine ⟨by omega, ?_, ?_, rfl, hc.trans (congrArg Char.ofNat ?_)⟩ <;> dsimp only <;> omega

/-! ## Cutting bytes into characters -/

theorem units_of_completes {p : Lead} {bs : List UInt8} {c : Char} (h : Completes p bs c) (rest : List UInt8) :
    units (some p) (bs ++ rest) = some c :: units none rest := by
  induction bs generalizing p with
  | nil => cases h
  | cons b bs ih =>
    rw [Completes] at h
    obtain ⟨hrange, h⟩ := h
    rw [List.cons_append, units, step, if_pos hrange]
    by_cases hmore : p.more ≤ 1
    · rw [if_pos hmore] at h
      obtain ⟨rfl, hc⟩ := h
      dsimp only
      rw [if_pos hmore, hc]
      rfl
    · rw [if_neg hmore] at h
      dsimp only
      rw [if_neg hmore]
      exact ih h

theorem start_of_lead? {b : UInt8} {p : Lead} (h : lead? b.toNat = some p) : start b = ([], some p) := by
  have := le_of_lead? h
  rw [start, if_neg (by omega), h]

theorem units_encode (c : Char) (rest : List UInt8) :
    units none (String.utf8EncodeChar c ++ rest) = some c :: units none rest := by
  by_cases h : 0x80 ≤ c.val.toNat
  · obtain ⟨b, p, bs, hbs, hp, hc⟩ := exists_completes h
    rw [hbs, List.cons_append, units, step, start_of_lead? hp]
    exact units_of_completes hc rest
  · have hb := toNat_byte (n := c.val.toNat) (by omega)
    rw [String.utf8EncodeChar, if_pos (by omega), List.singleton_append, units, step, start, if_pos (by omega), hb]
    exact congrArg (some · :: units none rest) (Char.ofNat_toNat c)

/-- The bytes of a text are cut into its characters, whatever follows. -/
theorem units_bytes (s : Text) (rest : List UInt8) : units none (bytes s ++ rest) = s.map some ++ units none rest := by
  induction s with
  | nil => rfl
  | cons c s ih => rw [bytes_cons, List.append_assoc, units_encode, ih]; rfl

theorem exists_completes_of_units {p : Lead} {bs : List UInt8} (h : none ∉ units (some p) bs) :
    ∃ cs rest c, bs = cs ++ rest ∧ Completes p cs c := by
  induction bs generalizing p with
  | nil => exact absurd (List.mem_singleton.2 rfl) h
  | cons b bs ih =>
    rw [units, step] at h
    by_cases hrange : p.low ≤ b.toNat ∧ b.toNat ≤ p.high
    · rw [if_pos hrange] at h
      dsimp only at h
      by_cases hmore : p.more ≤ 1
      · refine ⟨[b], bs, Char.ofNat (p.bits * 64 + (b.toNat - 0x80)), rfl, ?_⟩
        rw [Completes, if_pos hmore]
        exact ⟨hrange, rfl, rfl⟩
      · rw [if_neg hmore] at h
        obtain ⟨cs, rest, c, rfl, hc⟩ := ih h
        refine ⟨b :: cs, rest, c, rfl, ?_⟩
        rw [Completes, if_neg hmore]
        exact ⟨hrange, hc⟩
    · rw [if_neg hrange] at h
      exact absurd (by simp) h

/-- Bytes without faults begin with a character. -/
theorem exists_encode_of_units {b : UInt8} {bs : List UInt8} (h : none ∉ units none (b :: bs)) :
    ∃ c rest, b :: bs = String.utf8EncodeChar c ++ rest := by
  by_cases hb : b.toNat < 0x80
  · have hval := val_ofNat (n := b.toNat) (by unfold Nat.isValidChar; omega)
    refine ⟨Char.ofNat b.toNat, bs, ?_⟩
    rw [String.utf8EncodeChar, hval, if_pos (by omega), UInt8.ofNat_toNat]
    rfl
  · cases hp : lead? b.toNat with
    | none =>
      rw [units, step, start, if_neg hb, hp] at h
      exact absurd (by simp) h
    | some p =>
      rw [units, step, start_of_lead? hp] at h
      obtain ⟨cs, rest, c, rfl, hc⟩ := exists_completes_of_units h
      exact ⟨c, rest, by rw [encode_of_completes hp hc]; rfl⟩

theorem bytes_of_units {bs : List UInt8} {s : Text} (h : units none bs = s.map some) : bytes s = bs := by
  have hfault : none ∉ units none bs := by
    rw [h]
    simp
  induction s generalizing bs with
  | nil =>
    cases bs with
    | nil => rfl
    | cons b bs =>
      obtain ⟨c, rest, hbs⟩ := exists_encode_of_units hfault
      rw [hbs, units_encode] at h
      cases h
  | cons c s ih =>
    cases bs with
    | nil => cases h
    | cons b bs =>
      obtain ⟨c', rest, hbs⟩ := exists_encode_of_units hfault
      rw [hbs, units_encode, List.map_cons] at h
      rw [hbs, units_encode] at hfault
      obtain ⟨hc, hrest⟩ := List.cons.inj h
      obtain rfl := Option.some.inj hc
      rw [bytes_cons, ih hrest fun hmem => hfault (List.mem_cons_of_mem _ hmem), hbs]

/-! ## Decoding -/

theorem mapM_id_eq_some_iff {α : Type} {us : List (Option α)} {s : List α} : us.mapM id = some s ↔ us = s.map some := by
  induction us generalizing s with
  | nil => cases s <;> simp
  | cons u us ih =>
    rw [List.mapM_cons]
    cases u with
    | none => cases s <;> simp
    | some a => cases s <;> simp [Option.bind_eq_some_iff, ih, and_comm]

/-- Bytes decode to a text exactly when they are its bytes. -/
theorem decode?_eq_some_iff {bs : List UInt8} {s : Text} : decode? bs = some s ↔ bytes s = bs := by
  rw [decode?, mapM_id_eq_some_iff]
  refine ⟨bytes_of_units, ?_⟩
  rintro rfl
  have := units_bytes s []
  rwa [List.append_nil, units, if_neg (by simp), List.append_nil] at this

theorem decode_bytes (s : Text) : decode (bytes s) = s := by
  have := units_bytes s []
  rw [List.append_nil, units, if_neg (by simp), List.append_nil] at this
  rw [decode, this, List.map_map]
  exact List.map_id s

end Utf8

end SensorRegistry.Text
