/-
Reading query strings back. A query string is the join of its pieces, and each reader takes the pieces
one at a time: the form reader every piece that is not empty, the literal reader those that begin with
its name. So one piece more is seen only by the readers that it says something to.

Both decoders agree on written forms: a value decodes strictly exactly when it is the written form of a
text's bytes, and then the form decoder reads the same text.
-/
import SensorRegistry.QueryString
import SensorRegistry.Proofs.Text.Blank
import SensorRegistry.Proofs.Text.Percent
import SensorRegistry.Proofs.Text.Utf8

namespace SensorRegistry

theorem Text.not_mem_of_mem_splitOn {c : Char} {s part : Text} (h : part ∈ s.splitOn c) : c ∉ part := by
  induction s generalizing part with
  | nil =>
    rw [List.splitOn_nil, List.mem_singleton] at h
    simp [h]
  | cons d s ih =>
    rw [List.splitOn_cons_eq_if_modifyHead] at h
    by_cases hd : (d == c) = true
    · rw [if_pos hd] at h
      rcases List.mem_cons.1 h with rfl | h
      · exact List.not_mem_nil
      · exact ih h
    · rw [if_neg hd] at h
      -- the first part grows by a character that is no separator, the others stay
      cases hs : s.splitOn c with
      | nil => exact absurd hs (List.splitOn_ne_nil _ _)
      | cons first rest =>
        rw [hs] at h ih
        rcases List.mem_cons.1 h with rfl | h
        · rw [List.mem_cons, not_or]
          exact ⟨fun hc => hd (by simp [hc]), ih List.mem_cons_self⟩
        · exact ih (List.mem_cons_of_mem _ h)

namespace QueryString

/-! ## Values -/

theorem decodeValue?_eq_some_iff {raw value : Text} :
    decodeValue? raw = some value ↔ Text.Spells raw (Text.bytes value) := by
  rw [decodeValue?, Text.spells_iff]
  by_cases h : Text.escapesClosed raw = true
  · rw [if_pos h, Text.Utf8.decode?_eq_some_iff]
    exact ⟨fun hb => ⟨h, hb.symm⟩, fun hb => hb.2.symm⟩
  · rw [if_neg h]
    simp [h]

theorem formDecode_of_spells {raw value : Text} (h : Text.Spells raw (Text.bytes value)) : formDecode raw = value := by
  rw [formDecode, (Text.spells_iff.1 h).2, Text.Utf8.decode_bytes]

theorem pieces_join {ps : List Text} (hps : ∀ p ∈ ps, '&' ∉ p) (hne : ps ≠ []) : pieces (Text.join "&" ps) = ps :=
  List.splitOn_intercalate '&' hps hne

theorem cut_append {c : Char} {key : Text} (hkey : c ∉ key) (value : Text) :
    Text.cut c (key ++ c :: value) = some (key, value) := by
  induction key with
  | nil => exact if_pos rfl
  | cons d key ih =>
    rw [List.mem_cons, not_or] at hkey
    rw [List.cons_append, Text.cut, if_neg (Ne.symm hkey.1), ih hkey.2]
    rfl

/-- A piece is read around its first `=`. -/
theorem pair_append {key : Text} (hkey : '=' ∉ key) (value : Text) :
    pair (key ++ '=' :: value) = (formDecode key, formDecode value) := by
  rw [pair, cut_append hkey]

theorem pairs_join {ps : List Text} (hps : ∀ p ∈ ps, '&' ∉ p) (hempty : [] ∉ ps) (hne : ps ≠ []) :
    pairs (Text.join "&" ps) = ps.map pair := by
  have hkept : ps.filter (! ·.isEmpty) = ps := by
    rw [List.filter_eq_self]
    intro p hp
    cases p with
    | nil => exact absurd hp hempty
    | cons c p => rfl
  rw [pairs, pieces_join hps hne, hkept]

/-- A query string of one parameter gives it its value. -/
theorem first?_single {key raw : Text} (hkey : '=' ∉ key) (hamp : '&' ∉ key ++ '=' :: raw) :
    first? (formDecode key) (key ++ '=' :: raw) = some (formDecode raw) := by
  have hpairs : pairs (Text.join "&" [key ++ '=' :: raw]) = [key ++ '=' :: raw].map pair :=
    pairs_join (by simpa using hamp) (by simp) (List.cons_ne_nil _ _)
  rw [Text.join_singleton, List.map_singleton, pair_append hkey] at hpairs
  rw [first?, hpairs, List.lookup_cons, beq_self_eq_true]

/-- Every parameter can be given every value. -/
theorem exists_first? (name value : Text) : ∃ query, first? name query = some value := by
  have hequals : '=' ∉ Text.percentEncode .capital name := Text.not_mem_percentEncode (by decide) _ _
  have hamp : ∀ s, '&' ∉ Text.percentEncode .capital s := Text.not_mem_percentEncode (by decide) _
  have hpiece : '&' ∉ Text.percentEncode .capital name ++ '=' :: Text.percentEncode .capital value :=
    List.not_mem_append (hamp name) (by simp [hamp value])
  have hfirst := first?_single hequals hpiece
  rw [formDecode_of_spells (Text.spells_percentEncode .capital name),
    formDecode_of_spells (Text.spells_percentEncode .capital value)] at hfirst
  exact ⟨_, hfirst⟩

/-! ## Form pairs, piece by piece -/

/-- The decoded key of a piece; an empty piece has none. -/
def key? (piece : Text) : Option Text := if piece.isEmpty then none else some (pair piece).1

/-- The value that a piece gives a parameter. -/
def value? (key piece : Text) : Option Text := if key? piece = some key then some (pair piece).2 else none

/-- The form reader takes the first value that a piece gives. -/
theorem first?_eq_head? (key query : Text) : first? key query = ((pieces query).filterMap (value? key)).head? := by
  unfold first? pairs
  induction pieces query with
  | nil => rfl
  | cons piece ps ih =>
    cases piece with
    | nil => exact ih
    | cons c piece =>
      have hkey : key? (c :: piece) = some (pair (c :: piece)).1 := rfl
      rw [List.filter_cons_of_pos (by simp), List.map_cons, List.lookup_cons]
      by_cases h : (pair (c :: piece)).1 = key
      · rw [List.filterMap_cons_some (by rw [value?, hkey, h, if_pos rfl]), List.head?_cons, h, beq_self_eq_true]
      · have hforeign : (key == (pair (c :: piece)).1) = false := by simpa using Ne.symm h
        rw [List.filterMap_cons_none (by rw [value?, hkey, if_neg (by simpa using h)]), hforeign]
        exact ih

/-! ## One piece more -/

/-- The query string, or none, with the piece `p` behind its first `n` pieces. -/
def insertPiece (n : Nat) (p : Text) (query : Option Text) : Text :=
  let ps := query.elim [] pieces
  Text.join "&" (ps.take n ++ p :: ps.drop n)

section Insertion

variable {p : Text} (hp : '&' ∉ p) (n : Nat) (query : Option Text)
include hp

theorem pieces_insertPiece :
    pieces (insertPiece n p query) = (query.elim [] pieces).take n ++ p :: (query.elim [] pieces).drop n := by
  have hps : ∀ q ∈ query.elim [] pieces, '&' ∉ q := by
    cases query with
    | none => exact List.forall_mem_nil _
    | some query => exact fun q hq => Text.not_mem_of_mem_splitOn hq
  refine pieces_join (fun q hq => ?_) (by simp)
  rcases List.mem_append.1 hq with hq | hq
  · exact hps q (List.mem_of_mem_take hq)
  · rcases List.mem_cons.1 hq with rfl | hq
    · exact hp
    · exact hps q (List.mem_of_mem_drop hq)

/-- A reading of single pieces does not see one that says nothing to it. -/
theorem filterMap_insertPiece {α : Type} {g : Text → Option α} (hnil : g [] = none) (hg : g p = none) :
    (pieces (insertPiece n p query)).filterMap g = (pieces (query.getD [])).filterMap g := by
  have hread : (query.elim [] pieces).filterMap g = (pieces (query.getD [])).filterMap g := by
    cases query with
    | none => exact (List.filterMap_cons_none hnil).symm
    | some query => rfl
  rw [pieces_insertPiece hp, List.filterMap_append, List.filterMap_cons_none hg, ← List.filterMap_append,
    List.take_append_drop, hread]

theorem first?_insertPiece {key : Text} (hkey : key? p ≠ some key) :
    first? key (insertPiece n p query) = first? key (query.getD []) := by
  rw [first?_eq_head?, first?_eq_head?, filterMap_insertPiece hp n query rfl (if_neg hkey)]

theorem literals_insertPiece {name : Text} (hname : ¬ name ++ ['='] <+: p) :
    literals name (insertPiece n p query) = literals name (query.getD []) := by
  refine filterMap_insertPiece hp n query ?_ ?_
  · cases name <;> rfl
  · rw [← Option.not_isSome_iff_eq_none, List.isSome_isPrefixOf?_eq_isPrefixOf, List.isPrefixOf_iff_prefix]
    exact hname

end Insertion

/-! ## Literal parameters -/

/-- The texts behind `name=` are those of the pieces that begin so, one a piece and in order. -/
theorem map_literals (name query : Text) :
    (literals name query).map ((name ++ ['=']) ++ ·) = (pieces query).filter ((name ++ ['=']).isPrefixOf ·) := by
  unfold literals
  induction pieces query with
  | nil => rfl
  | cons piece ps ih =>
    have hsome := List.isSome_isPrefixOf?_eq_isPrefixOf (name ++ ['=']) piece
    cases hp : (name ++ ['=']).isPrefixOf? piece with
    | none =>
      rw [hp] at hsome
      rw [List.filterMap_cons_none hp, ih, List.filter_cons_of_neg (by simp [← hsome])]
    | some raw =>
      rw [hp] at hsome
      obtain rfl := List.isPrefixOf?_eq_some_iff_append_eq.1 hp
      rw [List.filterMap_cons_some hp, List.map_cons, ih, List.filter_cons_of_pos hsome.symm]

end QueryString

end SensorRegistry
