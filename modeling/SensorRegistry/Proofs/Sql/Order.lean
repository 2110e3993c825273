/-
The leading key of a statement's order. A new key takes the place of the leading one, or stands where the clause
belongs, and in either case the statement goes on behind it as it did before. How a statement goes on says where the
key in front of it ends, whatever that key says: so the cuts around a key are found again in the new statement, and of
two orders the last one stays.
-/
import SensorRegistry.Proofs.Sql.Table

namespace SensorRegistry.Sql

/-! ## A clause behind another text -/

/-- A stretch that begins apart from any word is clear of a keyword behind every text of one nesting. -/
theorem Clear.behind {keyword b b' x t : Text} (h : Clear keyword b x t) (hk : keyword ≠ [])
    (hb : Nesting.outer.after b = Nesting.outer.after b') (hx : ∀ c ∈ x.head?, isIdentifierChar c = false) :
    Clear keyword b' x t := by
  rintro u v rfl hv hab
  refine h u v rfl hv ⟨?_, hab.head, ?_⟩
  · rw [Nesting.after_append, hb, ← Nesting.after_append]
    exact hab.top
  · cases u with
    | cons c u =>
      have hword := hab.word
      rw [List.getLast?_append_of_ne_nil _ (List.cons_ne_nil c u)] at hword ⊢
      exact hword
    | nil =>
      obtain ⟨k, r, hs, hlow, -, hright⟩ := startsWithKeyword_iff.1 hab.word
      refine startsWithKeyword_iff.2 ⟨k, r, hs, hlow, ?_, hright⟩
      -- the keyword would begin with the first character of the stretch
      have hfirst : v.head? = k.head? := by
        have hkv := congrArg List.head? hs
        rwa [List.head?_append_of_ne_nil _ hv, List.head?_append_of_ne_nil _ (Text.ne_nil_of_lower_eq hlow hk)] at hkv
      rw [← isBreak_of_map_eq (head_of_lower_eq isIdentifierChar_toLower hlow), ← hfirst, isBreak_comm]
      cases hc : v.head? with
      | none => exact isBreak_nil _
      | some c => exact isBreak_of_separator (hx c (by simpa using hc)) _

/-- What stands behind a part of a clause is a clause behind that part. -/
theorem ClauseCut.rest {terminators : List Text} {b m m' t : Text} (h : ClauseCut terminators b (m ++ m') t) :
    ClauseCut terminators (b ++ m) m' t := by
  have hassoc : b ++ (m ++ m') = b ++ m ++ m' := (List.append_assoc b m m').symm
  cases h with
  | terminated hk hab hclear =>
    exact .terminated hk (hassoc ▸ hab) fun k hk => (clear_append_iff.1 (hclear k hk)).2
  | ended hclear hbody =>
    refine .ended (fun k hk => ?_) (hassoc ▸ hbody)
    have hall := hclear k hk
    rw [List.append_assoc] at hall
    exact (clear_append_iff.1 hall).2

/-- A text that is clear of the terminators in front of a clause belongs to the clause. -/
theorem ClauseCut.extend {terminators : List Text} {b m m' t : Text} (h : ClauseCut terminators (b ++ m) m' t)
    (hm : m' ≠ []) (hclear : ∀ k ∈ terminators, ∀ t, t.head? = m'.head? → Clear k b m t) :
    ClauseCut terminators b (m ++ m') t := by
  have hhead : ∀ t, (m' ++ t).head? = m'.head? := fun t => List.head?_append_of_ne_nil _ hm
  have hassoc : b ++ (m ++ m') = b ++ m ++ m' := (List.append_assoc b m m').symm
  cases h with
  | terminated hk hab hclear' =>
    exact .terminated hk (hassoc ▸ hab) fun k hk => clear_append_iff.2 ⟨hclear k hk _ (hhead t), hclear' k hk⟩
  | ended hclear' hbody =>
    refine .ended (fun k hk => ?_) (hassoc ▸ hbody)
    rw [List.append_assoc]
    exact clear_append_iff.2 ⟨hclear k hk _ (by rw [List.append_nil]; exact hhead t), hclear' k hk⟩

/-- Where a body ends depends on the end of what is in front of the cut. -/
theorem body_behind {a a' v u : Text} (hv : v ≠ []) (h : body (a ++ v ++ u) = a ++ v) :
    body (a' ++ v ++ u) = a' ++ v := by
  obtain ⟨htrailing, hlast⟩ := trailing_of_body h
  have hsame : (a ++ v).getLast? = (a' ++ v).getLast? := by
    rw [List.getLast?_append_of_ne_nil _ hv, List.getLast?_append_of_ne_nil _ hv]
  refine body_of_trailing (hsame ▸ hlast) ?_
  cases htrailing with
  | blank hu hsemi => exact .blank hu (hsame ▸ hsemi)
  | semicolon hx hy => exact .semicolon hx hy

/-- A clause that begins with a separator is one behind every text at top level. -/
theorem ClauseCut.behind {terminators : List Text} {a a' v u : Text} (h : ClauseCut terminators a v u) (hv : v ≠ [])
    (hhead : ∀ c ∈ v.head?, isIdentifierChar c = false) (hk : ∀ k ∈ terminators, k ≠ [])
    (ha : Nesting.outer.after a = Nesting.outer.after a') : ClauseCut terminators a' v u := by
  cases h with
  | terminated hmem hab hclear =>
    refine .terminated hmem ⟨?_, hab.head, ?_⟩ fun k hmem => (hclear k hmem).behind (hk k hmem) ha hhead
    · rw [Nesting.after_append, ← ha, ← Nesting.after_append]
      exact hab.top
    · have hword := hab.word
      rwa [List.getLast?_append_of_ne_nil _ hv] at hword ⊢
  | ended hclear hbody =>
    refine .ended (fun k hmem => (hclear k hmem).behind (hk k hmem) ha ?_) (body_behind hv hbody)
    rwa [List.head?_append_of_ne_nil _ hv]

/-- A statement has one clause behind a text. -/
theorem ClauseCut.unique {terminators : List Text} {b m m' t t' : Text} (h : ClauseCut terminators b m t)
    (h' : ClauseCut terminators b m' t') (hs : m ++ t = m' ++ t') : m = m' ∧ t = t' := by
  have hend := h.clauseEnd
  rw [List.append_assoc, hs, ← List.append_assoc, h'.clauseEnd, Text.byteSize_append, Text.byteSize_append] at hend
  obtain ⟨x, rfl, rfl⟩ := Text.cut_le hs (by omega)
  have hx : x = [] := Text.byteSize_eq_zero (by rw [Text.byteSize_append] at hend; omega)
  rw [hx, List.append_nil]
  exact ⟨rfl, rfl⟩

/-! ## The leading key -/

/-- `key` is the leading key of the order of the statement `b ++ key ++ t`: `b` ends with the first ORDER BY at top
level, and the key runs up to the first comma of the order, or else to the end of the order. -/
structure LeadingKey (b key t : Text) : Prop where
  opens : Opens "ORDER BY".toList b (key ++ t)
  cut : KeyCut b key t

theorem LeadingKey.span {b key t : Text} (h : LeadingKey b key t) :
    leadingKeySpan? (b ++ key ++ t) = some ⟨Text.byteSize b, Text.byteSize (b ++ key)⟩ := by
  obtain ⟨pos, hpos, hb⟩ := h.opens.find
  have hstart : pos + "ORDER BY".length = Text.byteSize b := hb
  unfold leadingKeySpan?
  rw [List.append_assoc, hpos, Option.map_some]
  simp only [hstart]
  cases h.cut with
  | @comma m u hs hcut hlt hab hclear =>
    have hstop := hcut.clauseEnd
    rw [List.append_assoc, ← hs] at hstop
    have hcomma := findTopLevel_behind.2 ⟨key, t, rfl, rfl, hab, hclear⟩
    have hlt' : Text.byteSize (b ++ key) < Text.byteSize (b ++ m) := by
      rw [Text.byteSize_append, Text.byteSize_append]
      omega
    rw [hstop, hcomma]
    simp [Option.filter, hlt']
  | clause hcut hclear =>
    have hstop := hcut.clauseEnd
    rw [List.append_assoc] at hstop
    rw [hstop]
    cases hcomma : findTopLevel (b ++ (key ++ t)) [','] (Text.byteSize b) with
    | none => rfl
    | some q =>
      -- the first comma comes behind the clause
      obtain ⟨m, u, hs, rfl, hab, -⟩ := findTopLevel_behind.1 hcomma
      have hle : ¬ Text.byteSize (b ++ m) < Text.byteSize (b ++ key) := by
        intro hlt
        rw [Text.byteSize_append, Text.byteSize_append] at hlt
        obtain ⟨v, rfl, rfl⟩ := Text.cut_le hs.symm (by omega)
        refine hclear m v rfl ?_ hab
        rintro rfl
        rw [List.append_nil] at hlt
        omega
      simp [Option.filter, hle]

theorem LeadingKey.front {b key t : Text} (h : LeadingKey b key t) : Nesting.outer.after b = .outer ∧ Solid b :=
  ⟨h.opens.top (by decide), h.opens.solid ⟨'Y', rfl, by decide, by decide⟩⟩

/-! ## Keys over one column -/

/-- A text in which an order neither ends nor goes on to another key. -/
structure SingleKey (key : Text) : Prop where
  joinable : Joinable key
  undelimited : Undelimited key
  comma : ',' ∉ key
  semicolon : key.getLast? ≠ some ';'
  wordless : ∀ k ∈ orderTerminators, ∀ w ∈ identifiers key, Text.lower w ≠ Text.lower k

theorem orderTerminator_word {k : Text} (hk : k ∈ orderTerminators) :
    k.head?.any isIdentifierChar = true ∧ k.takeWhile isIdentifierChar = k ∧ k ≠ [] := by
  revert k
  decide

/-- A single key behind a space is clear of what ends an order. -/
theorem SingleKey.clear {key k : Text} (h : SingleKey key) (hk : k ∈ orderTerminators) (b : Text) {t : Text}
    (ht : isBreak key.getLast? t.head? = true) : Clear k b (' ' :: key) t := by
  obtain ⟨hfirst, hword, -⟩ := orderTerminator_word hk
  refine clear_of_identifiers hfirst (fun w hw => ?_) ?_
  · rw [hword]
    rw [← List.nil_append (' ' :: key), identifiers_append (by decide)] at hw
    rcases List.mem_append.1 hw with hw | hw
    · rw [List.mem_singleton.1 hw]
      intro hnil
      exact (orderTerminator_word hk).2.2 (List.map_eq_nil_iff.1 hnil.symm)
    · exact h.wordless k hk w hw
  · rwa [← List.singleton_append, List.getLast?_append_of_ne_nil _ h.joinable.ne_nil]

section

variable {b key : Text} (hk : SingleKey key)
include hk

end

theorem SingleKey.trim_surrounded {key e : Text} (h : SingleKey key) (he : Text.AllBlank e) :
    Text.trim (' ' :: key ++ e) = key := by
  have hspace : Text.AllBlank [' '] := by decide
  exact (Text.trim_blank hspace he key).trans h.joinable.trim_eq

/-- A new key in the place of the leading one. -/
theorem LeadingKey.insertOrder_eq {b lead t key : Text} (h : LeadingKey b lead t)
    (hb : Text.Trimmed b) (hk : Joinable key) :
    insertOrder (b ++ lead ++ t) key = b ++ ' ' :: key ++ behind (Text.trim t) := by
  rw [insertOrder_key h.span hk.ne_nil]
  exact joinParts_insert hb h.front.2.ne_nil hk t

end SensorRegistry.Sql
