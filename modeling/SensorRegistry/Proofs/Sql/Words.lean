/-
Keywords by words. A keyword stands only where a whole identifier of the text spells its first word,
so a stretch whose identifiers are other words is clear of it. What stands around a stretch matters
through the characters next to it alone: where those part words, the search reads the stretch alike
in any two places.
-/
import SensorRegistry.Proofs.Sql.Clause

namespace SensorRegistry.Sql

/-! ## Identifiers -/

/-- The maximal runs of identifier characters, with an empty one between neighbouring separators. -/
def identifiers (s : Text) : List Text := s.splitOnP (! isIdentifierChar ·)

theorem identifiers_append {c : Char} (hc : isIdentifierChar c = false) (a b : Text) :
    identifiers (a ++ c :: b) = identifiers a ++ identifiers b :=
  List.splitOnP_append_cons a b (by simp [hc])

theorem identifiers_of_word {w : Text} (hw : ∀ c ∈ w, isIdentifierChar c = true) : identifiers w = [w] :=
  List.splitOnP_eq_singleton fun c hc => by simp [hw c hc]

/-- A run of identifier characters that no identifier character touches is an identifier. -/
theorem mem_identifiers {a w b : Text} (ha : ∀ c ∈ a.getLast?, isIdentifierChar c = false)
    (hw : ∀ c ∈ w, isIdentifierChar c = true) (hb : ∀ c ∈ b.head?, isIdentifierChar c = false) :
    w ∈ identifiers (a ++ (w ++ b)) := by
  have hwb : w ∈ identifiers (w ++ b) := by
    cases b with
    | nil => rw [List.append_nil, identifiers_of_word hw]; exact List.mem_singleton_self w
    | cons c b =>
      rw [identifiers_append (hb c rfl), identifiers_of_word hw]
      exact List.mem_append_left _ (List.mem_singleton_self w)
  rcases List.eq_nil_or_concat a with rfl | ⟨a', c, rfl⟩
  · exact hwb
  · rw [List.concat_eq_append, List.append_assoc, List.singleton_append,
      identifiers_append (ha c (by rw [List.concat_eq_append, List.getLast?_concat]; rfl))]
    exact List.mem_append_right _ hwb

/-- An identifier of a text is a run of identifier characters that no identifier character touches. -/
theorem exists_of_mem_identifiers {s w : Text} (h : w ∈ identifiers s) :
    (∀ c ∈ w, isIdentifierChar c = true) ∧ ∃ a b, s = a ++ (w ++ b) ∧
      (∀ c ∈ a.getLast?, isIdentifierChar c = false) ∧ ∀ c ∈ b.head?, isIdentifierChar c = false := by
  induction hlen : s.length using Nat.strong_induction_on generalizing s with
  | _ n ih =>
    have hfirst : ∀ c ∈ s.takeWhile isIdentifierChar, isIdentifierChar c = true := fun c hc => List.mem_takeWhile_imp hc
    have hs : s = s.takeWhile isIdentifierChar ++ s.dropWhile isIdentifierChar := List.takeWhile_append_dropWhile.symm
    cases hrest : s.dropWhile isIdentifierChar with
    | nil =>
      rw [hrest, List.append_nil] at hs
      rw [← hs] at hfirst
      rw [identifiers_of_word hfirst, List.mem_singleton] at h
      subst h
      exact ⟨hfirst, [], [], by simp, by simp, by simp⟩
    | cons c rest =>
      have hc : isIdentifierChar c = false := by
        have hhead := List.head?_dropWhile_not isIdentifierChar s
        rw [hrest] at hhead
        simpa using hhead
      rw [hrest] at hs
      rw [hs, identifiers_append hc, identifiers_of_word hfirst] at h
      rcases List.mem_append.1 h with h | h
      · rw [List.mem_singleton.1 h]
        exact ⟨hfirst, [], c :: rest, hs, by simp, by rintro d ⟨⟩; exact hc⟩
      · -- the identifier stands behind the first separator, in a shorter text
        have hshort : rest.length < n := by
          rw [← hlen, hs, List.length_append, List.length_cons]; omega
        obtain ⟨hw, a, b, rfl, ha, hb⟩ := ih rest.length hshort h rfl
        refine ⟨hw, s.takeWhile isIdentifierChar ++ c :: a, b, by simpa using hs, ?_, hb⟩
        rw [List.getLast?_append_of_ne_nil _ (List.cons_ne_nil c a)]
        cases a with
        | nil => rintro d ⟨⟩; exact hc
        | cons d a => rwa [List.getLast?_cons_cons]

/-- The identifier at the start of a text ends where the text has a break. -/
theorem takeWhile_of_isBreak {a b : Text} (ha : a ≠ []) (h : isBreak a.getLast? b.head? = true) :
    (a ++ b).takeWhile isIdentifierChar = a.takeWhile isIdentifierChar := by
  rw [List.takeWhile_append]
  split
  · rename_i hlen
    have hall : ∀ c ∈ a, isIdentifierChar c = true :=
      List.takeWhile_eq_self_iff.1 ((List.takeWhile_prefix _).eq_of_length hlen)
    have hlast : a.getLast?.any isIdentifierChar = true := by
      rw [List.getLast?_eq_some_getLast ha]
      exact hall _ (List.getLast_mem ha)
    have hstop := not_isIdentifierChar_of_isBreak hlast h
    have hb : b.takeWhile isIdentifierChar = [] := by
      cases b with
      | nil => rfl
      | cons c b => exact List.takeWhile_cons_of_neg (by simp [hstop c rfl])
    rw [hb, List.append_nil, (List.takeWhile_prefix _).eq_of_length hlen]
  · rfl

theorem lower_takeWhile (s : Text) :
    Text.lower (s.takeWhile isIdentifierChar) = (Text.lower s).takeWhile isIdentifierChar := by
  have hf : isIdentifierChar ∘ Char.toLower = isIdentifierChar := funext isIdentifierChar_toLower
  rw [Text.lower, Text.lower, List.takeWhile_map, hf]

/-- A stretch is clear of a keyword whose first word is none of its identifiers, ignoring case. -/
theorem clear_of_identifiers {keyword b x t : Text} (hk : keyword.head?.any isIdentifierChar = true)
    (hx : ∀ w ∈ identifiers x, Text.lower w ≠ Text.lower (keyword.takeWhile isIdentifierChar))
    (ht : isBreak x.getLast? t.head? = true) : Clear keyword b x t := by
  rintro u v rfl hv hab
  obtain ⟨k, r, hs, hlow, hleft, hright⟩ := startsWithKeyword_iff.1 hab.word
  have hk0 : k ≠ [] := Text.ne_nil_of_lower_eq hlow (by rintro rfl; cases hk)
  -- the word at the cut ends before `t` on the one side and with the keyword's first word on the other
  have hfirst : v.takeWhile isIdentifierChar = k.takeWhile isIdentifierChar := by
    rw [List.getLast?_append_of_ne_nil _ hv] at ht
    rw [← isBreak_of_map_eq (getLast_of_lower_eq isIdentifierChar_toLower hlow)] at hright
    rw [← takeWhile_of_isBreak hv ht, hs, takeWhile_of_isBreak hk0 hright]
  refine hx (v.takeWhile isIdentifierChar) ?_ (by rw [hfirst, lower_takeWhile, lower_takeWhile, hlow])
  conv => arg 1; rw [← List.takeWhile_append_dropWhile (p := isIdentifierChar) (l := v)]
  refine mem_identifiers (fun c hc => ?_) (fun c hc => List.mem_takeWhile_imp hc) fun c hc => ?_
  · have hu : u ≠ [] := by rintro rfl; cases hc
    rw [List.getLast?_append_of_ne_nil _ hu] at hleft
    exact not_isIdentifierChar_of_isBreak hk hleft c hc
  · have h := List.head?_dropWhile_not isIdentifierChar v
    rw [Option.mem_def.1 hc] at h
    simpa using h

/-! ## The text around a stretch -/

/-- The keywords that end a condition, and OR. -/
def clauseKeywords : List Text := "OR".toList :: whereTerminators

/-- A text that begins where no clause keyword goes on: with a separator, and with white space only if no `b`
follows. -/
def Fence (t : Text) : Prop :=
  ∀ c ∈ t.head?, isIdentifierChar c = false ∧ (Text.isBlank c = true → ∀ d ∈ t.tail.head?, d.toLower ≠ 'b')

theorem fence_nil : Fence [] := by intro c hc; cases hc

theorem fence_space {t : Text} (h : ∀ d ∈ t.head?, d.toLower ≠ 'b') : Fence (' ' :: t) := by
  rintro c ⟨⟩
  exact ⟨by decide, fun _ => h⟩

theorem fence_semicolon : Fence [';'] := by
  rintro c ⟨⟩
  exact ⟨by decide, by decide⟩

theorem Fence.separates {t : Text} (ht : Fence t) : ∀ c ∈ t.head?, isIdentifierChar c = false :=
  fun c hc => (ht c hc).1

theorem Fence.append {c : Char} {rest : Text} (h : Fence (c :: rest)) (hne : rest ≠ []) (t : Text) :
    Fence (c :: rest ++ t) := by
  rintro d ⟨⟩
  obtain ⟨hc, hnext⟩ := h c rfl
  refine ⟨hc, fun hblank e (he : e ∈ (rest ++ t).head?) => hnext hblank e ?_⟩
  rwa [List.head?_append_of_ne_nil _ hne] at he

theorem Fence.isBreak {t : Text} (ht : Fence t) (x : Option Char) : isBreak x t.head? = true := by
  cases h : t.head? with
  | none => exact isBreak_nil x
  | some c => exact isBreak_of_separator (ht.separates c h) x

/-- What a clause keyword looks like: identifier characters, and after the first one a space only before `b`. -/
structure ClauseKeyword (keyword : Text) : Prop where
  first : keyword.head?.any isIdentifierChar = true
  inner : ∀ n < keyword.length, (Text.lower keyword)[n]?.any isIdentifierChar = true ∨
    ((Text.lower keyword)[n]? = some ' ' ∧ (Text.lower keyword)[n + 1]? = some 'b')

theorem clauseKeyword_of_mem {k : Text} (hk : k ∈ clauseKeywords) : ClauseKeyword k := by
  have first : ∀ k ∈ clauseKeywords, k.head?.any isIdentifierChar = true := by decide
  have inner : ∀ k ∈ clauseKeywords, ∀ n < k.length, (Text.lower k)[n]?.any isIdentifierChar = true ∨
      ((Text.lower k)[n]? = some ' ' ∧ (Text.lower k)[n + 1]? = some 'b') := by decide +kernel
  exact ⟨first k hk, inner k hk⟩

theorem ClauseKeyword.ne_nil {keyword : Text} (h : ClauseKeyword keyword) : keyword ≠ [] := by
  rintro rfl
  have hfirst := h.first
  cases hfirst

/-- A keyword that begins before a fence ends before it. -/
theorem ClauseKeyword.within {keyword k v t r : Text} (h : ClauseKeyword keyword)
    (hlow : Text.lower k = Text.lower keyword) (ht : Fence t) (hs : v ++ t = k ++ r) :
    ∃ v', v = k ++ v' ∧ r = v' ++ t := by
  rcases List.append_eq_append_iff.1 hs with ⟨w, rfl, rfl⟩ | ⟨v', hv, hr⟩
  · -- the keyword goes on into the fence, where its next letter would be a separator, or a space before `b`
    cases w with
    | nil => exact ⟨[], by simp, rfl⟩
    | cons c w =>
      have hlen : v.length < keyword.length := by
        rw [← Text.length_of_lower_eq hlow, List.length_append, List.length_cons]; omega
      obtain ⟨hseparator, hb⟩ := ht c rfl
      have hletter : (Text.lower (v ++ c :: w))[v.length]? = some c.toLower := by simp [Text.lower]
      rcases h.inner v.length hlen with hident | ⟨hspace, hnext⟩
      · rw [← hlow, hletter, Option.any_some, isIdentifierChar_toLower, hseparator] at hident
        cases hident
      · rw [← hlow, hletter, Option.some.injEq] at hspace
        have hblank : Text.isBlank c = true := by
          rw [← isBlank_toLower, hspace]
          decide
        rw [← hlow] at hnext
        cases w with
        | nil => simp [Text.lower] at hnext
        | cons d w => exact absurd (by simpa [Text.lower] using hnext) (hb hblank d rfl)
  · exact ⟨v', hv, hr⟩

/-- A stretch that is clear of a clause keyword at top level is so between other texts, as long as
those end and begin apart from its words. -/
theorem Clear.transfer {keyword b b' x t t' : Text} (hk : ClauseKeyword keyword) (h : Clear keyword b x t)
    (hb : Nesting.outer.after b = .outer) (hb' : Nesting.outer.after b' = .outer)
    (hleft : Sql.isBreak b.getLast? x.head? = true) (hright : Sql.isBreak x.getLast? t.head? = true) (ht' : Fence t') :
    Clear keyword b' x t' := by
  rintro u v rfl hv hab
  obtain ⟨k, r, hs, hlow, hbefore, hafter⟩ := startsWithKeyword_iff.1 hab.word
  -- the keyword lies within the stretch, so its neighbours are in the stretch or at its ends
  obtain ⟨v', rfl, rfl⟩ := hk.within hlow ht' hs
  have hk0 : k ≠ [] := Text.ne_nil_of_lower_eq hlow hk.ne_nil
  have htop := hab.top
  rw [Nesting.after_append, hb'] at htop
  refine h u (k ++ v') rfl hv ⟨by rw [Nesting.after_append, hb, htop], ?_, ?_⟩
  · obtain ⟨c, hc, hd⟩ := hab.head
    rw [List.head?_append_of_ne_nil _ hv] at hc ⊢
    exact ⟨c, hc, hd⟩
  · refine startsWithKeyword_iff.2 ⟨k, v' ++ t, by simp, hlow, ?_, ?_⟩
    · by_cases hu : u = []
      · subst hu
        rw [List.nil_append, List.head?_append_of_ne_nil _ hk0, isBreak_comm,
          isBreak_of_map_eq (head_of_lower_eq isIdentifierChar_toLower hlow)] at hleft
        rwa [List.append_nil]
      · rw [List.getLast?_append_of_ne_nil _ hu] at hbefore ⊢
        exact hbefore
    · by_cases hv' : v' = []
      · subst hv'
        rw [List.append_nil, List.getLast?_append_of_ne_nil _ hk0,
          isBreak_of_map_eq (getLast_of_lower_eq isIdentifierChar_toLower hlow)] at hright
        exact hright
      · rw [List.head?_append_of_ne_nil _ hv'] at hafter ⊢
        exact hafter

/-- A keyword shorter than `p` reads in `p` whatever follows. -/
theorem startsWithKeyword_congr {keyword p : Text} (hp : keyword.length < p.length) {before : Option Char} {q q' : Text}
    (h : startsWithKeyword keyword before (p ++ q) = true) : startsWithKeyword keyword before (p ++ q') = true := by
  obtain ⟨k, r, hs, hlow, hleft, hright⟩ := startsWithKeyword_iff.1 h
  have hlen := Text.length_of_lower_eq hlow
  rcases List.append_eq_append_iff.1 hs with ⟨w, rfl, -⟩ | ⟨w, rfl, rfl⟩
  · rw [List.length_append] at hlen; omega
  · have hw : w ≠ [] := by rintro rfl; rw [List.append_nil] at hp; omega
    rw [List.head?_append_of_ne_nil _ hw] at hright
    exact startsWithKeyword_iff.2 ⟨k, w ++ q', by simp, hlow, hleft, by rwa [List.head?_append_of_ne_nil _ hw]⟩

/-- Where a clause opens does not depend on what it says. -/
theorem Opens.congr {keyword b rest rest' : Text} (h : Opens keyword b rest) (hne : keyword ≠ [])
    (hbreak : Sql.isBreak keyword.getLast? rest'.head? = true) : Opens keyword b rest' := by
  obtain ⟨a, k, rfl, hlow, hab, hclear⟩ := h
  have hlen := Text.length_of_lower_eq hlow
  have hk0 : k ≠ [] := Text.ne_nil_of_lower_eq hlow hne
  refine ⟨a, k, rfl, hlow, ⟨hab.top, ?_, ?_⟩, ?_⟩
  · have := hab.head
    rwa [List.head?_append_of_ne_nil _ hk0] at this ⊢
  · obtain ⟨-, -, -, -, hleft, -⟩ := startsWithKeyword_iff.1 hab.word
    exact startsWithKeyword_iff.2 ⟨k, rest', rfl, hlow, hleft, hbreak⟩
  · -- in front of the keyword itself, an occurrence ends within it at the latest
    rintro u v rfl hv hst
    have hv0 := List.length_pos_iff.2 hv
    refine hclear u v rfl hv ⟨hst.top, ?_, ?_⟩
    · have := hst.head
      rwa [List.head?_append_of_ne_nil _ hv] at this ⊢
    · have := hst.word
      rw [← List.append_assoc] at this ⊢
      exact startsWithKeyword_congr (by rw [List.length_append]; omega) this

/-! ## A keyword in a new place -/

theorem standsAt_keyword {keyword b : Text} (hk : ClauseKeyword keyword) (hb : Nesting.outer.after b = .outer)
    (hbreak : Sql.isBreak keyword.head? b.getLast? = true) (rest : Text) :
    StandsAt keyword b (keyword ++ ' ' :: rest) := by
  obtain ⟨c, hc, hident⟩ := (Option.any_eq_true _ _).1 hk.first
  refine ⟨hb, ⟨c, ?_, isDelimiter_of_isIdentifierChar hident⟩, ?_⟩
  · rwa [List.head?_append_of_ne_nil _ hk.ne_nil]
  · exact startsWithKeyword_iff.2 ⟨keyword, ' ' :: rest, rfl, rfl, hbreak, isBreak_of_separator (by decide) _⟩

/-- A keyword that is put behind a space into a text without it is the first one at top level. -/
theorem opens_inserted {keyword a t : Text} (hk : ClauseKeyword keyword) (hfence : Fence (' ' :: keyword))
    (ha : Nesting.outer.after a = .outer) (hbreak : Sql.isBreak a.getLast? t.head? = true)
    (hnone : findTopLevel (a ++ t) keyword 0 = none) (rest : Text) :
    Opens keyword (a ++ ' ' :: keyword) (' ' :: rest) := by
  have hclear : Clear keyword [] a t := by
    have hall := (findTopLevel_behind_eq_none (b := [])).1 hnone
    simpa using (clear_append_iff.1 hall).1
  have hfence' : Fence ([' '] ++ (keyword ++ ' ' :: rest)) := by
    refine fence_space fun d (hd : d ∈ (keyword ++ ' ' :: rest).head?) => ?_
    rw [List.head?_append_of_ne_nil _ hk.ne_nil] at hd
    exact (hfence ' ' rfl).2 (by decide) d hd
  have hspace : Clear keyword ([] ++ a) [' '] (keyword ++ ' ' :: rest) := by
    refine clear_of_identifiers hk.first (fun w hw => ?_) (isBreak_comm _ _ ▸ isBreak_of_separator (by decide) _)
    have hword : w = [] := by
      revert w
      decide
    rw [hword]
    intro hnil
    obtain ⟨c, hc, hident⟩ := (Option.any_eq_true _ _).1 hk.first
    obtain ⟨u, rfl⟩ := List.head?_eq_some_iff.1 hc
    rw [List.takeWhile_cons_of_pos hident] at hnil
    cases hnil
  refine ⟨a ++ [' '], keyword, by simp, rfl, standsAt_keyword hk ?_ ?_ rest, ?_⟩
  · rw [Nesting.after_append_blank (by decide), ha]
  · rw [List.getLast?_concat]
    exact isBreak_of_separator (by decide) _
  · exact clear_append_iff.2 ⟨hclear.transfer hk rfl rfl (isBreak_comm _ _ ▸ isBreak_nil _) hbreak hfence', hspace⟩

end SensorRegistry.Sql
