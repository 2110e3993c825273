/-
Normalizing, character by character. Every run of white space is squeezed to one space, wherever it stands, and then the
ends are trimmed. Squeezing works on both sides of a visible character apart, and it changes exactly the texts whose
white space is not single spaces already.
-/
import SensorRegistry.Proofs.Text.Blank

namespace SensorRegistry.Text

/-- Every run of white space as one space, also at the ends: of each run the last character stays, as a space. -/
def squeeze : Text → Text
  | [] => []
  | c :: s =>
    if isBlank c then (if s.head?.any isBlank then squeeze s else ' ' :: squeeze s) else c :: squeeze s

theorem squeeze_visible_append {w : Text} (hw : ∀ c ∈ w, isBlank c = false) (s : Text) :
    squeeze (w ++ s) = w ++ squeeze s := by
  induction w with
  | nil => rfl
  | cons c w ih =>
    rw [List.cons_append, squeeze, hw c (by simp), if_neg (by simp), ih fun d hd => hw d (List.mem_cons_of_mem c hd)]
    rfl

theorem squeeze_of_visible {w : Text} (hw : ∀ c ∈ w, isBlank c = false) : squeeze w = w := by
  simpa [squeeze] using squeeze_visible_append hw []

theorem squeeze_cons {c : Char} (hc : isBlank c = false) (s : Text) : squeeze (c :: s) = c :: squeeze s :=
  squeeze_visible_append (w := [c]) (by simpa using hc) s

/-- What stands on the two sides of a visible character is squeezed apart. -/
theorem squeeze_append_cons {c : Char} (hc : isBlank c = false) (a b : Text) :
    squeeze (a ++ c :: b) = squeeze a ++ c :: squeeze b := by
  induction a with
  | nil => exact squeeze_cons hc b
  | cons d a ih =>
    have hnext : (a ++ c :: b).head?.any isBlank = a.head?.any isBlank := by cases a <;> simp [hc]
    rw [List.cons_append, squeeze, squeeze, ih, hnext]
    split_ifs <;> rfl

/-- A run of white space is squeezed to a space in front of what follows it. -/
theorem squeeze_blank {c : Char} (hc : isBlank c = true) (s : Text) :
    squeeze (c :: s) = ' ' :: trimStart (squeeze s) := by
  induction s generalizing c with
  | nil => simp [squeeze, hc, trimStart]
  | cons d s ih =>
    rw [squeeze, if_pos hc]
    cases hd : isBlank d with
    | true =>
      rw [if_pos (by simpa using hd), ih hd]
      exact congrArg (' ' :: ·) (trimStart_eq_self (head_trimStart _)).symm
    | false => rw [if_neg (by simp [hd]), squeeze_cons hd, trimStart_eq_self (by rintro e ⟨⟩; exact hd)]

/-! ## Spaced texts -/

theorem spaced_cons_iff {c : Char} {s : Text} :
    Spaced (c :: s) ↔ (isBlank c = true → c = ' ' ∧ ∀ d ∈ s.head?, isBlank d = false) ∧ Spaced s := by
  constructor
  · rintro ⟨hspace, hsingle⟩
    obtain ⟨hhead, hrest⟩ := List.isChain_cons.1 hsingle
    refine ⟨fun hc => ⟨hspace c (by simp) hc, fun d hd => (hhead d hd).resolve_left ?_⟩,
      fun d hd => hspace d (List.mem_cons_of_mem c hd), hrest⟩
    rw [hc]
    simp
  · rintro ⟨hc, hspace, hsingle⟩
    refine ⟨fun d hd hblank => ?_, List.isChain_cons.2 ⟨fun d hd => ?_, hsingle⟩⟩
    · rcases List.mem_cons.1 hd with rfl | hd
      · exact (hc hblank).1
      · exact hspace d hd hblank
    · cases hblank : isBlank c with
      | false => exact .inl rfl
      | true => exact .inr ((hc hblank).2 d hd)

theorem spaced_squeeze (s : Text) : Spaced (squeeze s) := by
  induction s with
  | nil => exact spaced_of_visible (by simp [squeeze])
  | cons c s ih =>
    cases hc : isBlank c with
    | false =>
      rw [squeeze_cons hc]
      exact spaced_cons_iff.2 ⟨by simp [hc], ih⟩
    | true =>
      rw [squeeze, if_pos hc]
      split
      · exact ih
      · rename_i hnext
        refine spaced_cons_iff.2 ⟨fun _ => ⟨rfl, fun d hd => ?_⟩, ih⟩
        -- the character behind the run stays
        cases s with
        | nil => cases hd
        | cons e s =>
          have he : isBlank e = false := by simpa using hnext
          rw [squeeze_cons he] at hd
          cases hd
          exact he

/-- Squeezing changes exactly the texts that are not spaced. -/
theorem squeeze_eq_self_iff {s : Text} : squeeze s = s ↔ Spaced s := by
  constructor
  · intro h
    exact h ▸ spaced_squeeze s
  · intro h
    induction s with
    | nil => rfl
    | cons c s ih =>
      obtain ⟨hc, hs⟩ := spaced_cons_iff.1 h
      cases hblank : isBlank c with
      | false => rw [squeeze_cons hblank, ih hs]
      | true =>
        obtain ⟨rfl, hnext⟩ := hc hblank
        rw [squeeze_blank hblank, ih hs, trimStart_eq_self hnext]

instance (s : Text) : Decidable (Spaced s) := decidable_of_iff _ squeeze_eq_self_iff

/-! ## Visible characters -/

/-- The characters of a text that are not white space. -/
def visible (s : Text) : Text := s.filter (! isBlank ·)

theorem visible_append (a b : Text) : visible (a ++ b) = visible a ++ visible b := List.filter_append a b

theorem visible_cons {c : Char} (hc : isBlank c = false) (s : Text) : visible (c :: s) = c :: visible s :=
  List.filter_cons_of_pos (by simp [hc])

theorem visible_blank {c : Char} (hc : isBlank c = true) (s : Text) : visible (c :: s) = visible s :=
  List.filter_cons_of_neg (by simp [hc])

theorem mem_visible {c : Char} (hc : isBlank c = false) (s : Text) : c ∈ visible s ↔ c ∈ s := by simp [visible, hc]

/-- Squeezing takes no visible character away and adds none. -/
theorem visible_squeeze (s : Text) : visible (squeeze s) = visible s := by
  induction s with
  | nil => rfl
  | cons c s ih =>
    cases hc : isBlank c with
    | false => rw [squeeze_cons hc, visible_cons hc, visible_cons hc, ih]
    | true =>
      rw [squeeze, if_pos hc, visible_blank hc, ← ih]
      split
      · rfl
      · exact visible_blank (by decide) _

theorem mem_squeeze {c : Char} (hc : isBlank c = false) (s : Text) : c ∈ squeeze s ↔ c ∈ s := by
  rw [← mem_visible hc, visible_squeeze, mem_visible hc]

/-! ## Normalized texts -/

theorem words_eq_nil_of_normalize {s : Text} (h : normalize s = []) : words s = [] :=
  by_contra fun hne => join_ne_nil " " hne (fun _ hw => (mem_words hw).1) h

theorem normalize_of_visible {w : Text} (hw : ∀ c ∈ w, isBlank c = false) : normalize w = w := by
  by_cases hne : w = []
  · rw [hne]
    rfl
  · rw [normalize, words_of_visible hw hne, join_singleton]

/-- Behind its first blank a text is normalized on its own. -/
theorem normalize_append {w : Text} {c : Char} (hw : ∀ d ∈ w, isBlank d = false) (hc : isBlank c = true) (y : Text) :
    normalize (w ++ c :: y) = trim (w ++ ' ' :: normalize y) := by
  have hspace : AllBlank [' '] := by decide
  have hwords : words (w ++ c :: y) = words w ++ words y := words_append hc w y
  by_cases hw0 : w = []
  · have hdrop : normalize (w ++ c :: y) = normalize y := by
      rw [normalize, hwords, hw0, words_nil, List.nil_append, normalize]
    rw [hdrop, hw0]
    simpa using (trim_surrounded hspace (trimmed_normalize y) allBlank_nil).symm
  · by_cases hy0 : normalize y = []
    · have hjoin : normalize (w ++ c :: y) = normalize w := by
        rw [normalize, hwords, words_eq_nil_of_normalize hy0, List.append_nil, normalize]
      rw [hjoin, normalize_of_visible hw, hy0]
      exact (trim_surrounded allBlank_nil (trimmed_of_visible hw) hspace).symm
    · have hwy : words y ≠ [] := by
        intro hnil
        rw [normalize, hnil] at hy0
        exact hy0 rfl
      have hjoin : normalize (w ++ c :: y) = w ++ [' '] ++ normalize y := by
        rw [normalize, hwords, words_of_visible hw hw0]
        exact join_cons " " w hwy
      have htrimmed : Trimmed (w ++ [' '] ++ normalize y) :=
        (trimmed_of_visible hw).append (trimmed_normalize y) hw0 hy0 [' ']
      rw [hjoin, ← htrimmed.trim_eq]
      simp

/-- Normalizing is squeezing and trimming. -/
theorem normalize_eq (s : Text) : normalize s = trim (squeeze s) := by
  induction hn : s.length using Nat.strong_induction_on generalizing s with
  | _ n ih =>
    rcases visible_or_split s with hs | ⟨w, c, y, rfl, hc, hw⟩
    · rw [squeeze_of_visible hs, (trimmed_of_visible hs).trim_eq, normalize_of_visible hs]
    · have hy : normalize y = trim (squeeze y) := ih y.length (by simp at hn; omega) y rfl
      obtain ⟨e, he, hrest⟩ := exists_trimEnd (trimStart (squeeze y))
      rw [show trimEnd (trimStart (squeeze y)) = normalize y from hy.symm] at hrest
      have hsplit : squeeze (w ++ c :: y) = [] ++ (w ++ ' ' :: normalize y) ++ e := by
        rw [squeeze_visible_append hw, squeeze_blank hc, hrest]
        simp
      rw [normalize_append hw hc, hsplit, trim_blank allBlank_nil he]

/-- Normalizing changes exactly the texts that are not spaced or not trimmed. -/
theorem normalize_eq_self_iff {s : Text} : normalize s = s ↔ Spaced s ∧ Trimmed s := by
  constructor
  · intro h
    exact ⟨h ▸ spaced_normalize s, h ▸ trimmed_normalize s⟩
  · rintro ⟨hspaced, htrimmed⟩
    rw [normalize_eq, squeeze_eq_self_iff.2 hspaced, htrimmed.trim_eq]

/-! ## Phrases -/

/-- A text with something visible in it that normalizing leaves as it is. -/
structure Phrase (s : Text) : Prop where
  visible : ¬ AllBlank s
  normal : normalize s = s

instance (s : Text) : Decidable (Phrase s) :=
  decidable_of_iff (¬ AllBlank s ∧ normalize s = s) ⟨fun h => ⟨h.1, h.2⟩, fun h => ⟨h.visible, h.normal⟩⟩

theorem phrase_iff {s : Text} : Phrase s ↔ s ≠ [] ∧ Spaced s ∧ Trimmed s := by
  rw [← normalize_eq_self_iff]
  constructor
  · rintro ⟨hvisible, hnormal⟩
    exact ⟨fun hs => hvisible (hs ▸ allBlank_nil), hnormal⟩
  · rintro ⟨hs, hnormal⟩
    exact ⟨fun hblank => hs (hblank.eq_nil_of_head (normalize_eq_self_iff.1 hnormal).2.first), hnormal⟩

theorem phrase_of_visible {w : Text} (hw : ∀ c ∈ w, isBlank c = false) (hne : w ≠ []) : Phrase w :=
  phrase_iff.2 ⟨hne, spaced_of_visible hw, trimmed_of_visible hw⟩

/-- What stands between two phrases only has to be spaced in itself. -/
theorem Phrase.around {a b m : Text} (ha : Phrase a) (hb : Phrase b) (hm : Spaced m) : Phrase (a ++ m ++ b) := by
  obtain ⟨ha0, hspaceda, htrimmeda⟩ := phrase_iff.1 ha
  obtain ⟨hb0, hspacedb, htrimmedb⟩ := phrase_iff.1 hb
  refine phrase_iff.2 ⟨by simp [ha0], ?_, htrimmeda.append htrimmedb ha0 hb0 m⟩
  exact (hspaceda.append hm (.inl htrimmeda.last)).append hspacedb (.inr htrimmedb.first)

theorem phrase_join {sep : String} (hsep : Spaced sep.toList) : ∀ {ts : List Text}, ts ≠ [] → (∀ t ∈ ts, Phrase t) →
    Phrase (join sep ts)
  | [], hne, _ => absurd rfl hne
  | [t], _, h => by
    rw [join_singleton]
    exact h t (by simp)
  | t :: u :: ts, _, h => by
    rw [join_cons sep t (List.cons_ne_nil u ts)]
    exact (h t (by simp)).around
      (phrase_join hsep (List.cons_ne_nil u ts) fun v hv => h v (List.mem_cons_of_mem t hv)) hsep

end SensorRegistry.Text
