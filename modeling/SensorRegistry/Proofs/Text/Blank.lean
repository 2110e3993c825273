/-
Laws of trimming and of normalizing: what is cut off is blank, a trimmed text begins and ends with
visible characters, and a normalized text is trimmed and has its white space as single spaces. Both only take away or
replace white space, so a reading of texts that white space separates does not see them.
-/
import SensorRegistry.Text.Blank
import Mathlib.Data.List.Chain
import Mathlib.Data.List.DropRight
import Mathlib.Data.List.TakeWhile

namespace SensorRegistry.Text

/-- A text of white space only. -/
def AllBlank (s : Text) : Prop := ∀ c ∈ s, isBlank c = true

instance (s : Text) : Decidable (AllBlank s) := List.decidableBAll _ s

/-- A text whose first and last characters, if any, are visible. -/
structure Trimmed (s : Text) : Prop where
  first : ∀ c ∈ s.head?, isBlank c = false
  last : ∀ c ∈ s.getLast?, isBlank c = false

theorem AllBlank.append {x y : Text} (hx : AllBlank x) (hy : AllBlank y) : AllBlank (x ++ y) := by
  intro c hc
  rcases List.mem_append.1 hc with h | h
  · exact hx c h
  · exact hy c h

theorem allBlank_nil : AllBlank [] := by intro c hc; cases hc

/-! ## Trimming -/

theorem exists_trimStart (s : Text) : ∃ x, AllBlank x ∧ s = x ++ trimStart s :=
  ⟨s.takeWhile isBlank, fun _ hc => List.mem_takeWhile_imp hc, (List.takeWhile_append_dropWhile).symm⟩

theorem exists_trimEnd (s : Text) : ∃ y, AllBlank y ∧ s = trimEnd s ++ y := by
  obtain ⟨x, hx, h⟩ := exists_trimStart s.reverse
  refine ⟨x.reverse, fun c hc => hx c (List.mem_reverse.1 hc), ?_⟩
  rw [trimEnd, ← List.reverse_append, ← h, List.reverse_reverse]

/-- What trimming takes away is blank. -/
theorem exists_trim (s : Text) : ∃ x y, AllBlank x ∧ AllBlank y ∧ s = x ++ trim s ++ y := by
  obtain ⟨x, hx, h⟩ := exists_trimStart s
  obtain ⟨y, hy, h'⟩ := exists_trimEnd (trimStart s)
  refine ⟨x, y, hx, hy, ?_⟩
  rw [trim, List.append_assoc, ← h', ← h]

theorem infix_trim (s : Text) : trim s <:+: s := by
  obtain ⟨x, y, -, -, h⟩ := exists_trim s
  exact ⟨x, y, h.symm⟩

theorem trimStart_blank_append {x : Text} (hx : AllBlank x) (s : Text) : trimStart (x ++ s) = trimStart s :=
  List.dropWhile_append_of_pos hx

theorem trimEnd_append_blank {y : Text} (hy : AllBlank y) (s : Text) : trimEnd (s ++ y) = trimEnd s := by
  unfold trimEnd
  rw [List.reverse_append, trimStart_blank_append fun c hc => hy c (List.mem_reverse.1 hc)]

theorem trimStart_eq_self {s : Text} (h : ∀ c ∈ s.head?, isBlank c = false) : trimStart s = s := by
  cases s with
  | nil => rfl
  | cons c s => exact List.dropWhile_cons_of_neg (by simp [h c rfl])

theorem trimEnd_eq_self {s : Text} (h : ∀ c ∈ s.getLast?, isBlank c = false) : trimEnd s = s := by
  unfold trimEnd
  rw [trimStart_eq_self (by rwa [List.head?_reverse]), List.reverse_reverse]

/-- White space that begins visibly is none. -/
theorem AllBlank.eq_nil_of_head {x : Text} (hx : AllBlank x) (h : ∀ c ∈ x.head?, isBlank c = false) : x = [] := by
  cases x with
  | nil => rfl
  | cons c x =>
    have hc := hx c List.mem_cons_self
    rw [h c rfl] at hc
    cases hc

theorem AllBlank.eq_nil_of_last {x : Text} (hx : AllBlank x) (h : ∀ c ∈ x.getLast?, isBlank c = false) : x = [] := by
  by_contra hne
  have hc := hx _ (List.getLast_mem hne)
  rw [h _ (by rw [List.getLast?_eq_some_getLast hne]; rfl)] at hc
  cases hc

theorem getLast?_trimStart {s : Text} (h : ∀ c ∈ s.getLast?, isBlank c = false) :
    (trimStart s).getLast? = s.getLast? := by
  obtain ⟨x, hx, hs⟩ := exists_trimStart s
  by_cases hne : trimStart s = []
  · rw [hne, List.append_nil] at hs
    have hnil : s = [] := AllBlank.eq_nil_of_last (hs ▸ hx) h
    rw [hnil]
    rfl
  · conv_rhs => rw [hs]
    rw [List.getLast?_append_of_ne_nil _ hne]

theorem trim_eq_trimStart {s : Text} (h : ∀ c ∈ s.getLast?, isBlank c = false) : trim s = trimStart s :=
  trimEnd_eq_self (by rwa [getLast?_trimStart h])

theorem Trimmed.trim_eq {s : Text} (h : Trimmed s) : trim s = s := by
  rw [trim, trimStart_eq_self h.first, trimEnd_eq_self h.last]

theorem head_trimStart (s : Text) : ∀ c ∈ (trimStart s).head?, isBlank c = false := by
  intro c hc
  have h := List.head?_dropWhile_not isBlank s
  rw [Option.mem_def] at hc
  rw [show s.dropWhile isBlank = trimStart s from rfl, hc] at h
  simpa using h

theorem getLast_trimEnd (s : Text) : ∀ c ∈ (trimEnd s).getLast?, isBlank c = false := by
  intro c hc
  refine head_trimStart s.reverse c ?_
  rwa [trimEnd, List.getLast?_reverse] at hc

theorem trimmed_trim (s : Text) : Trimmed (trim s) := by
  refine ⟨fun c hc => head_trimStart s c ?_, getLast_trimEnd _⟩
  obtain ⟨y, -, h⟩ := exists_trimEnd (trimStart s)
  rw [h]
  rw [Option.mem_def] at hc ⊢
  rw [List.head?_append, show (trimEnd (trimStart s)).head? = some c from hc]
  rfl

/-- Trimming does not see blanks at the ends. -/
theorem trim_blank {x y : Text} (hx : AllBlank x) (hy : AllBlank y) (s : Text) :
    trim (x ++ s ++ y) = trim s := by
  rw [List.append_assoc, trim, trimStart_blank_append hx]
  obtain ⟨b, hb, h⟩ := exists_trimStart s
  by_cases he : trimStart s = []
  · rw [he, List.append_nil] at h
    have hall : AllBlank (s ++ y) := (h ▸ hb).append hy
    rw [trimStart, List.dropWhile_eq_nil_iff.2 hall, trim, he]
  · have hs : trimStart (s ++ y) = trimStart s ++ y := by
      conv_lhs => rw [h, List.append_assoc, trimStart_blank_append hb]
      refine trimStart_eq_self fun c hc => head_trimStart s c ?_
      rwa [List.head?_append_of_ne_nil _ he] at hc
    rw [hs, trimEnd_append_blank hy, trim]

theorem AllBlank.trim_eq {x : Text} (hx : AllBlank x) : trim x = [] := by
  have h := trim_blank hx allBlank_nil []
  rwa [List.append_nil, List.append_nil] at h

/-- The blanks around a text that is trimmed already are what trimming takes away. -/
theorem trim_surrounded {x s y : Text} (hx : AllBlank x) (hs : Trimmed s) (hy : AllBlank y) :
    trim (x ++ s ++ y) = s := by
  rw [trim_blank hx hy, hs.trim_eq]

theorem Trimmed.append {s t : Text} (hs : Trimmed s) (ht : Trimmed t) (hs' : s ≠ []) (ht' : t ≠ [])
    (m : Text) : Trimmed (s ++ m ++ t) := by
  refine ⟨fun c hc => hs.first c ?_, fun c hc => ht.last c ?_⟩
  · rwa [List.append_assoc, List.head?_append_of_ne_nil _ hs'] at hc
  · rwa [List.getLast?_append_of_ne_nil _ ht'] at hc

/-! ## Readings that white space separates -/

/-- A reading of texts into a list that white space separates: what stands on its two sides is read
on its own. -/
structure BlankSeparated {α : Type} (f : Text → List α) : Prop where
  nil : f [] = []
  blank : ∀ a c b, isBlank c = true → f (a ++ c :: b) = f a ++ f b

theorem BlankSeparated.allBlank {α : Type} {f : Text → List α} (hf : BlankSeparated f) :
    ∀ {x : Text}, AllBlank x → f x = []
  | [], _ => hf.nil
  | c :: x, hx => by
    have h := hf.blank [] c x (hx c (by simp))
    rw [hf.nil, hf.allBlank (x := x) fun d hd => hx d (List.mem_cons_of_mem c hd)] at h
    exact h

theorem BlankSeparated.append_blank {α : Type} {f : Text → List α} (hf : BlankSeparated f) (a : Text) {y : Text}
    (hy : AllBlank y) : f (a ++ y) = f a := by
  cases y with
  | nil => rw [List.append_nil]
  | cons c y =>
    rw [hf.blank a c y (hy c (by simp)), hf.allBlank fun d hd => hy d (List.mem_cons_of_mem c hd), List.append_nil]

theorem BlankSeparated.blank_append {α : Type} {f : Text → List α} (hf : BlankSeparated f) :
    ∀ {x : Text}, AllBlank x → ∀ a, f (x ++ a) = f a
  | [], _, a => rfl
  | c :: x, hx, a => by
    have h := hf.blank [] c (x ++ a) (hx c (by simp))
    rw [hf.nil, List.nil_append, List.nil_append] at h
    rw [List.cons_append, h, hf.blank_append (fun d hd => hx d (List.mem_cons_of_mem c hd)) a]

theorem BlankSeparated.trim {α : Type} {f : Text → List α} (hf : BlankSeparated f) (s : Text) :
    f (Text.trim s) = f s := by
  obtain ⟨x, y, hx, hy, h⟩ := exists_trim s
  conv_rhs => rw [h]
  rw [hf.append_blank _ hy, hf.blank_append hx]

/-! ## Joining -/

theorem join_nil (sep : String) : join sep [] = [] := rfl

theorem join_singleton (sep : String) (t : Text) : join sep [t] = t := List.intercalate_singleton

theorem join_cons (sep : String) (t : Text) {ts : List Text} (h : ts ≠ []) :
    join sep (t :: ts) = t ++ sep.toList ++ join sep ts :=
  List.intercalate_cons_of_ne_nil h

/-- The first two parts may be joined first. -/
theorem join_cons_cons (sep : String) (t u : Text) (ts : List Text) :
    join sep ((t ++ sep.toList ++ u) :: ts) = join sep (t :: u :: ts) := by
  cases ts with
  | nil => rw [join_cons sep t (List.cons_ne_nil u []), join_singleton, join_singleton]
  | cons v ts =>
    rw [join_cons sep _ (List.cons_ne_nil v ts), join_cons sep t (List.cons_ne_nil u _),
      join_cons sep u (List.cons_ne_nil v ts)]
    simp only [List.append_assoc]

/-- The last two parts may be joined first. -/
theorem join_concat (sep : String) (ts : List Text) (t u : Text) :
    join sep (ts ++ [t ++ sep.toList ++ u]) = join sep (ts ++ [t] ++ [u]) := by
  induction ts with
  | nil => rw [List.nil_append, List.nil_append, join_singleton, List.singleton_append,
      join_cons sep t (List.cons_ne_nil u []), join_singleton]
  | cons v ts ih =>
    rw [List.cons_append, List.cons_append, List.cons_append, join_cons sep v (by simp), join_cons sep v (by simp), ih]

theorem join_ne_nil (sep : String) {ts : List Text} (hts : ts ≠ []) (h : ∀ t ∈ ts, t ≠ []) : join sep ts ≠ [] := by
  obtain ⟨t, us, rfl⟩ := List.exists_cons_of_ne_nil hts
  obtain ⟨c, t', rfl⟩ := List.exists_cons_of_ne_nil (h t (by simp))
  rw [join, List.intercalate_cons_cons_left]
  exact List.cons_ne_nil c _

/-- What holds of the parts, and goes over every joint, holds of the joined text. -/
theorem join_induction {P : Text → Prop} (sep : String) (hnil : P [])
    (hsep : ∀ a b, P a → P b → P (a ++ sep.toList ++ b)) : ∀ {ts : List Text}, (∀ t ∈ ts, P t) → P (join sep ts)
  | [], _ => hnil
  | [t], h => by
    rw [join_singleton]
    exact h t (by simp)
  | t :: u :: ts, h => by
    rw [join_cons sep t (List.cons_ne_nil u ts)]
    exact hsep _ _ (h t (by simp)) (join_induction sep hnil hsep fun v hv => h v (List.mem_cons_of_mem t hv))

/-- A reading that splits at every joint reads the parts. -/
theorem flatMap_join {α : Type} {f : Text → List α} (sep : String) (hnil : f [] = [])
    (hsep : ∀ a b, f (a ++ sep.toList ++ b) = f a ++ f b) :
    ∀ ts : List Text, f (join sep ts) = ts.flatMap f
  | [] => hnil
  | [t] => by rw [join_singleton, List.flatMap_singleton]
  | t :: u :: ts => by
    rw [join_cons sep t (List.cons_ne_nil u ts), hsep, flatMap_join sep hnil hsep (u :: ts)]
    rfl

/-! ## Words -/

theorem words_append {c : Char} (hc : isBlank c = true) (x y : Text) :
    words (x ++ c :: y) = words x ++ words y := by
  unfold words
  rw [List.splitOnP_append_cons x y hc, List.filter_append]

theorem words_of_visible {w : Text} (hw : ∀ c ∈ w, isBlank c = false) (hne : w ≠ []) : words w = [w] := by
  unfold words
  rw [List.splitOnP_eq_singleton hw]
  cases w with
  | nil => exact absurd rfl hne
  | cons c w => rfl

theorem words_nil : words [] = [] := rfl

/-- A text is visible throughout, or a visible text, a blank and a rest. -/
theorem visible_or_split (s : Text) :
    (∀ c ∈ s, isBlank c = false) ∨
      ∃ w c y, s = w ++ c :: y ∧ isBlank c = true ∧ ∀ c ∈ w, isBlank c = false := by
  induction s with
  | nil => left; intro c hc; cases hc
  | cons d s ih =>
    cases hd : isBlank d
    · rcases ih with h | ⟨w, c, y, rfl, hc, hw⟩
      · left; intro c hc
        rcases List.mem_cons.1 hc with rfl | hc
        · exact hd
        · exact h c hc
      · refine .inr ⟨d :: w, c, y, rfl, hc, fun e he => ?_⟩
        rcases List.mem_cons.1 he with rfl | he
        · exact hd
        · exact hw e he
    · exact .inr ⟨[], d, s, rfl, hd, fun c hc => by cases hc⟩

theorem BlankSeparated.words {α : Type} {f : Text → List α} (hf : BlankSeparated f) (s : Text) :
    (Text.words s).flatMap f = f s := by
  have visible : ∀ {w : Text}, (∀ c ∈ w, isBlank c = false) → (Text.words w).flatMap f = f w := by
    intro w hw
    by_cases hs : w = []
    · rw [hs, words_nil, hf.nil]; rfl
    · rw [words_of_visible hw hs, List.flatMap_singleton]
  induction hn : s.length using Nat.strong_induction_on generalizing s with
  | _ n ih =>
    rcases visible_or_split s with h | ⟨w, c, y, rfl, hc, hw⟩
    · exact visible h
    · have hy : (Text.words y).flatMap f = f y := ih y.length (by simp at hn; omega) y rfl
      rw [words_append hc, List.flatMap_append, hf.blank w c y hc, hy, visible hw]

/-- Normalizing is invisible to a reading that white space separates. -/
theorem BlankSeparated.normalize {α : Type} {f : Text → List α} (hf : BlankSeparated f) (s : Text) :
    f (Text.normalize s) = f s := by
  rw [← hf.words s]
  refine flatMap_join " " hf.nil (fun a b => ?_) (Text.words s)
  rw [List.append_assoc]
  exact hf.blank a ' ' b (by decide)

theorem mem_words {s w : Text} (h : w ∈ words s) : w ≠ [] ∧ ∀ c ∈ w, isBlank c = false := by
  induction hn : s.length using Nat.strong_induction_on generalizing s with
  | _ n ih =>
    have visible : ∀ {v : Text}, (∀ c ∈ v, isBlank c = false) → w ∈ words v →
        w ≠ [] ∧ ∀ c ∈ w, isBlank c = false := by
      intro v hv hw
      by_cases hs : v = []
      · rw [hs, words_nil] at hw; cases hw
      · rw [words_of_visible hv hs, List.mem_singleton] at hw
        subst hw; exact ⟨hs, hv⟩
    rcases visible_or_split s with hv | ⟨v, c, y, rfl, hc, hv⟩
    · exact visible hv h
    · rw [words_append hc, List.mem_append] at h
      rcases h with h | h
      · exact visible hv h
      · exact ih y.length (by simp at hn; omega) h rfl

theorem trimmed_of_visible {w : Text} (hw : ∀ c ∈ w, isBlank c = false) : Trimmed w :=
  ⟨fun c hc => hw c (List.mem_of_mem_head? hc), fun c hc => hw c (List.mem_of_mem_getLast? hc)⟩

theorem trimmed_join : ∀ {ts : List Text}, (∀ t ∈ ts, t ≠ [] ∧ Trimmed t) → ∀ sep, Trimmed (join sep ts)
  | [], _, sep => ⟨by simp [join_nil], by simp [join_nil]⟩
  | [t], h, sep => by rw [join_singleton]; exact (h t (by simp)).2
  | t :: u :: ts, h, sep => by
    have ih := trimmed_join (fun v hv => h v (List.mem_cons_of_mem t hv)) sep
    have hu : join sep (u :: ts) ≠ [] :=
      join_ne_nil sep (List.cons_ne_nil u ts) fun v hv => (h v (List.mem_cons_of_mem t hv)).1
    rw [join_cons sep t (List.cons_ne_nil u ts)]
    exact (h t (by simp)).2.append ih (h t (by simp)).1 hu _

/-- A normalized text is trimmed. -/
theorem trimmed_normalize (s : Text) : Trimmed (normalize s) :=
  trimmed_join (fun _ ht => ⟨(mem_words ht).1, trimmed_of_visible (mem_words ht).2⟩) " "

/-- White space stands in the text as single spaces. -/
structure Spaced (s : Text) : Prop where
  space : ∀ c ∈ s, isBlank c = true → c = ' '
  single : s.IsChain fun c d => isBlank c = false ∨ isBlank d = false

theorem spaced_of_visible {w : Text} (hw : ∀ c ∈ w, isBlank c = false) : Spaced w := by
  refine ⟨fun c hc h => ?_, List.isChain_iff_forall_rel_of_append_cons_cons.2 ?_⟩
  · rw [hw c hc] at h
    cases h
  · rintro c d a b rfl
    exact .inl (hw c (by simp))

/-- Spaced texts may be put together where one of the two is visible at the joint. -/
theorem Spaced.append {a b : Text} (ha : Spaced a) (hb : Spaced b)
    (hjoint : (∀ c ∈ a.getLast?, isBlank c = false) ∨ ∀ c ∈ b.head?, isBlank c = false) : Spaced (a ++ b) := by
  constructor
  · intro c hc
    exact (List.mem_append.1 hc).elim (ha.space c) (hb.space c)
  · exact List.isChain_append.2 ⟨ha.single, hb.single, fun c hc d hd => hjoint.imp (· c hc) (· d hd)⟩

theorem Spaced.within {a b : Text} (hb : Spaced b) (hab : a <:+: b) : Spaced a := by
  refine ⟨fun c hc => hb.space c (hab.subset hc), ?_⟩
  obtain ⟨u, v, rfl⟩ := hab
  exact (List.isChain_append.1 (List.isChain_append.1 hb.single).1).2.1

theorem spaced_space : Spaced [' '] := ⟨fun _ hc _ => List.mem_singleton.1 hc, List.isChain_singleton _⟩

theorem spaced_join : ∀ {ws : List Text}, (∀ w ∈ ws, w ≠ [] ∧ ∀ c ∈ w, isBlank c = false) → Spaced (join " " ws)
  | [], _ => spaced_of_visible (by simp [join_nil])
  | [w], h => by rw [join_singleton]; exact spaced_of_visible (h w (by simp)).2
  | w :: v :: ws, h => by
    have htail : ∀ u ∈ v :: ws, u ≠ [] ∧ ∀ c ∈ u, isBlank c = false := fun u hu => h u (List.mem_cons_of_mem w hu)
    have htrimmed : Trimmed (join " " (v :: ws)) :=
      trimmed_join (fun u hu => ⟨(htail u hu).1, trimmed_of_visible (htail u hu).2⟩) " "
    have hw : ∀ c ∈ w, isBlank c = false := (h w (by simp)).2
    rw [join_cons " " w (List.cons_ne_nil v ws)]
    exact ((spaced_of_visible hw).append spaced_space (.inl (trimmed_of_visible hw).last)).append (spaced_join htail)
      (.inr htrimmed.first)

theorem spaced_normalize (s : Text) : Spaced (normalize s) := spaced_join fun _ hw => mem_words hw

/-- Between two visible characters of a spaced text there is one space at most. -/
theorem Spaced.run {a y b : Text} (h : Spaced (a ++ y ++ b)) (hy : AllBlank y) : y = [] ∨ y = [' '] := by
  match y, hy with
  | [], _ => exact .inl rfl
  | [c], hy => rw [h.space c (by simp) (hy c (by simp))]; exact .inr rfl
  | c :: d :: y, hy =>
    have hpair := List.isChain_iff_forall_rel_of_append_cons_cons.1 h.single
      (show a ++ c :: d :: y ++ b = a ++ c :: d :: (y ++ b) by simp)
    rw [hy c (by simp), hy d (by simp)] at hpair
    rcases hpair with hc | hd
    · cases hc
    · cases hd

end SensorRegistry.Text
