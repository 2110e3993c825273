/-
The tokens of a condition, as a database reads them: names, the keywords of conditions, placeholders,
string literals with doubled quotes, operator signs and parentheses. The reading is one pass over the
characters with the token that is being read; it is stated for pieces of text, from one pending token
to the next, so that a text is read piece by piece. A literal apart, a blank ends every token.
-/
import SensorRegistry.Proofs.Sql.Placeholder

namespace SensorRegistry.Sql

/-- The words that are not names in a condition. -/
inductive Keyword
  | not
  | and
  | or
  | is
  | null
  | ilike
  | any
  | escape
  deriving DecidableEq

namespace Keyword

def all : List Keyword := [.not, .and, .or, .is, .null, .ilike, .any, .escape]

/-- The keyword in small letters. -/
def text : Keyword → Text
  | .not => "not".toList
  | .and => "and".toList
  | .or => "or".toList
  | .is => "is".toList
  | .null => "null".toList
  | .ilike => "ilike".toList
  | .any => "any".toList
  | .escape => "escape".toList

/-- The keyword that a word spells, in letters of either case. -/
def ofWord? (word : Text) : Option Keyword := all.find? (·.text == Text.lower word)

end Keyword

inductive Token
  | name (word : Text)
  | keyword (k : Keyword)
  | placeholder (index : Nat)
  | literal (content : Text)
  | sign (s : Text)
  | opening
  | closing
  deriving DecidableEq

/-- A word is a keyword or a name. -/
def Token.ofWord (word : Text) : Token := ((Keyword.ofWord? word).map Token.keyword).getD (.name word)

/-! ## Characters -/

/-- Whether a word can begin with the character. -/
def isWordStart (c : Char) : Bool := c.isAlpha || c == '_' || decide (128 ≤ c.toNat)

def isWordChar (c : Char) : Bool := isWordStart c || c.isDigit || c == '$'

def isSign (c : Char) : Bool := "+-*/<>=~!@#%^&|?".toList.contains c

/-- A text that reads as one name. -/
def IsName (s : Text) : Prop :=
  s.head?.any isWordStart = true ∧ (∀ c ∈ s, isWordChar c = true) ∧ Keyword.ofWord? s = none

instance (s : Text) : Decidable (IsName s) :=
  have : Decidable (∀ c ∈ s, isWordChar c = true) := List.decidableBAll _ s
  inferInstanceAs (Decidable (_ ∧ _ ∧ _))

/-! ## Reading -/

/-- The token that is being read. -/
inductive Pending
  | none
  | word (read : Text)
  | placeholder (digits : Text)
  | sign (read : Text)
  | literal (read : Text)
  /-- A literal behind a quote, which ends it unless another quote follows. -/
  | quoted (read : Text)
  deriving DecidableEq

namespace Pending

/-- The pending token with one more character, if the character belongs to it. -/
def extend? : Pending → Char → Option Pending
  | .none, _ => .none
  | .word read, c => if isWordChar c then some (.word (read ++ [c])) else .none
  | .placeholder digits, c => if c.isDigit then some (.placeholder (digits ++ [c])) else .none
  | .sign read, c => if isSign c then some (.sign (read ++ [c])) else .none
  | .literal read, c => some (if c = '\'' then .quoted read else .literal (read ++ [c]))
  | .quoted read, c => if c = '\'' then some (.literal (read ++ [c])) else .none

/-- The pending token as a token, unless it lacks its end. -/
def finish? : Pending → Option (List Token)
  | .none => some []
  | .word read => some [.ofWord read]
  | .placeholder digits => if digits.isEmpty then .none else some [.placeholder (Nat.ofDigitChars 10 digits 0)]
  | .sign read => some [.sign read]
  | .literal _ => .none
  | .quoted read => some [.literal read]

/-- What a character begins: a token that is complete with it, or a pending one. -/
def start? (c : Char) : Option (List Token × Pending) :=
  if c.isWhitespace then some ([], .none)
  else if c = '(' then some ([.opening], .none)
  else if c = ')' then some ([.closing], .none)
  else if c = '\'' then some ([], .literal [])
  else if c = '$' then some ([], .placeholder [])
  else if isWordStart c then some ([], .word [c])
  else if isSign c then some ([], .sign [c])
  else .none

end Pending

/-- The tokens of a text behind a pending token, and the token that is pending at its end. -/
def scanTokens : Pending → Text → Option (List Token × Pending)
  | p, [] => some ([], p)
  | p, c :: rest =>
    match p.extend? c with
    | some q => scanTokens q rest
    | none => do
      let ts ← p.finish?
      let (us, q) ← Pending.start? c
      let (vs, r) ← scanTokens q rest
      return (ts ++ us ++ vs, r)

/-- The tokens of a text. -/
def tokens? (s : Text) : Option (List Token) := do
  let (ts, p) ← scanTokens .none s
  let us ← p.finish?
  return ts ++ us

/-- From one pending token to the other the text reads as these tokens. -/
def Scans (p : Pending) (s : Text) (ts : List Token) (q : Pending) : Prop := scanTokens p s = some (ts, q)

instance (p : Pending) (s : Text) (ts : List Token) (q : Pending) : Decidable (Scans p s ts q) :=
  inferInstanceAs (Decidable (_ = _))

theorem Scans.nil (p : Pending) : Scans p [] [] p := rfl

theorem Scans.extend {p q r : Pending} {c : Char} {s : Text} {ts : List Token} (hc : p.extend? c = some q)
    (h : Scans q s ts r) : Scans p (c :: s) ts r := by
  unfold Scans
  rw [scanTokens, hc]
  exact h

theorem Scans.start {p q r : Pending} {c : Char} {s : Text} {ts us vs : List Token} (hc : p.extend? c = none)
    (hp : p.finish? = some ts) (hs : Pending.start? c = some (us, q)) (h : Scans q s vs r) :
    Scans p (c :: s) (ts ++ us ++ vs) r := by
  unfold Scans at *
  rw [scanTokens, hc]
  simp [hp, hs, h]

theorem Scans.append {p q r : Pending} {a b : Text} {ts us : List Token} (ha : Scans p a ts q) (hb : Scans q b us r) :
    Scans p (a ++ b) (ts ++ us) r := by
  -- on the first text, whatever is pending in front of it
  induction a generalizing p ts with
  | nil => cases ha; exact hb
  | cons c a ih =>
    unfold Scans at ha
    rw [scanTokens] at ha
    cases hc : p.extend? c with
    | some p' =>
      rw [hc] at ha
      exact (ih ha).extend hc
    | none =>
      rw [hc] at ha
      dsimp only at ha
      obtain ⟨vs, hvs, ha⟩ := Option.bind_eq_some_iff.1 ha
      obtain ⟨⟨ws, p'⟩, hws, ha⟩ := Option.bind_eq_some_iff.1 ha
      obtain ⟨⟨xs, q'⟩, hxs, ha⟩ := Option.bind_eq_some_iff.1 ha
      cases ha
      rw [List.append_assoc (vs ++ ws)]
      exact Scans.start hc hvs hws (ih hxs)

theorem tokens?_eq_some_iff {s : Text} {ts : List Token} :
    tokens? s = some ts ↔ ∃ us p vs, Scans .none s us p ∧ p.finish? = some vs ∧ ts = us ++ vs := by
  unfold tokens? Scans
  constructor
  · intro h
    obtain ⟨⟨us, p⟩, hs, h⟩ := Option.bind_eq_some_iff.1 h
    obtain ⟨vs, hvs, h⟩ := Option.bind_eq_some_iff.1 h
    cases h
    exact ⟨us, p, vs, hs, hvs, rfl⟩
  · rintro ⟨us, p, vs, hs, hvs, rfl⟩
    simp [hs, hvs]

/-- A blank ends every token that can end. -/
theorem Scans.blank {p : Pending} {ts : List Token} (hp : p.finish? = some ts) : Scans p [' '] ts .none := by
  have hnone : p.extend? ' ' = none := by
    cases p with
    | literal read => cases hp
    | _ => rfl
  have hblank : Pending.start? ' ' = some ([], .none) := by decide
  have h := Scans.start hnone hp hblank (Scans.nil .none)
  rwa [List.append_nil, List.append_nil] at h

/-! ## Names and placeholders -/

theorem isWordStart_first {c : Char} (h : isWordStart c = true) : Pending.start? c = some ([], .word [c]) := by
  have apart : ∀ d : Char, isWordStart d = false → c ≠ d := by
    rintro d hd rfl
    rw [hd] at h
    cases h
  have hblank : c.isWhitespace = false := by
    rw [Bool.eq_false_iff]
    intro hb
    have hcases : c = ' ' ∨ c = '\t' ∨ c = '\r' ∨ c = '\n' := by simpa [Char.isWhitespace, or_assoc] using hb
    rcases hcases with rfl | rfl | rfl | rfl <;> revert h <;> decide
  simp [Pending.start?, hblank, h, apart '(' (by decide), apart ')' (by decide), apart '\'' (by decide),
    apart '$' (by decide)]

theorem scans_wordChars {s : Text} (h : ∀ c ∈ s, isWordChar c = true) (read : Text) :
    Scans (.word read) s [] (.word (read ++ s)) := by
  induction s generalizing read with
  | nil => rw [List.append_nil]; exact .nil _
  | cons c s ih =>
    have hc : (Pending.word read).extend? c = some (.word (read ++ [c])) := if_pos (h c List.mem_cons_self)
    have := ih (fun d hd => h d (List.mem_cons_of_mem c hd)) (read ++ [c])
    rw [List.append_assoc] at this
    exact this.extend hc

theorem IsName.scans {column : Text} (h : IsName column) : Scans .none column [] (.word column) := by
  obtain ⟨hstart, hchars, -⟩ := h
  cases column with
  | nil => cases hstart
  | cons c s =>
    have hrest := scans_wordChars (fun d hd => hchars d (List.mem_cons_of_mem c hd)) [c]
    show Scans .none (c :: s) ([] ++ [] ++ []) (.word (c :: s))
    exact Scans.start rfl rfl (isWordStart_first hstart) hrest

theorem IsName.finish {column : Text} (h : IsName column) : (Pending.word column).finish? = some [.name column] := by
  rw [Pending.finish?, Token.ofWord, h.2.2]
  rfl

theorem scans_digits {s : Text} (h : ∀ c ∈ s, c.isDigit = true) (digits : Text) :
    Scans (.placeholder digits) s [] (.placeholder (digits ++ s)) := by
  induction s generalizing digits with
  | nil => rw [List.append_nil]; exact .nil _
  | cons c s ih =>
    have hc : (Pending.placeholder digits).extend? c = some (.placeholder (digits ++ [c])) :=
      if_pos (h c List.mem_cons_self)
    have := ih (fun d hd => h d (List.mem_cons_of_mem c hd)) (digits ++ [c])
    rw [List.append_assoc] at this
    exact this.extend hc

theorem finish_ofNat (n : Nat) : (Pending.placeholder (Text.ofNat n)).finish? = some [.placeholder n] := by
  have hne : (Text.ofNat n).isEmpty = false := List.isEmpty_eq_false_iff.2 Nat.toDigits_ne_nil
  rw [Pending.finish?, hne, Text.ofNat, Nat.ofDigitChars_ten_toDigits]
  rfl

/-- A placeholder is read behind anything that its `$` does not belong to. -/
theorem scans_write {p : Pending} {ts : List Token} (hc : p.extend? '$' = none) (hp : p.finish? = some ts) (n : Nat) :
    Scans p (Placeholder.write n) ts (.placeholder (Text.ofNat n)) := by
  have hdigits := scans_digits (fun c hc => Text.isDigit_of_mem_ofNat (n := n) hc) []
  have hdollar : Pending.start? '$' = some ([], .placeholder []) := by decide
  have h := Scans.start hc hp hdollar hdigits
  rwa [List.append_nil, List.append_nil] at h

end SensorRegistry.Sql
