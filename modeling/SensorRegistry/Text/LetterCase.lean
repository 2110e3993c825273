/-
Lower case of texts in all scripts.

Each character has its own lower case form, with two exceptions: a capital I with a dot becomes two
characters, and a capital sigma takes its final form at the end of a word.
-/
import SensorRegistry.Text
import SensorRegistry.Text.LetterCaseTable

namespace SensorRegistry.Text

/-- Whether the code point of the character lies in one of the ranges. -/
def inRanges (ranges : List (Nat × Nat)) (c : Char) : Bool :=
  ranges.any fun (first, last) => first ≤ c.toNat && c.toNat ≤ last

/-- The lower case form of a character by itself. -/
def lowerChar (c : Char) : Char :=
  if c.toNat < 0x80 then c.toLower
  else
    match lowerRuns.find? fun (first, last, stride, _) =>
        first ≤ c.toNat && c.toNat ≤ last && (c.toNat - first) % stride == 0 with
    | some (_, _, _, distance) => Char.ofNat ((c.toNat : Int) + distance).toNat
    | none => c

/-- Whether a letter with case comes first, apart from characters that are skipped. -/
def startsCased (s : Text) : Bool :=
  (s.dropWhile (inRanges skippedRanges)).head?.any (inRanges casedRanges)

/-- The lower case form of a text, given the characters in front of it from the last one back. -/
def lowerAfter (before : Text) : Text → Text
  | [] => []
  | c :: rest =>
    let form :=
      if c = '\u03A3' then
        if startsCased before ∧ ¬ startsCased rest then ['\u03C2'] else ['\u03C3']
      else if c = '\u0130' then ['i', '\u0307']
      else [lowerChar c]
    form ++ lowerAfter (c :: before) rest

/-- The lower case form of a text. -/
def lowercase (s : Text) : Text := lowerAfter [] s

end SensorRegistry.Text
