import AccessorGen.Unicode

/-! Text as a list of characters: trimming, cutting at a character, and byte offsets. -/

namespace AccessorGen.Text

/-- The text without the blanks at its end. -/
def trimEnd (s : List Char) : List Char :=
  (s.reverse.dropWhile Unicode.isBlank).reverse

/-- The text without the blanks at its two ends. -/
def trim (s : List Char) : List Char :=
  trimEnd (s.dropWhile Unicode.isBlank)

/-- The pieces between the occurrences of `sep`. There is always one more than there are
occurrences. -/
def segments (sep : Char) : List Char → List (List Char)
  | [] => [[]]
  | c :: s =>
    match segments sep s with
    | [] => [[c]]
    | piece :: pieces => if c = sep then [] :: piece :: pieces else (c :: piece) :: pieces

/-- How many bytes the text takes in UTF-8. -/
def byteLength : List Char → Nat
  | [] => 0
  | c :: s => c.utf8Size + byteLength s

/-- The byte offset of the first occurrence of `c`. -/
def offsetOf? (c : Char) (s : List Char) : Option Nat :=
  if c ∈ s then some (byteLength (s.takeWhile (· ≠ c))) else none

/-- The text before and after a byte offset; there is none inside a character or past the end. -/
def splitAtByte? : Nat → List Char → Option (List Char × List Char)
  | 0, s => some ([], s)
  | _ + 1, [] => none
  | n + 1, c :: s =>
    if c.utf8Size ≤ n + 1 then
      (splitAtByte? (n + 1 - c.utf8Size) s).map fun (before, after) => (c :: before, after)
    else none

end AccessorGen.Text
