/-!
# Blank characters

Blank is the Unicode property `White_Space`: twenty-five characters in ten ranges.  Everything an
editor or a document hands over is compared after its blank ends are cut off, so the cut is a
function on character lists with a `String` form beside it.
-/

namespace GridFilter.Text

/-- The closed ranges of `White_Space`, ascending and apart. -/
def blankRanges : List (Nat × Nat) :=
  [(0x09, 0x0D), (0x20, 0x20), (0x85, 0x85), (0xA0, 0xA0), (0x1680, 0x1680), (0x2000, 0x200A),
   (0x2028, 0x2029), (0x202F, 0x202F), (0x205F, 0x205F), (0x3000, 0x3000)]

/-- Does the character lie in one of the blank ranges? -/
def isBlank (c : Char) : Bool :=
  blankRanges.any fun range => range.1 ≤ c.toNat && c.toNat ≤ range.2

/-! ## Cutting blank ends -/

/-- The list without its longest end of elements that satisfy `p`. -/
def dropEnd {α : Type} (p : α → Bool) (s : List α) : List α :=
  (s.reverse.dropWhile p).reverse

/-- The characters from the first that is not blank. -/
def trimStart (s : List Char) : List Char :=
  s.dropWhile isBlank

/-- The characters up to the last that is not blank. -/
def trimEnds (s : List Char) : List Char :=
  dropEnd isBlank (trimStart s)

/-- The text without its blank ends. -/
def trim (s : String) : String :=
  String.ofList (trimEnds s.toList)

/-- Is every character of the text blank?  The empty text is. -/
def isAllBlank (s : String) : Bool :=
  s.toList.all isBlank

/-! ## Words -/

/-- The words of a text, where `current` holds the letters read since the last blank, reversed. -/
def wordsFrom (current : List Char) : List Char → List String
  | [] => if current.isEmpty then [] else [String.ofList current.reverse]
  | c :: rest =>
    if isBlank c then
      if current.isEmpty then wordsFrom [] rest
      else String.ofList current.reverse :: wordsFrom [] rest
    else wordsFrom (c :: current) rest

/-- The maximal runs of characters that are not blank, in order. -/
def words (s : String) : List String :=
  wordsFrom [] s.toList

end GridFilter.Text
