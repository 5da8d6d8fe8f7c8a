import GridFilter.Text.Blank

/-!
# Record ids

A record is named by a GUID.  Ids compare without regard to the case of ASCII letters and may
arrive wrapped in braces and blanks; `normal` is the form in which they are compared and sent.
-/

namespace GridFilter.RecordId

/-- The text without leading braces `{` and closing braces `}`. -/
def stripBraces (s : List Char) : List Char :=
  Text.dropEnd (· == '}') (s.dropWhile (· == '{'))

/-- ASCII letters in lower case, everything else as it is. -/
def lowered (s : List Char) : List Char :=
  s.map Char.toLower

/-- The form in which ids are compared: no blank ends, no braces, ASCII letters in lower case. -/
def normalChars (s : List Char) : List Char :=
  lowered (stripBraces (Text.trimEnds s))

/-- The form in which ids are compared: no blank ends, no braces, ASCII letters in lower case. -/
def normal (id : String) : String :=
  String.ofList (normalChars id.toList)

/-- An opening or a closing brace. -/
def isBrace (c : Char) : Bool :=
  c == '{' || c == '}'

/-- The text without braces of either kind at either end. -/
def bareChars (s : List Char) : List Char :=
  Text.dropEnd isBrace (s.dropWhile isBrace)

/-! ## The GUID grammar -/

/-- A hexadecimal digit of either case. -/
def isHexDigit (c : Char) : Bool :=
  c.isDigit || ('a' ≤ c && c ≤ 'f') || ('A' ≤ c && c ≤ 'F')

/-- Eight, four, four, four and twelve hexadecimal digits joined by hyphens. -/
def isHyphenated (s : List Char) : Bool :=
  s.length == 36 &&
    s.zipIdx.all fun entry =>
      if entry.2 == 8 || entry.2 == 13 || entry.2 == 18 || entry.2 == 23 then entry.1 == '-'
      else isHexDigit entry.1

/-- Thirty-two hexadecimal digits. -/
def isCompact (s : List Char) : Bool :=
  s.length == 32 && s.all isHexDigit

/-- The scheme that may stand before a hyphenated GUID, in letters of either case. -/
def scheme : List Char :=
  "urn:uuid:".toList

/-- The texts that name a record: a GUID compact or hyphenated, the latter also in one pair of
braces or after its scheme. -/
def isGuid (s : List Char) : Bool :=
  isCompact s || isHyphenated s ||
    (s.head? == some '{' && s.getLast? == some '}' && isHyphenated (s.drop 1).dropLast) ||
    (lowered (s.take scheme.length) == scheme && isHyphenated (s.drop scheme.length))

end GridFilter.RecordId
