/-!
# Text at the ends of a text

Prefixes and suffixes are taken off whole and at most once.  Both functions say nothing when the
text does not carry the affix, so the caller decides what a missing one means.
-/

namespace GridFilter.Text

/-- What follows the lead, when the text starts with it. -/
def withoutLead? (lead text : String) : Option String :=
  (lead.toList.isPrefixOf? text.toList).map String.ofList

/-- What precedes the tail, when the text ends with it. -/
def withoutTail? (tail text : String) : Option String :=
  (tail.toList.isSuffixOf? text.toList).map String.ofList

/-- The text without one leading `lead`, or as it is. -/
def dropLead (lead text : String) : String :=
  (withoutLead? lead text).getD text

/-- The text without one closing `tail`, or as it is. -/
def dropTail (tail text : String) : String :=
  (withoutTail? tail text).getD text

/-- The two sides of the first `mark`, when there is one. -/
def splitAtFirst? (mark : Char) : List Char → Option (List Char × List Char)
  | [] => none
  | c :: rest =>
    if c = mark then some ([], rest)
    else (splitAtFirst? mark rest).map fun sides => (c :: sides.1, sides.2)

end GridFilter.Text
