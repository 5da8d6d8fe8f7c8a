/-!
# Settings of the query layer

Two conventions of the query layer that conditions are sent to.
-/

namespace GridFilter

/-- What the query layer expects around patterns. -/
structure FilterSettings where
  /-- What the name of a shadow attribute has after that of the attribute itself. -/
  nameSuffix : String := "name"
  /-- The mark that stands for any text in a pattern. -/
  wildcard : String := "%"
  deriving DecidableEq, Repr, Inhabited

end GridFilter
