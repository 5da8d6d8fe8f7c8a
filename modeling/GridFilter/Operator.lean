/-!
# Condition operators

The comparison operators of the query layer, each with the fixed code it has there, and the
category that decides what sort of value it takes.  `catalog` lists them in the order of their
codes.
-/

namespace GridFilter

/-- A comparison operator of the query layer. -/
inductive Operator where
  | equal
  | doesNotEqual
  | greaterThan
  | lessThan
  | greaterThanOrEqual
  | lessThanOrEqual
  | like
  | notLike
  | isIn
  | notIn
  | between
  | notBetween
  | doesNotContainData
  | containsData
  | yesterday
  | today
  | tomorrow
  | last7Days
  | next7Days
  | lastWeek
  | thisWeek
  | nextWeek
  | lastMonth
  | thisMonth
  | nextMonth
  | on
  | onOrBefore
  | onOrAfter
  | lastYear
  | thisYear
  | nextYear
  | lastXHours
  | nextXHours
  | lastXDays
  | nextXDays
  | lastXWeeks
  | nextXWeeks
  | lastXMonths
  | nextXMonths
  | lastXYears
  | nextXYears
  | equalUserId
  | notEqualUserId
  | equalBusinessId
  | notEqualBusinessId
  | childOf
  | equalUserLanguage
  | notOn
  | olderThanXMonths
  | beginsWith
  | doesNotBeginWith
  | endsWith
  | doesNotEndWith
  | under
  | notUnder
  | underOrEqual
  | above
  | aboveOrEqual
  | containValues
  | doesNotContainValues
  deriving DecidableEq, Repr, Inhabited

namespace Operator

/-- What sort of value an operator takes. -/
inductive Category where
  /-- One exact value. -/
  | equality
  /-- One value on an ordered scale. -/
  | comparison
  /-- A text with wildcards around it. -/
  | pattern
  /-- No value: is there anything at all? -/
  | nullCheck
  /-- No value: a period around today. -/
  | relativeDate
  /-- A count of hours, days, weeks, months or years. -/
  | relativeCount
  /-- Two bounds, either of which may be open. -/
  | range
  /-- Several values. -/
  | multiValue
  /-- Known in expressions, never edited. -/
  | other
  deriving DecidableEq, Repr

/-- The operators in the order of their codes. -/
def catalog : List Operator :=
  [equal, doesNotEqual, greaterThan, lessThan, greaterThanOrEqual, lessThanOrEqual, like, notLike,
   isIn, notIn, between, notBetween, doesNotContainData, containsData, yesterday, today, tomorrow,
   last7Days, next7Days, lastWeek, thisWeek, nextWeek, lastMonth, thisMonth, nextMonth, on,
   onOrBefore, onOrAfter, lastYear, thisYear, nextYear, lastXHours, nextXHours, lastXDays,
   nextXDays, lastXWeeks, nextXWeeks, lastXMonths, nextXMonths, lastXYears, nextXYears,
   equalUserId, notEqualUserId, equalBusinessId, notEqualBusinessId, childOf, equalUserLanguage,
   notOn, olderThanXMonths, beginsWith, doesNotBeginWith, endsWith, doesNotEndWith, under,
   notUnder, underOrEqual, above, aboveOrEqual, containValues, doesNotContainValues]

/-- The code an operator has in expressions. -/
def code : Operator → Nat
  | equal => 0
  | doesNotEqual => 1
  | greaterThan => 2
  | lessThan => 3
  | greaterThanOrEqual => 4
  | lessThanOrEqual => 5
  | like => 6
  | notLike => 7
  | isIn => 8
  | notIn => 9
  | between => 10
  | notBetween => 11
  | doesNotContainData => 12
  | containsData => 13
  | yesterday => 14
  | today => 15
  | tomorrow => 16
  | last7Days => 17
  | next7Days => 18
  | lastWeek => 19
  | thisWeek => 20
  | nextWeek => 21
  | lastMonth => 22
  | thisMonth => 23
  | nextMonth => 24
  | on => 25
  | onOrBefore => 26
  | onOrAfter => 27
  | lastYear => 28
  | thisYear => 29
  | nextYear => 30
  | lastXHours => 31
  | nextXHours => 32
  | lastXDays => 33
  | nextXDays => 34
  | lastXWeeks => 35
  | nextXWeeks => 36
  | lastXMonths => 37
  | nextXMonths => 38
  | lastXYears => 39
  | nextXYears => 40
  | equalUserId => 41
  | notEqualUserId => 42
  | equalBusinessId => 43
  | notEqualBusinessId => 44
  | childOf => 45
  | equalUserLanguage => 51
  | notOn => 52
  | olderThanXMonths => 53
  | beginsWith => 54
  | doesNotBeginWith => 55
  | endsWith => 56
  | doesNotEndWith => 57
  | under => 75
  | notUnder => 76
  | underOrEqual => 77
  | above => 78
  | aboveOrEqual => 79
  | containValues => 87
  | doesNotContainValues => 88

/-- The operator of a code. -/
def ofCode? (code : Nat) : Option Operator :=
  catalog.find? fun operator => operator.code == code

/-- The name an operator is shown under. -/
def name : Operator → String
  | equal => "Equal"
  | doesNotEqual => "DoesNotEqual"
  | greaterThan => "GreaterThan"
  | lessThan => "LessThan"
  | greaterThanOrEqual => "GreaterThanOrEqual"
  | lessThanOrEqual => "LessThanOrEqual"
  | like => "Like"
  | notLike => "NotLike"
  | isIn => "In"
  | notIn => "NotIn"
  | between => "Between"
  | notBetween => "NotBetween"
  | doesNotContainData => "DoesNotContainData"
  | containsData => "ContainsData"
  | yesterday => "Yesterday"
  | today => "Today"
  | tomorrow => "Tomorrow"
  | last7Days => "Last7Days"
  | next7Days => "Next7Days"
  | lastWeek => "LastWeek"
  | thisWeek => "ThisWeek"
  | nextWeek => "NextWeek"
  | lastMonth => "LastMonth"
  | thisMonth => "ThisMonth"
  | nextMonth => "NextMonth"
  | on => "On"
  | onOrBefore => "OnOrBefore"
  | onOrAfter => "OnOrAfter"
  | lastYear => "LastYear"
  | thisYear => "ThisYear"
  | nextYear => "NextYear"
  | lastXHours => "LastXHours"
  | nextXHours => "NextXHours"
  | lastXDays => "LastXDays"
  | nextXDays => "NextXDays"
  | lastXWeeks => "LastXWeeks"
  | nextXWeeks => "NextXWeeks"
  | lastXMonths => "LastXMonths"
  | nextXMonths => "NextXMonths"
  | lastXYears => "LastXYears"
  | nextXYears => "NextXYears"
  | equalUserId => "EqualUserId"
  | notEqualUserId => "NotEqualUserId"
  | equalBusinessId => "EqualBusinessId"
  | notEqualBusinessId => "NotEqualBusinessId"
  | childOf => "ChildOf"
  | equalUserLanguage => "EqualUserLanguage"
  | notOn => "NotOn"
  | olderThanXMonths => "OlderThanXMonths"
  | beginsWith => "BeginsWith"
  | doesNotBeginWith => "DoesNotBeginWith"
  | endsWith => "EndsWith"
  | doesNotEndWith => "DoesNotEndWith"
  | under => "Under"
  | notUnder => "NotUnder"
  | underOrEqual => "UnderOrEqual"
  | above => "Above"
  | aboveOrEqual => "AboveOrEqual"
  | containValues => "ContainValues"
  | doesNotContainValues => "DoesNotContainValues"

/-- The category of an operator. -/
def category : Operator → Category
  | equal | doesNotEqual => .equality
  | greaterThan | lessThan | greaterThanOrEqual | lessThanOrEqual => .comparison
  | on | onOrBefore | onOrAfter | notOn => .comparison
  | like | notLike | beginsWith | doesNotBeginWith | endsWith | doesNotEndWith => .pattern
  | isIn | notIn | containValues | doesNotContainValues => .multiValue
  | between | notBetween => .range
  | doesNotContainData | containsData => .nullCheck
  | yesterday | today | tomorrow | last7Days | next7Days => .relativeDate
  | lastWeek | thisWeek | nextWeek | lastMonth | thisMonth | nextMonth => .relativeDate
  | lastYear | thisYear | nextYear => .relativeDate
  | lastXHours | nextXHours | lastXDays | nextXDays | lastXWeeks | nextXWeeks => .relativeCount
  | lastXMonths | nextXMonths | lastXYears | nextXYears | olderThanXMonths => .relativeCount
  | equalUserId | notEqualUserId | equalBusinessId | notEqualBusinessId => .other
  | childOf | equalUserLanguage => .other
  | under | notUnder | underOrEqual | above | aboveOrEqual => .other

/-- The name of a category. -/
def Category.name : Category → String
  | equality => "Equality"
  | comparison => "Comparison"
  | pattern => "Pattern"
  | nullCheck => "NullCheck"
  | relativeDate => "RelativeDate"
  | relativeCount => "RelativeCount"
  | range => "Range"
  | multiValue => "MultiValue"
  | other => "Other"

/-! ## Questions -/

/-- The operator takes no value. -/
def isValueless (operator : Operator) : Bool :=
  match operator.category with
  | .nullCheck | .relativeDate | .other => true
  | _ => false

/-- The operator compares with a pattern. -/
def isPattern (operator : Operator) : Bool :=
  operator.category == .pattern

/-- The operator takes two bounds. -/
def isRange (operator : Operator) : Bool :=
  operator.category == .range

/-- The operator takes a count. -/
def isCount (operator : Operator) : Bool :=
  operator.category == .relativeCount

/-- The operator takes one exact value or several. -/
def takesList (operator : Operator) : Bool :=
  operator.category == .equality || operator.category == .multiValue

/-- The sides on which a pattern has a wildcard: before the text, after it. -/
def wildcardSides : Operator → Bool × Bool
  | like | notLike => (true, true)
  | beginsWith | doesNotBeginWith => (false, true)
  | endsWith | doesNotEndWith => (true, false)
  | _ => (false, false)

/-- The operator that asks the same of several values. -/
def multiValued? : Operator → Option Operator
  | equal => some isIn
  | doesNotEqual => some notIn
  | _ => none

/-- The operator an editor shows for one that takes several values. -/
def singleValued? : Operator → Option Operator
  | isIn => some equal
  | notIn => some doesNotEqual
  | _ => none

/-! ## Families -/

/-- Operators of one family take values of one shape, so a value can move between them. -/
inductive Family where
  | exact
  | text
  | range
  | count
  deriving DecidableEq, Repr

/-- The name of a family. -/
def Family.name : Family → String
  | exact => "Exact"
  | text => "Text"
  | range => "Range"
  | count => "Count"

/-- The family of an operator; one that takes no value has none. -/
def family? (operator : Operator) : Option Family :=
  match operator.category with
  | .equality | .comparison | .multiValue => some .exact
  | .pattern => some .text
  | .range => some .range
  | .relativeCount => some .count
  | .nullCheck | .relativeDate | .other => none

end Operator

end GridFilter
