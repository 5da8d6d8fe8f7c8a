import GridFilter.Column
import GridFilter.Operator

/-!
# Operators on offer

Each kind of column offers its own operators, in the order in which an editor lists them.  An
operator outside the menu of a kind is read and carried along, and never accepted.
-/

namespace GridFilter

namespace ColumnKind

/-- The operators an editor offers for a kind, in the order of its list. -/
def operators : ColumnKind → List Operator
  | text | optionSet | lookup =>
    [.equal, .doesNotEqual, .like, .notLike, .beginsWith, .doesNotBeginWith, .endsWith,
     .doesNotEndWith, .containsData, .doesNotContainData]
  | number =>
    [.equal, .doesNotEqual, .greaterThan, .greaterThanOrEqual, .lessThan, .lessThanOrEqual,
     .between, .notBetween, .containsData, .doesNotContainData]
  | date =>
    [.equal, .doesNotEqual, .on, .notOn, .onOrBefore, .onOrAfter, .greaterThan,
     .greaterThanOrEqual, .lessThan, .lessThanOrEqual, .between, .notBetween, .yesterday, .today,
     .tomorrow, .last7Days, .next7Days, .lastWeek, .thisWeek, .nextWeek, .lastMonth, .thisMonth,
     .nextMonth, .lastYear, .thisYear, .nextYear, .lastXHours, .nextXHours, .lastXDays,
     .nextXDays, .lastXWeeks, .nextXWeeks, .lastXMonths, .nextXMonths, .lastXYears, .nextXYears,
     .olderThanXMonths, .containsData, .doesNotContainData]
  | multiSelectOptionSet =>
    [.equal, .doesNotEqual, .containValues, .doesNotContainValues, .containsData,
     .doesNotContainData]
  | file => [.containsData, .doesNotContainData]

/-- Does the menu of a kind list the operator? -/
def supports (kind : ColumnKind) (operator : Operator) : Bool :=
  kind.operators.contains operator

/-- On these kinds one value and several are asked for by different operators, and the editor shows
the one for a single value. -/
def rewritesMultiValue : ColumnKind → Bool
  | optionSet | multiSelectOptionSet | lookup => true
  | text | number | date | file => false

end ColumnKind

end GridFilter
