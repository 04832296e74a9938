import AccessControl.Attribute.Value
import AccessControl.Text.Order

/-!
Comparing attribute values. A comparison has an answer only where the kinds of the two values fit
it: equality needs one kind, an order needs two numbers or two texts, and only texts and lists
contain anything. Inside lists, values of different kinds are merely unequal.
-/

namespace AccessControl

inductive Comparison where
  | equals
  | notEquals
  | greaterThan
  | greaterThanOrEqual
  | lessThan
  | lessThanOrEqual
  | contains
  | notContains
  | beginsWith
  | endsWith
deriving DecidableEq, Inhabited

namespace AttributeValue

mutual

/-- The two values agree in kind and content; numbers agree as doubles do, so NaN agrees with
nothing. -/
def agrees : AttributeValue → AttributeValue → Bool
  | .boolean a, .boolean b => a == b
  | .number a, .number b => a == b
  | .text a, .text b => a == b
  | .list as, .list bs => agreesList as bs
  | _, _ => false

def agreesList : List AttributeValue → List AttributeValue → Bool
  | [], [] => true
  | a :: as, b :: bs => agrees a b && agreesList as bs
  | _, _ => false

end

/-- Whether two values of one kind agree. -/
def equal? : AttributeValue → AttributeValue → Option Bool
  | .boolean a, .boolean b => some (agrees (.boolean a) (.boolean b))
  | .number a, .number b => some (agrees (.number a) (.number b))
  | .text a, .text b => some (agrees (.text a) (.text b))
  | .list as, .list bs => some (agrees (.list as) (.list bs))
  | _, _ => none

/-- Which of two values comes first. NaN has no place in the order of numbers. -/
def order? : AttributeValue → AttributeValue → Option Ordering
  | .number a, .number b =>
    if a < b then some .lt else if a == b then some .eq else if b < a then some .gt else none
  | .text a, .text b =>
    some (if Text.less a b then .lt else if Text.less b a then .gt else .eq)
  | _, _ => none

/-- A text contains its parts, a list the values that agree with an item. -/
def contain? : AttributeValue → AttributeValue → Option Bool
  | .text a, .text b => some (Text.contains a b)
  | .list items, value => some (items.any fun item => agrees item value)
  | _, _ => none

def beginWith? : AttributeValue → AttributeValue → Option Bool
  | .text a, .text b => some (Text.startsWith a b)
  | _, _ => none

def endWith? : AttributeValue → AttributeValue → Option Bool
  | .text a, .text b => some (Text.endsWith a b)
  | _, _ => none

end AttributeValue

namespace Comparison

def all : List Comparison :=
  [.equals, .notEquals, .greaterThan, .greaterThanOrEqual, .lessThan, .lessThanOrEqual, .contains,
    .notContains, .beginsWith, .endsWith]

def word : Comparison → String
  | .equals => "EQUALS"
  | .notEquals => "NOT_EQUALS"
  | .greaterThan => "GREATER_THAN"
  | .greaterThanOrEqual => "GREATER_THAN_OR_EQUAL"
  | .lessThan => "LESS_THAN"
  | .lessThanOrEqual => "LESS_THAN_OR_EQUAL"
  | .contains => "CONTAINS"
  | .notContains => "NOT_CONTAINS"
  | .beginsWith => "BEGINS_WITH"
  | .endsWith => "ENDS_WITH"

/-- How a comparison is written between its two sides. -/
def symbol : Comparison → String
  | .equals => "=="
  | .notEquals => "!="
  | .greaterThan => ">"
  | .greaterThanOrEqual => ">="
  | .lessThan => "<"
  | .lessThanOrEqual => "<="
  | .contains => "contains"
  | .notContains => "does not contain"
  | .beginsWith => "begins with"
  | .endsWith => "ends with"

/-- The name of a comparison among the operators of a query builder. -/
def operatorName : Comparison → String
  | .equals => "equal"
  | .notEquals => "not_equal"
  | .greaterThan => "greater"
  | .greaterThanOrEqual => "greater_or_equal"
  | .lessThan => "less"
  | .lessThanOrEqual => "less_or_equal"
  | .contains => "contains"
  | .notContains => "not_contains"
  | .beginsWith => "begins_with"
  | .endsWith => "ends_with"

/-- The comparison with an operator name. -/
def ofOperatorName? (name : String) : Option Comparison :=
  all.find? fun f => f.operatorName == name

def words : List (String × Comparison) :=
  all.map fun f => (f.word, f)

def toJson (f : Comparison) : Json :=
  .text f.word

def ofJson? (place : Json.Place) (j : Json) : Option Comparison :=
  Json.oneOf? place words j

/-- The answer of a comparison, where the kinds of the values allow one. -/
def apply (f : Comparison) (a b : AttributeValue) : Option Bool :=
  match f with
  | .equals => a.equal? b
  | .notEquals => (a.equal? b).map not
  | .greaterThan => (a.order? b).map (· == .gt)
  | .greaterThanOrEqual => (a.order? b).map (· != .lt)
  | .lessThan => (a.order? b).map (· == .lt)
  | .lessThanOrEqual => (a.order? b).map (· != .gt)
  | .contains => a.contain? b
  | .notContains => (a.contain? b).map not
  | .beginsWith => a.beginWith? b
  | .endsWith => a.endWith? b

end Comparison

end AccessControl
