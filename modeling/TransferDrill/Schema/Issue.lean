/-!
# What is wrong with a document

An issue is a complaint and the path to the part it is about. Complaints are causes; their code
and wording are fixed here.
-/

namespace TransferDrill.Schema

/-- One step on the path into a document. -/
inductive Place where
  | member (name : String)
  | item (index : Nat)
deriving DecidableEq, Repr

/-- Why a part of a document is refused. -/
inductive Complaint where
  | missing
  | notString
  | emptyString
  | notInteger
  | unreadableInteger
  | fractionalInteger
  | notFiniteInteger
  | oversizedInteger
  | notNumber
  | unreadableNumber
  | notObject
  | notList
  | emptyList
  | notRecord (title : String)
  | notChoice (labels : List String)
  | below (bound : Int)
  | notAbove (bound : Int)
  | above (bound : Int)
  | inconsistent (reason : String)
deriving DecidableEq, Repr

/-- Choices in quotes, the last one after "or". -/
def listChoices : List String → String
  | [] => ""
  | [label] => s!"'{label}'"
  | [label, last] => s!"'{label}' or '{last}'"
  | label :: other :: rest => s!"'{label}', " ++ listChoices (other :: rest)

namespace Complaint

/-- The code of a complaint. -/
def code : Complaint → String
  | .missing => "missing"
  | .notString => "string_type"
  | .emptyString => "string_too_short"
  | .notInteger => "int_type"
  | .unreadableInteger => "int_parsing"
  | .fractionalInteger => "int_from_float"
  | .notFiniteInteger => "finite_number"
  | .oversizedInteger => "int_parsing_size"
  | .notNumber => "float_type"
  | .unreadableNumber => "float_parsing"
  | .notObject => "dict_type"
  | .notList => "list_type"
  | .emptyList => "too_short"
  | .notRecord _ => "model_type"
  | .notChoice _ => "enum"
  | .below _ => "greater_than_equal"
  | .notAbove _ => "greater_than"
  | .above _ => "less_than_equal"
  | .inconsistent _ => "value_error"

/-- The wording of a complaint. -/
def message : Complaint → String
  | .missing => "Field required"
  | .notString => "Input should be a valid string"
  | .emptyString => "String should have at least 1 character"
  | .notInteger => "Input should be a valid integer"
  | .unreadableInteger => "Input should be a valid integer, unable to parse string as an integer"
  | .fractionalInteger => "Input should be a valid integer, got a number with a fractional part"
  | .notFiniteInteger => "Input should be a finite number"
  | .oversizedInteger => "Unable to parse input string as an integer, exceeded maximum size"
  | .notNumber => "Input should be a valid number"
  | .unreadableNumber => "Input should be a valid number, unable to parse string as a number"
  | .notObject => "Input should be a valid dictionary"
  | .notList => "Input should be a valid list"
  | .emptyList => "List should have at least 1 item after validation, not 0"
  | .notRecord title => s!"Input should be a valid dictionary or instance of {title}"
  | .notChoice labels => s!"Input should be {listChoices labels}"
  | .below bound => s!"Input should be greater than or equal to {bound}"
  | .notAbove bound => s!"Input should be greater than {bound}"
  | .above bound => s!"Input should be less than or equal to {bound}"
  | .inconsistent reason => s!"Value error, {reason}"

end Complaint

/-- A complaint and where it belongs. -/
structure Issue where
  path : List Place
  complaint : Complaint
deriving DecidableEq, Repr

/-- The same issue seen from one level further out. -/
def Issue.under (place : Place) (issue : Issue) : Issue :=
  { issue with path := place :: issue.path }

end TransferDrill.Schema
