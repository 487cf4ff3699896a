import TaggedCells.Failure

/-!
# Error codes

Callers that only care about the category of an outcome read its code: eight codes with stable
numbers, a short name and a sentence each. Every cause has a code. An overflow is filed under
the range errors, and an unsupported kind under the unknown ones.
-/

set_option autoImplicit false

namespace TaggedCells

/-- The category of an outcome. -/
inductive Code where
  | ok
  | typeMismatch
  | badRange
  | nullInput
  | allocationFailure
  | unknown
  | notFound
  | invalidOperation
  deriving DecidableEq, Repr

namespace Code

/-- Every code, in catalogue order. -/
def all : List Code :=
  [.ok, .typeMismatch, .badRange, .nullInput, .allocationFailure, .unknown, .notFound,
    .invalidOperation]

/-- The number: zero for success, and down from there in catalogue order. -/
def number : Code → Int
  | .ok => 0
  | .typeMismatch => -1
  | .badRange => -2
  | .nullInput => -3
  | .allocationFailure => -4
  | .unknown => -5
  | .notFound => -6
  | .invalidOperation => -7

/-- The code with a given number. -/
def ofNumber? (number : Int) : Option Code := all.find? fun code => code.number == number

/-- The short name. -/
def name : Code → String
  | .ok => "ok"
  | .typeMismatch => "type-mismatch"
  | .badRange => "bad-range"
  | .nullInput => "null-input"
  | .allocationFailure => "allocation-failure"
  | .unknown => "unknown"
  | .notFound => "not-found"
  | .invalidOperation => "invalid-operation"

/-- Reads a code from its short name. -/
def parse (given : String) : Except String Code :=
  Text.parseName all name given

/-- The sentence for readers. -/
def message : Code → String
  | .ok => "Operation completed successfully."
  | .typeMismatch => "Data mismatch error."
  | .badRange => "Out-of-range error."
  | .nullInput => "Null pointer error."
  | .allocationFailure => "Memory allocation error."
  | .unknown => "Unknown error."
  | .notFound => "Element not found error."
  | .invalidOperation => "Invalid operation on the data structure error."

end Code

/-- The category of a cause. -/
def Cause.code : Cause → Code
  | .nullInput _ => .nullInput
  | .typeMismatch _ _ => .typeMismatch
  | .badRange _ _ | .overflow _ => .badRange
  | .allocation => .allocationFailure
  | .notFound => .notFound
  | .invalidOperation _ _ => .invalidOperation
  | .unsupported _ _ | .unknown _ => .unknown

/-- The category of a failure is that of its cause. -/
def Failure.code (failure : Failure) : Code := failure.cause.code

end TaggedCells
