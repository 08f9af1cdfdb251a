/-
What is wrong with a value, and where.
-/
namespace Paperwork

/-- One step down into a value. -/
inductive Step
  | field (name : String)
  | item (position : Nat)
  deriving DecidableEq, Repr, Inhabited

/-- What is wrong with a value. -/
inductive FaultKind
  | notText
  | notBoolean
  | unreadableBoolean
  | notInteger
  | unreadableInteger
  | integerTooLong
  | fractional
  | notFinite
  | notNumber
  | unreadableNumber
  | notList
  | notObject
  | notRecord
  | noFields
  | unknownKind
  | missingKind
  | refused
  deriving DecidableEq, Repr, Inhabited

/-- A fault and the way to it from the value that is checked. -/
structure Fault where
  kind : FaultKind
  place : List Step
  deriving DecidableEq, Repr, Inhabited

/-- A fault of the part that one more step leads to. -/
def Fault.under (step : Step) (fault : Fault) : Fault :=
  { fault with place := step :: fault.place }

/-- What is wrong, in words. -/
def FaultKind.text : FaultKind → String
  | notText => "should be a text"
  | notBoolean => "should be true or false"
  | unreadableBoolean => "should be true or false, but cannot be read as such"
  | notInteger => "should be an integer"
  | unreadableInteger => "should be an integer, but cannot be read as one"
  | integerTooLong => "is too long for an integer"
  | fractional => "should be an integer, but has a fraction"
  | notFinite => "should be a finite number"
  | notNumber => "should be a number"
  | unreadableNumber => "should be a number, but cannot be read as one"
  | notList => "should be a list"
  | notObject => "should be an object"
  | notRecord => "should be an object with fields of its own"
  | noFields => "should be an object that says its kind"
  | unknownKind => "is of no known kind"
  | missingKind => "does not say its kind"
  | refused => "is not allowed"

/-- The name of a step. -/
def Step.text : Step → String
  | field name => name
  | item position => toString position

/-- A fault in words. -/
def Fault.text (fault : Fault) : String :=
  String.intercalate "." (fault.place.map Step.text) ++ " " ++ fault.kind.text

end Paperwork
