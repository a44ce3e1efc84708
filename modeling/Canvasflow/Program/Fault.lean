import Canvasflow.Text.Quoted

/-!
# Faults of a run

The causes for which a program is stopped, with what its author is told. A failure is a fault of
the program or one of the failures of the conversions below it: an integer beyond the range of
doubles, a text that is no number, a value of the wrong type, or a recursion that goes too deep. A
native function turns all of these but the last into a fault that names the function.
-/

namespace Canvasflow.Program

/-- Why a program is stopped. -/
inductive ProgramFault where
  | notDefined (name : String)
  | alreadyDeclared (name : String)
  | constantAssigned (name : String)
  | notAFunction (described : String)
  | stepBudget (limit : Int)
  | nullMember (name : String)
  | nullIndex
  | cannotApply (op type : String)
  | unknownOperator (symbol : String)
  | notAvailable (space member : String)
  | invalidLength (kind : String) (length : Nat)
  | invalidIndex (index : Int) (length : Nat)
  | cannotSet (key type : String)
  | cannotSpread (type : String)
  | native (name : String)
  | nestedTooDeeply
  | notFinite (key text : String)
  | notPlain (key shown : String)
  | notShapeRecord (type : String)
  | noId
  | metaNotRecord
  deriving DecidableEq, Repr

/-- What a fault tells the author of a program. -/
def ProgramFault.message : ProgramFault → String
  | notDefined name => name ++ " is not defined"
  | alreadyDeclared name => "Identifier " ++ Text.quoted name ++ " has already been declared"
  | constantAssigned name => "Assignment to constant variable " ++ Text.quoted name
  | notAFunction described => described ++ " is not a function"
  | stepBudget limit => "Step budget of " ++ toString limit ++ " exceeded"
  | nullMember name => "Cannot read properties of null (reading " ++ Text.quoted name ++ ")"
  | nullIndex => "Cannot read properties of null"
  | cannotApply op type => "Cannot apply " ++ Text.quoted op ++ " to " ++ type
  | unknownOperator symbol => "Unknown operator " ++ Text.quoted symbol
  | notAvailable space member => space ++ "." ++ member ++ " is not available"
  | invalidLength kind length => "Invalid " ++ kind ++ " length " ++ toString length
  | invalidIndex index length =>
    "Invalid array index " ++ toString index ++ " for array of length " ++ toString length
  | cannotSet key type => "Cannot set property " ++ Text.quoted key ++ " on " ++ type
  | cannotSpread type => "Cannot spread " ++ type ++ " into an object"
  | native name => name
  | nestedTooDeeply => "Program nested too deeply"
  | notFinite key text => key ++ " must be a finite number, got " ++ Text.quoted text
  | notPlain key shown => key ++ " must hold plain data, got " ++ shown
  | notShapeRecord type => "Expected a shape record, got " ++ type
  | noId => "Shape record has no id"
  | metaNotRecord => "Shape meta (m) must be a record"

/-- Why an operation on values fails. -/
inductive Failure where
  | program (fault : ProgramFault)
  | overflow
  | badValue
  | badType
  | tooDeep
  deriving DecidableEq, Repr

/-- A failure inside a native function, as its caller sees it. -/
def Failure.insideNative (name : String) : Failure → Failure
  | program fault => .program fault
  | tooDeep => .tooDeep
  | overflow | badValue | badType => .program (.native name)

/-- A failure of a run, as its starter sees it. -/
def Failure.outOfRun : Failure → Failure
  | tooDeep => .program .nestedTooDeeply
  | other => other

/-- Stop with a fault of the program. -/
def fault {α : Type} (fault : ProgramFault) : Except Failure α :=
  .error (.program fault)

end Canvasflow.Program
