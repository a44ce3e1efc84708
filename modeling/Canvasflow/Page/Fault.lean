import Canvasflow.Text.Quoted

/-!
# Faults of a document

Why a document refuses a change. Each cause carries what its message names.
-/

namespace Canvasflow.Page

/-- Why a document refuses a change. -/
inductive PageFault where
  | shapeExists (id : String)
  | parentNotFound (parent : String)
  | parentNotName
  | shapeNotFound (id : String)
  | connectorNotFound (id : String)
  | notNumber (name type : String)
  | notFinite (name value : String)
  | tooLarge
  | typeChange (id current wanted : String)
  | notRecord (name : String)
  | notConnector (id type connectorType : String)
  | bindingExists (id : String)
  | bindingNotFound (id : String)
  deriving DecidableEq, Repr

namespace PageFault

/-- What is said of a refused change. -/
def message : PageFault → String
  | shapeExists id => "Shape already exists: " ++ id
  | parentNotFound parent => "Parent not found: " ++ parent
  | parentNotName => "A parent must be named by its id"
  | shapeNotFound id => "Shape not found: " ++ id
  | connectorNotFound id => "Connector not found: " ++ id
  | notNumber name type => name ++ " must be a number, got " ++ type
  | notFinite name value => name ++ " must be finite, got " ++ value
  | tooLarge => "A coordinate is beyond the range of doubles"
  | typeChange id current wanted =>
    "Cannot change type of " ++ id ++ " from " ++ current ++ " to " ++ wanted
  | notRecord name => name ++ " must be a record"
  | notConnector id type connectorType => id ++ " is a " ++ type ++ ", not a " ++ connectorType
  | bindingExists id => "Binding already exists: " ++ id
  | bindingNotFound id => "Binding not found: " ++ id

/-- Whether the cause is a shape that is not there. -/
def isMissingShape : PageFault → Bool
  | parentNotFound _ | shapeNotFound _ | connectorNotFound _ => true
  | _ => false

/-- Whether the cause lies in a value that cannot be used at all, and not in the document. -/
def isUnusable : PageFault → Bool
  | parentNotName | tooLarge => true
  | _ => false

end PageFault

end Canvasflow.Page
