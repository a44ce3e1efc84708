import Canvasflow.Data.Json
import Canvasflow.Scene.Path
import Canvasflow.Scene.Stored
import Canvasflow.Settings

/-!
# Scene files

How scenes are read from files and where they are saved. A scene file holds JSON text in UTF-8 and
names the version of its layout, of which only the major number counts: files of a later major
version are refused. `Scene.ofSource` names the first thing that is wrong with a file, and
`FileFault.message?` says it of the path of the file, where it is a defect of the file that can be
told.
-/

namespace Canvasflow.Scene

open Canvasflow.Page

/-- What is found at a path: nothing, something that cannot be read, or bytes. -/
inductive Source where
  | missing
  | refused (number : Nat) (reason : String)
  | content (bytes : ByteArray)

/-- Why no scene is read from a source. -/
inductive FileFault where
  | missing
  | refused (number : Nat) (reason : String)
  | notText
  | blank
  | text (fault : Json.Fault)
  | scene (fault : SceneFault)
  | badVersion (version : String)
  | newerVersion (version : String)
  deriving DecidableEq, Repr

/-- What is said of a defect of the file at a path. Numbers and nesting beyond the limits are not
called defects. -/
def FileFault.message? (path : Path) : FileFault → Option String
  | missing => some ("[Errno 2] No such file or directory: " ++ Text.quoted path.text)
  | refused number reason =>
    some (path.text ++ ": Error reading file: [Errno " ++ toString number ++ "] " ++ reason ++ ": " ++
      Text.quoted path.text)
  | notText => some (path.text ++ ": File encoding error")
  | blank => some (path.text ++ ": File is empty")
  | text .malformed => some (path.text ++ ": Invalid JSON")
  | scene (.invalid defect) => some (path.text ++ ": " ++ defect.message)
  | badVersion version => some (path.text ++ ": Invalid schema version " ++ Text.quoted version)
  | newerVersion version =>
    some (path.text ++ ": Schema version " ++ version ++ " is newer than supported " ++ currentVersion)
  | text .integerTooLong | text .nestedTooDeeply | scene .tooLarge | scene .metadataNotRecord => none

/-- The major number of a version, which stands before its first dot. -/
def major? (version : String) : Option Int :=
  Numeral.int? (String.ofList (version.toList.takeWhile (· ≠ '.')))

/-- The last major number of the files that are read. -/
def supportedMajor : Int := 1

example : major? currentVersion = some supportedMajor := by decide +kernel

/-- Refuse a scene of a later major version. -/
def checkVersion (scene : Scene) : Except FileFault Scene :=
  match major? scene.version with
  | none => .error (.badVersion scene.version)
  | some major => if supportedMajor < major then .error (.newerVersion scene.version) else .ok scene

/-- Read a scene from text at the given time. -/
def ofText (now : Data) (text : String) : Except FileFault Scene :=
  if (Text.trim text).isEmpty then .error .blank
  else do
    let data ← (Json.read text).mapError FileFault.text
    let scene ← (ofData now data).mapError FileFault.scene
    checkVersion scene

/-- Read a scene from a source at the given time. -/
def ofSource (now : Data) : Source → Except FileFault Scene
  | .missing => .error .missing
  | .refused number reason => .error (.refused number reason)
  | .content bytes => match String.fromUTF8? bytes with
    | none => .error .notText
    | some text => ofText now text

/-- The text of a scene file. -/
def toText (scene : Scene) : String :=
  Json.write scene.toData

/-- Where a document is saved when a path is given, and the scene that is written there. The path
gets the ending of scene files, and a scene without a name is named after the file. There is no
such place for a path without names. -/
def toSave? (now : Data) (path : Path) (name : Data) (document : Document) : Option (Path × Scene) := do
  let target ← path.withEnding? Settings.sceneExtension
  let name := if name.isBlank then .str target.stem else name
  return (target, (ofDocument now name document).touch now)

end Canvasflow.Scene
