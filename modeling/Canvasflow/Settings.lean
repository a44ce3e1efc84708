import Canvasflow.Data.Json

/-!
# Settings

The tunables of the canvas, in three sections. A settings record may name some of them; the others
keep their defaults, and names that are not known are ignored. Values are taken as they are; only
when the settings are written do the two lists of shape types have to be sequences. Every section
has three more names, which are no tunables: one stands for the whole table of the section, and two
cannot be set.
-/

namespace Canvasflow

/-- The tunables. A list of shape types is missing after the table of its section was replaced by
one without it. -/
structure Settings where
  frameInterval : Data
  maxDelta : Data
  maxCascadeDepth : Data
  maxProgramSteps : Data
  connectorType : Data
  groupType : Data
  clickTargetTypes : Option Data
  closedShapeTypes : Option Data
  okColor : Data
  errorColor : Data
  cellSize : Data
  deriving Inhabited

/-- Why settings cannot be read or written: a value of the wrong type, a section that is not a
record or does not have what is asked of it, or a text that nests too deeply. -/
inductive SettingsFault where
  | wrongType
  | sectionNotRecord
  | nestedTooDeeply
  deriving DecidableEq, Repr

namespace Settings

/-- The defaults. -/
def defaults : Settings where
  frameInterval := .int 16
  maxDelta := .double 100.0
  maxCascadeDepth := .int 64
  maxProgramSteps := .int 10000
  connectorType := .str "arrow"
  groupType := .str "group"
  clickTargetTypes := some (.list [.str "geo"])
  closedShapeTypes := some (.list [.str "geo"])
  okColor := .str "black"
  errorColor := .str "orange"
  cellSize := .double 256.0

/-- The ending of the names of scene files. -/
def sceneExtension : String := ".funcarrows"

/-- Set a tunable by its section and its name. A list of shape types that is missing stays so. -/
def put (settings : Settings) (part key : String) (value : Data) : Settings :=
  match part, key with
  | "timing", "frame_interval_ms" => { settings with frameInterval := value }
  | "timing", "max_delta_ms" => { settings with maxDelta := value }
  | "propagation", "max_cascade_depth" => { settings with maxCascadeDepth := value }
  | "propagation", "max_program_steps" => { settings with maxProgramSteps := value }
  | "propagation", "connector_type" => { settings with connectorType := value }
  | "propagation", "group_type" => { settings with groupType := value }
  | "propagation", "click_target_types" =>
    { settings with clickTargetTypes := settings.clickTargetTypes.map fun _ => value }
  | "propagation", "closed_shape_types" =>
    { settings with closedShapeTypes := settings.closedShapeTypes.map fun _ => value }
  | "propagation", "ok_color" => { settings with okColor := value }
  | "propagation", "error_color" => { settings with errorColor := value }
  | "spatial", "cell_size" => { settings with cellSize := value }
  | _, _ => settings

/-- Replace the table of a section. A tunable that the table does not name has its default again,
except that the lists of shape types have none and are missing then. -/
def replace (settings : Settings) (part : String) (table : Entries Data) : Settings :=
  let named (key : String) (usual : Data) : Data := (Entries.find? key table).getD usual
  match part with
  | "timing" =>
    { settings with
      frameInterval := named "frame_interval_ms" defaults.frameInterval
      maxDelta := named "max_delta_ms" defaults.maxDelta }
  | "propagation" =>
    { settings with
      maxCascadeDepth := named "max_cascade_depth" defaults.maxCascadeDepth
      maxProgramSteps := named "max_program_steps" defaults.maxProgramSteps
      connectorType := named "connector_type" defaults.connectorType
      groupType := named "group_type" defaults.groupType
      clickTargetTypes := Entries.find? "click_target_types" table
      closedShapeTypes := Entries.find? "closed_shape_types" table
      okColor := named "ok_color" defaults.okColor
      errorColor := named "error_color" defaults.errorColor }
  | "spatial" => { settings with cellSize := named "cell_size" defaults.cellSize }
  | _ => settings

/-- The name of the table of a section. -/
def tableName : String := "__dict__"

/-- The name of the kind of a section, which no value in a record can be. -/
def kindName : String := "__class__"

/-- The name of what refers to a section, which is not there to be set. -/
def referenceName : String := "__weakref__"

/-- Set what a section has under a name. -/
def assign (settings : Settings) (part key : String) (value : Data) :
    Except SettingsFault Settings :=
  if key = tableName then
    match value with
    | .record table => .ok (settings.replace part table)
    | _ => .error .wrongType
  else if key = kindName then .error .wrongType
  else if key = referenceName then .error .sectionNotRecord
  else .ok (settings.put part key value)

/-- Set what a section has under some names, one after the other. -/
def assignAll (settings : Settings) (part : String) (entries : Entries Data) :
    Except SettingsFault Settings :=
  entries.foldlM (fun acc entry => acc.assign part entry.1 entry.2) settings

/-- The sections, in the order in which they are read. -/
def parts : List String := ["timing", "propagation", "spatial"]

/-- Whether `part` occurs in a text. -/
def occursIn (part : List Char) : List Char → Bool
  | [] => part.isEmpty
  | c :: rest => part.isPrefixOf (c :: rest) || occursIn part rest

/-- The section of a record of settings, if it is there. Lists and texts can name a section but do
not have one. -/
def partOf? (data : Data) (part : String) : Except SettingsFault (Option Data) :=
  match data with
  | .record fields => .ok (Entries.find? part fields)
  | .list items =>
    if items.any (fun item => item.text? == some part) then .error .wrongType else .ok none
  | .str text => if occursIn part.toList text.toList then .error .wrongType else .ok none
  | .null | .bool _ | .num _ => .error .wrongType

/-- Take over one section. -/
def takeSection (data : Data) (settings : Settings) (part : String) :
    Except SettingsFault Settings := do
  match ← partOf? data part with
  | none => return settings
  | some (.record entries) => settings.assignAll part entries
  | some _ => .error .sectionNotRecord

/-- The settings that a record describes. -/
def ofData (data : Data) : Except SettingsFault Settings :=
  parts.foldlM (takeSection data) defaults

/-- The members of a sequence: the items of a list, the characters of a text, the keys of a record.
-/
def members? : Data → Option (List Data)
  | .list items => some items
  | .str text => some (text.toList.map fun c => .str (String.singleton c))
  | .record fields => some (fields.map fun field => .str field.1)
  | .null | .bool _ | .num _ => none

/-- A sequence as a list. -/
def sequence (data? : Option Data) : Except SettingsFault Data :=
  match data? with
  | none => .error .sectionNotRecord
  | some data => match members? data with
    | some items => .ok (.list items)
    | none => .error .wrongType

/-- The record of all settings. -/
def toData (settings : Settings) : Except SettingsFault Data := do
  let clickTargets ← sequence settings.clickTargetTypes
  let closedShapes ← sequence settings.closedShapeTypes
  return .record
    [("timing", .record [("frame_interval_ms", settings.frameInterval),
        ("max_delta_ms", settings.maxDelta)]),
      ("propagation", .record [("max_cascade_depth", settings.maxCascadeDepth),
        ("max_program_steps", settings.maxProgramSteps),
        ("connector_type", settings.connectorType), ("group_type", settings.groupType),
        ("click_target_types", clickTargets), ("closed_shape_types", closedShapes),
        ("ok_color", settings.okColor), ("error_color", settings.errorColor)]),
      ("spatial", .record [("cell_size", settings.cellSize)])]

/-- The settings in a file, if there is one. A text that cannot be read gives the defaults. -/
def load (file : Option String) : Except SettingsFault Settings :=
  match file with
  | none => .ok defaults
  | some text => match Json.read text with
    | .ok data => ofData data
    | .error .nestedTooDeeply => .error .nestedTooDeeply
    | .error _ => .ok defaults

/-- The types that a sequence of shape types names. -/
def typeNames (data? : Option Data) : List String :=
  ((data?.bind members?).getD []).filterMap Data.text?

/-- A setting that has to be a text. -/
def textOf (data : Data) : String :=
  data.shown

/-- A setting that counts, rounded up. -/
def countOf (data : Data) : Int :=
  match data with
  | .num (.int value) => value
  | .num (.double value) => (Double.ceil? value).getD 0
  | .bool value => if value then 1 else 0
  | .null | .str _ | .list _ | .record _ => 0

/-- A setting that is a budget of whole steps, rounded down. -/
def budgetOf (data : Data) : Int :=
  match data with
  | .num (.double value) => (Double.floor? value).getD 0
  | other => countOf other

/-- A setting that measures. -/
def measureOf (data : Data) : Float :=
  match data.toFloat with
  | .ok value => value
  | .error _ => Double.notANumber

end Settings

end Canvasflow
