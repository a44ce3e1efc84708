import Canvasflow.Entries
import Canvasflow.Scene.File

/-!
# Folders

Files next to each other under their names, and what is found and stored at a path that starts from
there. `source_store_self` says that what is stored is found again.
-/

namespace Canvasflow.Scene

/-- What a folder holds under a name: the bytes of a file, or another folder, whose contents do not
matter. -/
inductive Item where
  | file (bytes : ByteArray)
  | folder

/-- Why nothing can be stored at a path. -/
inductive StoreFault where
  | missing
  | notFolder
  | isFolder
  deriving DecidableEq, Repr

/-- A folder. -/
structure Folder where
  items : Entries Item

namespace Folder

/-- What is found at a path. -/
def source (folder : Folder) (path : Path) : Source :=
  if path.leadsUp then .refused 21 "Is a directory"
  else match path.root.isEmpty, path.names with
    | true, name :: rest => match Entries.find? name folder.items, rest with
      | some (.file bytes), [] => .content bytes
      | some (.file _), _ :: _ => .refused 20 "Not a directory"
      | some .folder, [] => .refused 21 "Is a directory"
      | some .folder, _ :: _ | none, _ => .missing
    | _, _ => .missing

/-- Store a text at a path. -/
def store (folder : Folder) (path : Path) (text : String) : Except StoreFault Folder :=
  if path.leadsUp then .error .isFolder
  else match path.root.isEmpty, path.names with
    | true, name :: rest => match Entries.find? name folder.items, rest with
      | some (.file _), [] | none, [] =>
        .ok ⟨Entries.set name (.file text.toUTF8) folder.items⟩
      | some (.file _), _ :: _ => .error .notFolder
      | some .folder, [] => .error .isFolder
      | some .folder, _ :: _ | none, _ :: _ => .error .missing
    | _, _ => .error .missing

/-- What is stored at a path is found there. -/
theorem source_store_self {folder stored : Folder} {path : Path} {text : String}
    (h : folder.store path text = .ok stored) : stored.source path = .content text.toUTF8 := by
  unfold store at h
  split at h
  · cases h
  · rename_i hup
    split at h
    · rename_i name rest hroot hnames
      split at h <;> cases h <;> simp [source, hup, hroot, hnames]
    · cases h

end Folder

end Canvasflow.Scene
