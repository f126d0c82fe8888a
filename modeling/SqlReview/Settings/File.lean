import SqlReview.Json.Reader
import SqlReview.Settings.Basic
import SqlReview.Text.Utf8

/-!
# The file of settings

The settings are read from a file that is named, or else from the first that exists among the
usual places; without any file everything has its default. The file must be a JSON object.
-/

namespace SqlReview

/-- What is at a path. -/
inductive FileState where
  /-- There is nothing. -/
  | absent
  /-- There is a directory. -/
  | directory
  /-- The path goes through something that is no directory. -/
  | blocked
  /-- There is a file. -/
  | content (bytes : List UInt8)

/-- What is at each path. -/
abbrev Files := Text → FileState

namespace FileState

/-- Whether there is anything at the path. -/
def isPresent : FileState → Bool
  | .absent | .blocked => false
  | .directory | .content _ => true

end FileState

namespace Settings

/-! ## Reading -/

/-- The failure of a file that cannot be read as settings. -/
def unreadable (path : Text) : Problem :=
  .fail .configurationError ("Failed to load configuration from ".toList ++ path)

/-- The sections in the text of a file, where arrays and objects may be nested up to a depth. -/
def readSections (depthLimit : Nat) (path text : Text) : Except Problem Fields :=
  match Json.parse (Json.lenient (some depthLimit) text) text with
  | .ok (.object sections) => .ok sections
  | .ok _ =>
    .error (.fail .configurationError
      ("Configuration in ".toList ++ path ++ " must be a JSON object".toList))
  | .error .malformed => .error (unreadable path)
  | .error .numberTooLong => .error (.fault .badValue)
  | .error .tooDeep => .error (.fault .tooDeep)

/-- The sections in a file. -/
def readFile (depthLimit : Nat) (path : Text) : FileState → Except Problem Fields
  | .content bytes =>
    match Text.decode? bytes with
    | some text => readSections depthLimit path text
    | none => .error (.fault .undecodable)
  | _ => .error (unreadable path)

/-! ## Finding -/

/-- The path of the file of settings: the one that is named, which must exist, or the first that
exists among the usual places. -/
def find (files : Files) (usual : List Text) (named : Option Text) : Except Problem (Option Text) :=
  match named.filter (!·.isEmpty) with
  | some path =>
    if (files path).isPresent then .ok (some path)
    else .error (.fail .configurationError ("Config file not found: ".toList ++ path))
  | none => .ok (usual.find? fun path => (files path).isPresent)

/-- The settings in the files and the environment. -/
def load (depthLimit : Nat) (files : Files) (usual : List Text) (named : Option Text)
    (environment : Environment) : Except Problem Settings := do
  match ← find files usual named with
  | some path => pure ⟨some path, ← readFile depthLimit path (files path), environment⟩
  | none => pure ⟨none, [], environment⟩

/-! ## Keeping -/

/-- Settings that are loaded once and then kept, with the number of times they were loaded. -/
structure Kept where
  /-- The settings, while they are kept, under the number of their loading. -/
  current : Option (Nat × Settings) := none
  /-- How many times settings were loaded. -/
  loadings : Nat := 0

namespace Kept

/-- The kept settings, or else newly loaded ones, which are kept if loading succeeds. -/
def get (kept : Kept) (load : Except Problem Settings) : Except Problem (Nat × Settings) × Kept :=
  match kept.current with
  | some current => (.ok current, kept)
  | none =>
    match load with
    | .ok settings =>
      (.ok (kept.loadings, settings), ⟨some (kept.loadings, settings), kept.loadings + 1⟩)
    | .error problem => (.error problem, kept)

/-- Settings that must be loaded again. -/
def reset (kept : Kept) : Kept :=
  { kept with current := none }

end Kept
end Settings
end SqlReview
