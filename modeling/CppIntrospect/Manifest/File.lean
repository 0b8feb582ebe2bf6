import CppIntrospect.Manifest.Json
import CppIntrospect.Manifest.Load
import CppIntrospect.Manifest.Toml

/-! Manifests in files. The ending of the name decides between the two formats. -/

namespace CppIntrospect.Manifest

/-- The files at hand: the bytes under a path, if they can be read. -/
abbrev Files := String → Option ByteArray

/-- The last part of a path; steps that stay in place do not count. -/
def fileName (path : List Char) : List Char :=
  ((path.splitOn '/').filter fun part => part ≠ [] ∧ part ≠ ['.']).getLastD []

/-- What follows the last dot of a file name. A dot at the front starts no ending. -/
def extension (name : List Char) : Option (List Char) :=
  let ending := name.reverse.takeWhile (· != '.')
  if name.length ≤ ending.length + 1 then none else some ending.reverse

def Format.ofPath (path : String) : Format :=
  if extension (fileName path.toList) = some ['j', 's', 'o', 'n'] then .json else .toml

/-- Reads a manifest in the given format. -/
def parse : Format → String → Except ManifestError Manifest
  | .json, text =>
    match ofJson? text with
    | some manifest => .ok manifest
    | none => .error .notJson
  | .toml, text =>
    match ofToml? text with
    | some manifest => .ok manifest
    | none => .error .notToml

/-- What turns a text into a manifest. -/
abbrev Reader := Format → String → Except ManifestError Manifest

/-- Reads the manifest of a file, which has to be a text in UTF-8. -/
def ofFile (read : Reader) (files : Files) (path : String) : Except ManifestError Manifest :=
  match (files path).bind String.fromUTF8? with
  | some text => read (.ofPath path) text
  | none => .error (.unreadable path)

/-- Loads the manifest of a file into a store. -/
def loadFile (read : Reader) (files : Files) (path : String) (store : Store) : Loading :=
  match ofFile read files path with
  | .ok manifest => manifest.load store
  | .error fault => ⟨.error fault, store, []⟩

end CppIntrospect.Manifest
