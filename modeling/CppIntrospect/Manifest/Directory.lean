import CppIntrospect.Manifest.File

/-! A directory held in memory, and the files that paths lead to in it. A path is walked part
by part, and every part but the last has to lead to a directory. -/

namespace CppIntrospect.Manifest

/-- The parts of a path between its slashes. -/
abbrev Place := List (List Char)

/-- Files by their places below the directory. -/
structure Directory where
  files : List (Place × ByteArray)

namespace Directory

/-- The directory that holds files under the given names. -/
def ofFiles (files : List (String × ByteArray)) : Directory :=
  ⟨files.map fun (name, content) => (name.toList.splitOn '/', content)⟩

/-- Whether a place is the directory itself, or lies on the way to a file. -/
def isDirectory (directory : Directory) (place : Place) : Bool :=
  place.isEmpty ||
    directory.files.any fun (file, _) => place.length < file.length && place.isPrefixOf file

/-- Takes one part of a path. An empty part and a single dot stay in place, two dots go back;
what lies outside of the directory is out of reach. -/
def step (directory : Directory) (place : Place) (part : List Char) : Option Place :=
  if !directory.isDirectory place then none
  else if part = [] ∨ part = ['.'] then some place
  else if part = ['.', '.'] then if place.isEmpty then none else some place.dropLast
  else some (place ++ [part])

/-- The place that a path leads to. A slash at the front leads out of the directory. -/
def walk (directory : Directory) : List Char → Option Place
  | '/' :: _ => none
  | path => (path.splitOn '/').foldlM directory.step []

/-- The contents of the file that a path leads to. -/
def read (directory : Directory) : Files := fun path =>
  (directory.walk path.toList).bind fun place => directory.files.lookup place

end Directory

end CppIntrospect.Manifest
