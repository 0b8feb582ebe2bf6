import CppIntrospect.TranslationUnit.Error

/-! What can go wrong when a manifest is loaded. -/

namespace CppIntrospect

inductive ManifestError where
  /-- The file is missing, unreadable or no text. -/
  | unreadable (path : String)
  | notToml
  | notJson
  | duplicateId (id : String)
  | unknownReference (entry target : String)
  | badType (entry spelling : String)
  /-- More than one of the three links of a function is given. -/
  | conflictingLinks (entry : String)
  /-- A specialization names no origin, or two. -/
  | unclearOrigin (entry : String)
  /-- The unit was rejected by the store. -/
  | rejected (fault : UnitError)
  deriving DecidableEq, Repr

namespace ManifestError

def message : ManifestError → String
  | unreadable path => "failed to read manifest " ++ path
  | notToml => "failed to parse TOML manifest"
  | notJson => "failed to parse JSON manifest"
  | duplicateId id => "declaration id `" ++ id ++ "` is used more than once"
  | unknownReference entry target =>
    "`" ++ entry ++ "` refers to unknown declaration `" ++ target ++ "`"
  | badType entry spelling => "`" ++ entry ++ "` uses unparseable type `" ++ spelling ++ "`"
  | conflictingLinks entry =>
    "invalid declaration `" ++ entry ++
      "`: `specializes`, `instantiated_from` and `candidates` are exclusive"
  | unclearOrigin entry =>
    "invalid declaration `" ++ entry ++
      "`: a specialization names exactly one of `template` and `partial`"
  | rejected fault => fault.message

def code : ManifestError → String
  | unreadable _ => "cxcursor::manifest::read"
  | notToml => "cxcursor::manifest::toml"
  | notJson => "cxcursor::manifest::json"
  | duplicateId _ => "cxcursor::manifest::duplicate_id"
  | unknownReference _ _ => "cxcursor::manifest::unknown_reference"
  | badType _ _ => "cxcursor::manifest::bad_type"
  | conflictingLinks _ => "cxcursor::manifest::invalid"
  | unclearOrigin _ => "cxcursor::manifest::invalid"
  | rejected fault => fault.code

def help? : ManifestError → Option String
  | unknownReference _ _ => some "references use the `id` of another [[decl]] entry"
  | rejected fault => fault.help?
  | _ => none

end ManifestError

end CppIntrospect
