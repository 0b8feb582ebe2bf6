import CppIntrospect.Manifest.Decode
import CppIntrospect.Toml.Document

/-! Manifests written in TOML. -/

namespace CppIntrospect.Manifest

def ofToml? (text : String) : Option Manifest := (Toml.parse? text).bind (decode .toml)

end CppIntrospect.Manifest
