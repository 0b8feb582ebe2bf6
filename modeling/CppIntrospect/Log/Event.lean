import CppIntrospect.Cursor.Basic

/-! The events that operations on stores, cursors and manifests put on record. -/

namespace CppIntrospect

/-- The questions that events mention. -/
inductive Accessor where
  | isVirtualBase
  | accessSpecifier
  | templateCursorKind
  | specializedTemplate
  | semanticParent
  | spelling
  | classify
  | numTemplateArguments
  | templateArgument
  | numTemplateParameters
  | templateParameter
  | asType
  | asIntegral
  | asDeclaration
  | asTemplate
  | asExpression
  | packSize
  | baseCursors
  deriving DecidableEq, Repr

def Accessor.name : Accessor → String
  | isVirtualBase => "is_virtual_base"
  | accessSpecifier => "access_specifier"
  | templateCursorKind => "template_cursor_kind"
  | specializedTemplate => "specialized_template"
  | semanticParent => "semantic_parent"
  | spelling => "spelling"
  | classify => "classify"
  | numTemplateArguments => "num_template_arguments"
  | templateArgument => "template_argument"
  | numTemplateParameters => "num_template_parameters"
  | templateParameter => "template_parameter"
  | asType => "as_type"
  | asIntegral => "as_integral"
  | asDeclaration => "as_declaration"
  | asTemplate => "as_template"
  | asExpression => "as_expression"
  | packSize => "pack_size"
  | baseCursors => "base_cursors"

inductive Level where
  | trace
  | debug
  | warn
  deriving DecidableEq, Repr

def Level.name : Level → String
  | trace => "TRACE"
  | debug => "DEBUG"
  | warn => "WARN"

inductive Event where
  | registered (unit : UnitId) (name : String) (decls : Nat)
  | disposed (unit : UnitId) (name : String)
  | notADeclaration (accessor : Accessor) (kind : CursorKind)
  | notABaseSpecifier (accessor : Accessor) (kind : CursorKind)
  | notATemplate (accessor : Accessor) (kind : CursorKind)
  | carriesNoAccess (kind : CursorKind)
  /-- A question of the flat surface met a disposed unit. -/
  | staleQuery (accessor : Accessor) (fault : CursorError)
  | lowered (entry : String) (decl : DeclId)
  | loaded (unit : UnitId) (name : String) (decls : Nat)
  deriving DecidableEq, Repr

namespace Event

def level : Event → Level
  | registered _ _ _ => .debug
  | disposed _ _ => .debug
  | notADeclaration _ _ => .trace
  | notABaseSpecifier _ _ => .trace
  | notATemplate _ _ => .trace
  | carriesNoAccess _ => .trace
  | staleQuery _ _ => .warn
  | lowered _ _ => .trace
  | loaded _ _ _ => .debug

def message : Event → String
  | registered _ _ _ => "registered translation unit"
  | disposed _ _ => "disposed translation unit"
  | notADeclaration _ _ => "not a declaration cursor"
  | notABaseSpecifier _ _ => "not a base specifier cursor"
  | notATemplate _ _ => "not a template cursor"
  | carriesNoAccess _ => "kind carries no access"
  | staleQuery _ _ => "cursor query on disposed translation unit"
  | lowered _ _ => "lowered declaration"
  | loaded _ _ _ => "loaded manifest"

/-- The named details of an event. -/
def details : Event → List (String × String)
  | registered unit name decls =>
    [("unit", unit.label), ("name", name), ("decls", decls.repr)]
  | disposed unit name => [("unit", unit.label), ("name", name)]
  | notADeclaration accessor kind => [("op", accessor.name), ("kind", kind.spelling)]
  | notABaseSpecifier accessor kind => [("op", accessor.name), ("kind", kind.spelling)]
  | notATemplate accessor kind => [("op", accessor.name), ("kind", kind.spelling)]
  | carriesNoAccess kind => [("op", Accessor.accessSpecifier.name), ("kind", kind.spelling)]
  | staleQuery accessor fault => [("op", accessor.name), ("error", fault.message)]
  | lowered entry decl => [("id", entry), ("decl", decl.label)]
  | loaded unit name decls => [("unit", unit.label), ("name", name), ("decls", decls.repr)]

end Event

end CppIntrospect
