import CppIntrospect.Id

/-! Template arguments. -/

namespace CppIntrospect

inductive TemplateArgument where
  /-- Not yet deduced. -/
  | null
  | type (type : TypeId)
  /-- An entity bound to a value parameter. -/
  | declaration (decl : DeclId)
  | integral (value : Int) (type : TypeId)
  /-- A template bound to a template template parameter. -/
  | template (decl : DeclId)
  /-- A template template parameter followed by an ellipsis. -/
  | templateExpansion (decl : DeclId)
  | expression (expr : ExprId)
  | pack (elements : List TemplateArgument)
  deriving Repr

inductive ArgumentKind where
  | null
  | type
  | declaration
  | integral
  | template
  | templateExpansion
  | expression
  | pack
  /-- Not a template argument. -/
  | invalid
  deriving DecidableEq, Repr

def ArgumentKind.all : List ArgumentKind :=
  [null, type, declaration, integral, template, templateExpansion, expression, pack, invalid]

def ArgumentKind.spelling : ArgumentKind → String
  | null => "Null"
  | type => "Type"
  | declaration => "Declaration"
  | integral => "Integral"
  | template => "Template"
  | templateExpansion => "TemplateExpansion"
  | expression => "Expression"
  | pack => "Pack"
  | invalid => "Invalid"

namespace TemplateArgument

def kind : TemplateArgument → ArgumentKind
  | null => .null
  | type _ => .type
  | declaration _ => .declaration
  | integral _ _ => .integral
  | template _ => .template
  | templateExpansion _ => .templateExpansion
  | expression _ => .expression
  | pack _ => .pack

def type? : TemplateArgument → Option TypeId
  | type id => some id
  | _ => none

def integral? : TemplateArgument → Option Int
  | integral value _ => some value
  | _ => none

def declaration? : TemplateArgument → Option DeclId
  | declaration decl => some decl
  | _ => none

/-- The template named by a template argument, with or without an ellipsis. -/
def template? : TemplateArgument → Option DeclId
  | template decl => some decl
  | templateExpansion decl => some decl
  | _ => none

def expression? : TemplateArgument → Option ExprId
  | expression expr => some expr
  | _ => none

/-- The elements of a pack; none for any other argument. -/
def packElements : TemplateArgument → List TemplateArgument
  | pack elements => elements
  | _ => []

mutual

def same : TemplateArgument → TemplateArgument → Bool
  | null, null => true
  | type s, type t => s == t
  | declaration s, declaration t => s == t
  | integral m s, integral n t => m == n && s == t
  | template s, template t => s == t
  | templateExpansion s, templateExpansion t => s == t
  | expression s, expression t => s == t
  | pack s, pack t => sameList s t
  | _, _ => false

def sameList : List TemplateArgument → List TemplateArgument → Bool
  | [], [] => true
  | a :: s, b :: t => same a b && sameList s t
  | _, _ => false

end

mutual

theorem same_iff : ∀ a b : TemplateArgument, same a b = true ↔ a = b
  | pack s, b => by cases b <;> simp [same, sameList_iff s]
  | null, b => by cases b <;> simp [same]
  | type _, b => by cases b <;> simp [same]
  | declaration _, b => by cases b <;> simp [same]
  | integral _ _, b => by cases b <;> simp [same]
  | template _, b => by cases b <;> simp [same]
  | templateExpansion _, b => by cases b <;> simp [same]
  | expression _, b => by cases b <;> simp [same]

theorem sameList_iff : ∀ s t : List TemplateArgument, sameList s t = true ↔ s = t
  | [], t => by cases t <;> simp [sameList]
  | a :: s, t => by cases t <;> simp [sameList, same_iff a, sameList_iff s]

end

instance : DecidableEq TemplateArgument := fun a b => decidable_of_iff _ (same_iff a b)

end TemplateArgument

end CppIntrospect
