/-! C++ types as layers of pointers, references and arrays over a leaf, and the
spelling of a type. -/

namespace CppIntrospect

inductive IntegerWidth where
  | char
  | short
  | int
  | long
  | longLong
  deriving DecidableEq, Repr

/-- The types that have a keyword. -/
inductive Builtin where
  | void
  | bool
  | integer (width : IntegerWidth) (signed : Bool)
  | float
  | double
  deriving DecidableEq, Repr

inductive CppType where
  | builtin (type : Builtin)
  /-- A record, an enumeration, an alias or a template with its arguments. -/
  | named (name : String)
  /-- The parameter `index` of the template at nesting `depth`. -/
  | templateParam (name : String) (depth index : UInt32)
  /-- `isConst` marks a pointer to a constant. -/
  | pointer (pointee : CppType) (isConst : Bool)
  | reference (referent : CppType) (isConst isRvalue : Bool)
  | array (element : CppType) (size : Option UInt64)
  deriving DecidableEq, Repr

def IntegerWidth.spelling : IntegerWidth → String
  | .char => "char"
  | .short => "short"
  | .int => "int"
  | .long => "long"
  | .longLong => "long long"

def Builtin.spelling : Builtin → String
  | .void => "void"
  | .bool => "bool"
  | .integer width true => width.spelling
  | .integer width false => "unsigned " ++ width.spelling
  | .float => "float"
  | .double => "double"

namespace CppType

/-- The mark written in front of a pointer or reference to a constant. -/
def constMark : Bool → List Char
  | true => ['c', 'o', 'n', 's', 't', ' ']
  | false => []

/-- The characters of the spelling. -/
def chars : CppType → List Char
  | builtin type => type.spelling.toList
  | named name => name.toList
  | templateParam name _ _ => name.toList
  | pointer pointee isConst => constMark isConst ++ pointee.chars ++ [' ', '*']
  | reference referent isConst false => constMark isConst ++ referent.chars ++ [' ', '&']
  | reference referent isConst true => constMark isConst ++ referent.chars ++ [' ', '&', '&']
  | array element none => element.chars ++ ['[', ']']
  | array element (some size) => element.chars ++ '[' :: size.toNat.repr.toList ++ [']']

def spelling (type : CppType) : String := String.ofList type.chars

/-- The type under all pointers, references and arrays. -/
def leaf : CppType → CppType
  | pointer pointee _ => pointee.leaf
  | reference referent _ _ => referent.leaf
  | array element _ => element.leaf
  | type => type

/-- Whether the type mentions a template parameter. -/
def isDependent : CppType → Bool
  | templateParam _ _ _ => true
  | pointer pointee _ => pointee.isDependent
  | reference referent _ _ => referent.isDependent
  | array element _ => element.isDependent
  | builtin _ => false
  | named _ => false

/-- The same layers over another leaf, where the leaf is a name that has one. -/
def substitute (leafFor : String → Option CppType) : CppType → CppType
  | named name => (leafFor name).getD (named name)
  | pointer pointee isConst => pointer (pointee.substitute leafFor) isConst
  | reference referent isConst isRvalue =>
    reference (referent.substitute leafFor) isConst isRvalue
  | array element size => array (element.substitute leafFor) size
  | type => type

end CppType

end CppIntrospect
