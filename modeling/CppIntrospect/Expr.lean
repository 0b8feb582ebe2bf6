import CppIntrospect.Id

/-! Expressions that can stand as template arguments. -/

namespace CppIntrospect

inductive BinaryOp where
  | add | sub | mul | div | rem
  | shl | shr | and | or | xor
  | eq | ne | lt | le | gt | ge
  deriving DecidableEq, Repr

namespace BinaryOp

def all : List BinaryOp :=
  [add, sub, mul, div, rem, shl, shr, and, or, xor, eq, ne, lt, le, gt, ge]

def spelling : BinaryOp → String
  | add => "+"
  | sub => "-"
  | mul => "*"
  | div => "/"
  | rem => "%"
  | shl => "<<"
  | shr => ">>"
  | and => "&"
  | or => "|"
  | xor => "^"
  | eq => "=="
  | ne => "!="
  | lt => "<"
  | le => "<="
  | gt => ">"
  | ge => ">="

def ofSpelling? (spelling : String) : Option BinaryOp :=
  all.find? (·.spelling == spelling)

end BinaryOp

inductive ExprKind where
  | integerLiteral (value : Int)
  /-- A mention of a declared entity. -/
  | declRef (decl : DeclId)
  | binary (op : BinaryOp) (lhs rhs : ExprId)
  /-- Text without further structure. -/
  | unexposed (text : String)
  deriving DecidableEq, Repr

structure Expr where
  kind : ExprKind
  type : TypeId
  deriving DecidableEq, Repr

end CppIntrospect
