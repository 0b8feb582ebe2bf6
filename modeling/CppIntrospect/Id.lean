/-! Names of the nodes of a translation unit. A node is named by its position among the
nodes of its sort; a unit is named by its slot in the store and the slot's generation. -/

namespace CppIntrospect

structure DeclId where
  index : Nat
  deriving DecidableEq, Repr

structure BaseId where
  index : Nat
  deriving DecidableEq, Repr

structure TypeId where
  index : Nat
  deriving DecidableEq, Repr

structure ExprId where
  index : Nat
  deriving DecidableEq, Repr

/-- The generation tells the units that have held one slot apart. -/
structure UnitId where
  slot : Nat
  generation : UInt32
  deriving DecidableEq, Repr

def DeclId.label (id : DeclId) : String := "decl#" ++ id.index.repr

def BaseId.label (id : BaseId) : String := "base#" ++ id.index.repr

def TypeId.label (id : TypeId) : String := "type#" ++ id.index.repr

def ExprId.label (id : ExprId) : String := "expr#" ++ id.index.repr

def UnitId.label (id : UnitId) : String :=
  "unit#" ++ id.slot.repr ++ "." ++ id.generation.toNat.repr

end CppIntrospect
