import CppIntrospect.Id

/-! What can go wrong when a unit is built, registered or looked up. -/

namespace CppIntrospect

/-- The node that holds a reference. -/
inductive Owner where
  | decl (id : DeclId) (name : String)
  | base (id : BaseId)
  | expr (id : ExprId)
  deriving DecidableEq, Repr

def Owner.label : Owner → String
  | decl id name => id.label ++ " `" ++ name ++ "`"
  | base id => id.label
  | expr id => id.label

inductive UnitError where
  | danglingDecl (owner : Owner) (target : DeclId)
  | danglingType (owner : Owner) (target : TypeId)
  | danglingExpr (owner : Owner) (target : ExprId)
  /-- Only records have base specifiers. -/
  | notARecord (decl : DeclId)
  /-- The unit has been disposed. -/
  | staleUnit (unit : UnitId)
  deriving DecidableEq, Repr

namespace UnitError

def message : UnitError → String
  | danglingDecl owner target =>
    owner.label ++ " refers to unknown declaration " ++ target.label
  | danglingType owner target => owner.label ++ " refers to unknown type " ++ target.label
  | danglingExpr owner target => owner.label ++ " refers to unknown expression " ++ target.label
  | notARecord decl => decl.label ++ " is not a record and cannot have base specifiers"
  | staleUnit unit => "translation unit " ++ unit.label ++ " is no longer alive"

def code : UnitError → String
  | danglingDecl _ _ => "cxcursor::ast::dangling_decl"
  | danglingType _ _ => "cxcursor::ast::dangling_type"
  | danglingExpr _ _ => "cxcursor::ast::dangling_expr"
  | notARecord _ => "cxcursor::ast::not_a_record"
  | staleUnit _ => "cxcursor::ast::stale_unit"

def help? : UnitError → Option String
  | staleUnit _ => some "cursors must not outlive the translation unit they were created from"
  | _ => none

end UnitError

end CppIntrospect
