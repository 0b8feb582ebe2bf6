import CppIntrospect.TranslationUnit.Basic

/-! The text of expressions and of template arguments. -/

namespace CppIntrospect.TranslationUnit

/-- The text of an expression at most `depth` nodes deep. -/
def exprTextWithin (unit : TranslationUnit) : Nat → ExprId → Option String
  | 0, _ => none
  | depth + 1, id =>
    match unit.expr? id with
    | none => some ""
    | some expr =>
      match expr.kind with
      | .integerLiteral value => some value.repr
      | .declRef decl => some (unit.declName decl)
      | .unexposed text => some text
      | .binary op lhs rhs =>
        match unit.exprTextWithin depth lhs, unit.exprTextWithin depth rhs with
        | some left, some right => some (left ++ " " ++ op.spelling ++ " " ++ right)
        | _, _ => none

/-- The text of an expression. A path through the operands that repeats no expression is
no longer than the list of expressions, so only an expression that is its own operand,
directly or not, has no text. -/
def exprText (unit : TranslationUnit) (id : ExprId) : Option String :=
  unit.exprTextWithin (unit.exprs.length + 1) id

mutual

def argumentText (unit : TranslationUnit) : TemplateArgument → Option String
  | .null => some ""
  | .type type => some (unit.typeText type)
  | .declaration decl => some ("&" ++ unit.declName decl)
  | .integral value _ => some value.repr
  | .template decl => some (unit.declName decl)
  | .templateExpansion decl => some (unit.declName decl ++ "...")
  | .expression expr => unit.exprText expr
  | .pack elements =>
    (unit.argumentTexts elements).map fun texts => "<" ++ ", ".intercalate texts ++ ">"

def argumentTexts (unit : TranslationUnit) : List TemplateArgument → Option (List String)
  | [] => some []
  | arg :: args =>
    match unit.argumentText arg, unit.argumentTexts args with
    | some text, some texts => some (text :: texts)
    | _, _ => none

end

end CppIntrospect.TranslationUnit
