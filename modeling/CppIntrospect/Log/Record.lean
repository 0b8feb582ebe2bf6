import CppIntrospect.Cursor.Accessor
import CppIntrospect.Log.Event

/-! What each operation on a store or a cursor puts on record. A question to a cursor of
the wrong kind may leave a trace; which one it leaves hangs on the cursor alone. -/

namespace CppIntrospect

namespace Log

def ofAdd (builder : Builder) : Except UnitError UnitId → List Event
  | .ok id => [.registered id builder.name builder.decls.length]
  | .error _ => []

def ofDispose (id : UnitId) : Except UnitError TranslationUnit → List Event
  | .ok unit => [.disposed id unit.name]
  | .error _ => []

/-- The trace of a question that the kind of the cursor rules out. -/
def ofQuery (accessor : Accessor) (cursor : Cursor) : List Event :=
  match accessor with
  | .isVirtualBase =>
    if cursor.base?.isSome then [] else [.notABaseSpecifier accessor cursor.kind]
  | .accessSpecifier =>
    if cursor.kind = .baseSpecifier ∨ cursor.kind.carriesAccess then []
    else [.carriesNoAccess cursor.kind]
  | .specializedTemplate | .numTemplateArguments | .templateArgument =>
    if cursor.kind.isDeclaration && cursor.decl?.isSome then []
    else [.notADeclaration accessor cursor.kind]
  | .classify => if cursor.decl?.isSome then [] else [.notADeclaration accessor cursor.kind]
  | .numTemplateParameters | .templateParameter =>
    if cursor.kind.ownsParameters then [] else [.notATemplate accessor cursor.kind]
  | _ => []

end Log

/-- An answer together with what was put on record on the way to it. -/
structure Recorded (α : Type) where
  answer : α
  events : List Event
  deriving DecidableEq, Repr

namespace Recorded

def map {α β : Type} (f : α → β) (recorded : Recorded α) : Recorded β :=
  ⟨f recorded.answer, recorded.events⟩

def warnings {α : Type} (recorded : Recorded α) : List Event :=
  recorded.events.filter (·.level = .warn)

end Recorded

end CppIntrospect
