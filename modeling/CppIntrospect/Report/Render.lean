import CppIntrospect.Report.Basic

/-! The two forms of a report: indented text, and data. -/

namespace CppIntrospect.Report

/-- A line for a detail that may be missing. -/
def detail (name : String) : Option String → List String
  | some value => ["  " ++ name ++ ": " ++ value]
  | none => []

/-- Lines numbered from zero. -/
def numbered (texts : List String) : List String :=
  texts.zipIdx.map fun (text, i) => "    [" ++ i.repr ++ "] " ++ text

/-- A counted heading and the numbered lines under it. -/
def listing (name : String) : Option (List String) → List String
  | some texts => ("  " ++ name ++ " (" ++ texts.length.repr ++ "):") :: numbered texts
  | none => []

def BaseReport.line (base : BaseReport) : String :=
  "    " ++ base.access ++ (if base.isVirtual then " virtual" else "") ++ " " ++ base.type

def baseLines : List BaseReport → List String
  | [] => []
  | bases => ("  bases (" ++ bases.length.repr ++ "):") :: bases.map BaseReport.line

def DeclReport.lines (decl : DeclReport) : List String :=
  [decl.id ++ " " ++ decl.name ++ ": " ++ decl.kind, "  template: " ++ decl.templateClass] ++
    detail "parent" decl.parent ++ detail "access" decl.access ++
    detail "specialized from" decl.specializedFrom ++ detail "produces" decl.produces ++
    listing "parameters" decl.parameters ++
    listing "arguments" (decl.arguments.map fun args =>
      args.map fun arg => arg.kind ++ " " ++ arg.spelling) ++
    baseLines decl.bases

def header (report : Report) : String :=
  "unit " ++ report.unit ++ " (" ++ report.decls.length.repr ++ " declarations)"

def lines (report : Report) : List String :=
  report.header :: report.decls.flatMap DeclReport.lines

/-- The report as indented text, each line with its end. -/
def render (report : Report) : String := String.join (report.lines.map (· ++ "\n"))

def optionalField (name : String) : Option Datum → List (String × Datum)
  | some value => [(name, value)]
  | none => []

def ArgumentReport.encode (arg : ArgumentReport) : Datum :=
  .record [("kind", .text arg.kind), ("spelling", .text arg.spelling)]

def BaseReport.encode (base : BaseReport) : Datum :=
  .record [("type", .text base.type), ("access", .text base.access),
    ("virtual", .bool base.isVirtual)]

def DeclReport.encode (decl : DeclReport) : Datum :=
  .record
    ([("id", .text decl.id), ("name", .text decl.name), ("kind", .text decl.kind)] ++
      optionalField "parent" (decl.parent.map .text) ++
      optionalField "access" (decl.access.map .text) ++
      [("template_class", .text decl.templateClass)] ++
      optionalField "specialized_from" (decl.specializedFrom.map .text) ++
      optionalField "produces" (decl.produces.map .text) ++
      optionalField "parameters" (decl.parameters.map fun texts => .list (texts.map .text)) ++
      optionalField "arguments" (decl.arguments.map fun args =>
        .list (args.map ArgumentReport.encode)) ++
      (if decl.bases.isEmpty then []
        else [("bases", .list (decl.bases.map BaseReport.encode))]))

/-- The report as data. -/
def encode (report : Report) : Datum :=
  .record [("unit", .text report.unit), ("decls", .list (report.decls.map DeclReport.encode))]

end CppIntrospect.Report
