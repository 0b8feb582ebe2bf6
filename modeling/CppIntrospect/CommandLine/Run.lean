import CppIntrospect.CommandLine.Invocation
import CppIntrospect.Json.Pretty
import CppIntrospect.Manifest.File
import CppIntrospect.Report.Render

/-! What the commands do, given a reader of manifests and the files at hand. -/

namespace CppIntrospect.CommandLine

open Manifest (Files Reader loadFile)

/-- The end of a run: its exit code, what it prints, and the lines of complaint. -/
structure Outcome where
  exitCode : Nat := 0
  output : String := ""
  complaints : List String := []
  events : List Event := []

def OutputFormat.write (format : OutputFormat) (report : Report) : String :=
  match format with
  | .text => report.render
  | .json => Json.pretty report.encode ++ "\n"

/-- Loads a manifest and prints the report on its unit. -/
def Inspection.run (request : Inspection) (read : Reader) (files : Files) : Outcome :=
  let loading := loadFile read files request.path .empty
  match loading.result with
  | .error fault => ⟨1, "", [fault.message], loading.events⟩
  | .ok id =>
    match Report.ofUnit loading.store id request.only with
    | .error fault => ⟨1, "", [fault.message], loading.events⟩
    | .ok report => ⟨0, request.format.write report, [], loading.events⟩

def okLine (path : String) (count : Nat) : String :=
  path ++ ": OK (" ++ count.repr ++ " declarations)\n"

def errorLine (path : String) : String := path ++ ": Error"

/-- Loads manifests one after the other, and disposes each unit before the next. The first
manifest that cannot be loaded ends the run. -/
def checkAll (read : Reader) (files : Files) (store : Store) : List String → Outcome
  | [] => {}
  | path :: paths =>
    let loading := loadFile read files path store
    match loading.result with
    | .error fault => ⟨1, "", [errorLine path, fault.message], loading.events⟩
    | .ok id =>
      let line := okLine path ((loading.store.find? id).elim 0 (·.declCount))
      match loading.store.dispose id with
      | (.error fault, _) => ⟨1, line, [fault.message], loading.events⟩
      | (.ok unit, store) =>
        let outcome := checkAll read files store paths
        { outcome with
          output := line ++ outcome.output
          events := loading.events ++ Log.ofDispose id (.ok unit) ++ outcome.events }

def Command.run (command : Command) (read : Reader) (files : Files) : Outcome :=
  match command with
  | .inspect request => request.run read files
  | .check paths => checkAll read files .empty paths

/-- The paths that a command reads. -/
def Command.paths : Command → List String
  | .inspect request => [request.path]
  | .check paths => paths

def versionText : String := "cxcursor 0.1.0\n"

def usage : String :=
  "Usage: cxcursor [-v] inspect <MANIFEST> [--decl <DECL>] [--format text|json]\n" ++
  "       cxcursor [-v] check <FILES>...\n"

def helpText : String :=
  "Inspect C++ AST manifests through cursor handles\n\n" ++ usage ++ "\n" ++
  "Commands:\n" ++
  "  inspect  Print every cursor query for the declarations of a manifest\n" ++
  "  check    Load manifests and report whether they are well formed\n" ++
  "  help     Print this message\n\n" ++
  "Options:\n" ++
  "      --decl <DECL>      Only report declarations with this name\n" ++
  "      --format <FORMAT>  Output format, text or json [default: text]\n" ++
  "  -v, --verbose          Enable debug logging\n" ++
  "  -h, --help             Print help\n" ++
  "  -V, --version          Print version\n"

def Stop.outcome : Stop → Outcome
  | help => { output := helpText }
  | version => { output := versionText }
  | misuse => { exitCode := 2, complaints := [usage] }

/-- Runs the program on its arguments. -/
def run (files : Files) (arguments : List String) : Outcome :=
  match Invocation.parse arguments with
  | .error stop => stop.outcome
  | .ok invocation => invocation.command.run Manifest.parse files

end CppIntrospect.CommandLine
