/-! Command lines. The arguments are read from left to right, and the first one that asks for
help or the version, or is not understood, settles the matter. -/

namespace CppIntrospect.CommandLine

inductive OutputFormat where
  | text
  | json
  deriving DecidableEq, Repr

/-- Which manifest to report on, the name to restrict the report to, and the form of the
report. -/
structure Inspection where
  path : String
  only : Option String := none
  format : OutputFormat := .text
  deriving DecidableEq, Repr

inductive Command where
  | inspect (request : Inspection)
  | check (paths : List String)
  deriving DecidableEq, Repr

structure Invocation where
  verbose : Bool
  command : Command
  deriving DecidableEq, Repr

/-- Why there is nothing to run. -/
inductive Stop where
  | help
  | version
  | misuse
  deriving DecidableEq, Repr

/-- An argument by its looks. -/
inductive Word where
  | plain (text : String)
  /-- Letters after one dash. -/
  | letters (flags : List Char)
  /-- A name after two dashes, with the value attached to it. -/
  | name (name : String) (value : Option String)
  /-- Two dashes: no flags from here on. -/
  | endOfFlags
  deriving DecidableEq, Repr

def Word.ofArgument (argument : String) : Word :=
  match argument.toList with
  | ['-', '-'] => .endOfFlags
  | '-' :: '-' :: s =>
    let name := String.ofList (s.takeWhile (· != '='))
    match s.dropWhile (· != '=') with
    | _ :: value => .name name (some (String.ofList value))
    | [] => .name name none
  | '-' :: c :: s => .letters (c :: s)
  | _ => .plain argument

/-- Whether an argument can be the value of an option before it. -/
def isValue (argument : String) : Bool :=
  match Word.ofArgument argument with
  | .plain _ => true
  | _ => false

/-- The two levels of a command line: before the command, and after it. Only the first one
knows the version. -/
inductive Stage where
  | program
  | command
  deriving DecidableEq, Repr

/-- Reads a flag. The result says whether verbose output was asked for at this level, which is
done at most once. -/
def readFlag (stage : Stage) (verbose : Bool) (flag : String) : Except Stop Bool :=
  if flag = "help" then .error .help
  else if flag = "version" then .error (if stage = .program then .version else .misuse)
  else if flag = "verbose" then if verbose then .error .misuse else .ok true
  else .error .misuse

def letterName : Char → String
  | 'h' => "help"
  | 'V' => "version"
  | 'v' => "verbose"
  | _ => ""

def readLetters (stage : Stage) (verbose : Bool) (letters : List Char) : Except Stop Bool :=
  letters.foldlM (fun verbose letter => readFlag stage verbose (letterName letter)) verbose

/-- What is known of an inspection while its arguments are read. -/
structure Draft where
  verbose : Bool := false
  path : Option String := none
  only : Option String := none
  format : Option OutputFormat := none

namespace Draft

def setPath (draft : Draft) (path : String) : Except Stop Draft :=
  if draft.path.isSome ∨ path = "" then .error .misuse
  else .ok { draft with path := some path }

def outputFormat? (value : String) : Option OutputFormat :=
  if value = "text" then some .text
  else if value = "json" then some .json
  else none

/-- Sets an option that takes a value. -/
def setOption (draft : Draft) (name value : String) : Except Stop Draft :=
  if name = "decl" then
    if draft.only.isSome then .error .misuse else .ok { draft with only := some value }
  else
    match outputFormat? value with
    | some format =>
      if draft.format.isSome then .error .misuse else .ok { draft with format := some format }
    | none => .error .misuse

def finish (draft : Draft) : Except Stop Invocation :=
  match draft.path with
  | some path =>
    .ok ⟨draft.verbose, .inspect ⟨path, draft.only, draft.format.getD .text⟩⟩
  | none => .error .misuse

end Draft

def takesValue (name : String) : Bool := name == "decl" || name == "format"

def readInspection (draft : Draft) : List String → Except Stop Invocation
  | [] => draft.finish
  | argument :: rest =>
    match Word.ofArgument argument with
    | .endOfFlags => do (← rest.foldlM Draft.setPath draft).finish
    | .plain path => do readInspection (← draft.setPath path) rest
    | .letters letters => do
      readInspection { draft with verbose := ← readLetters .command draft.verbose letters } rest
    | .name name (some value) =>
      if takesValue name then do readInspection (← draft.setOption name value) rest
      else .error .misuse
    | .name name none =>
      if takesValue name then
        match rest with
        | value :: rest =>
          if isValue value then do readInspection (← draft.setOption name value) rest
          else .error .misuse
        | [] => .error .misuse
      else do
        readInspection { draft with verbose := ← readFlag .command draft.verbose name } rest

/-- Reads the paths to check, at least one and none of them empty. -/
def readCheck (verbose : Bool) (paths : List String) : List String → Except Stop Invocation
  | [] => if paths.isEmpty then .error .misuse else .ok ⟨verbose, .check paths⟩
  | argument :: rest =>
    match Word.ofArgument argument with
    | .endOfFlags =>
      if rest.contains "" || (paths ++ rest).isEmpty then .error .misuse
      else .ok ⟨verbose, .check (paths ++ rest)⟩
    | .plain path =>
      if path = "" then .error .misuse else readCheck verbose (paths ++ [path]) rest
    | .letters letters => do readCheck (← readLetters .command verbose letters) paths rest
    | .name _ (some _) => .error .misuse
    | .name name none => do readCheck (← readFlag .command verbose name) paths rest

/-- Help can be asked for the whole program or for one command. -/
def readHelp : List String → Stop
  | [] => .help
  | [command] =>
    if command = "inspect" ∨ command = "check" ∨ command = "help" then .help else .misuse
  | _ => .misuse

def readProgram (verbose : Bool) : List String → Except Stop Invocation
  | [] => .error .misuse
  | argument :: rest =>
    match Word.ofArgument argument with
    | .endOfFlags => .error .misuse
    | .plain command =>
      if command = "inspect" then
        (readInspection {} rest).map fun call => { call with verbose := verbose || call.verbose }
      else if command = "check" then
        (readCheck false [] rest).map fun call => { call with verbose := verbose || call.verbose }
      else if command = "help" then .error (readHelp rest)
      else .error .misuse
    | .letters letters => do readProgram (← readLetters .program verbose letters) rest
    | .name _ (some _) => .error .misuse
    | .name name none => do readProgram (← readFlag .program verbose name) rest

def Invocation.parse (arguments : List String) : Except Stop Invocation :=
  readProgram false arguments

end CppIntrospect.CommandLine
