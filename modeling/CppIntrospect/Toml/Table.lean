import CppIntrospect.Data.Datum

/-! Tables while a TOML text is read. A table is opened by a header, made up on the way to
another one, or made by a dotted key; that decides how it may be extended later. -/

namespace CppIntrospect.Toml

/-- How a table came to be. -/
inductive TableOrigin where
  /-- It has a header of its own. -/
  | header
  /-- It stands on the way to a table with a header. -/
  | implied
  /-- It stands on the way of a dotted key. -/
  | dotted
  deriving DecidableEq, Repr

inductive Node where
  | value (datum : Datum)
  | table (origin : TableOrigin) (fields : List (String × Node))
  /-- A list of tables. Only the last one can still change. -/
  | tables (closed : List Datum) (last : List (String × Node))

abbrev Fields := List (String × Node)

/-! What the tables stand for. -/

mutual

def Node.datum : Node → Datum
  | .value datum => datum
  | .table _ fields => .record (fieldData fields)
  | .tables closed last => .list (closed ++ [.record (fieldData last)])

def fieldData : List (String × Node) → List (String × Datum)
  | [] => []
  | (name, node) :: fields => (name, node.datum) :: fieldData fields

end

namespace Fields

/-- Replaces the node of a name by what `change` makes of it, or adds one at the end. -/
def update (change : Option Node → Option Node) (name : String) : Fields → Option Fields
  | [] => (change none).map fun node => [(name, node)]
  | (name', node) :: fields =>
    if name' = name then (change (some node)).map fun node => (name', node) :: fields
    else (update change name fields).map ((name', node) :: ·)

/-- Adds a value under a name that is not in use. -/
def addNew (name : String) (datum : Datum) : Fields → Option Fields :=
  update (fun
    | none => some (.value datum)
    | some _ => none) name

/-- Adds a value under a dotted key. The tables on the way are made as needed. A table with a
header is not entered this way, and the table that takes the value has to be a dotted one. -/
def addDotted (datum : Datum) : List String → String → Fields → Option Fields
  | [], name, fields => addNew name datum fields
  | key :: keys, name, fields =>
    fields.update (fun
      | none => (addDotted datum keys name []).map (.table .dotted)
      | some (.table .dotted inner) => (addDotted datum keys name inner).map (.table .dotted)
      | some (.table .implied inner) =>
        if keys.isEmpty then none
        else (addDotted datum keys name inner).map (.table .implied)
      | some (.tables closed last) =>
        if keys.isEmpty then none
        else (addDotted datum keys name last).map (.tables closed)
      | some (.table .header _) => none
      | some (.value _) => none) key

/-- Adds a value under a key of one or more parts. -/
def add (datum : Datum) : List String → Fields → Option Fields
  | [], _ => none
  | key :: keys, fields =>
    addDotted datum (key :: keys).dropLast ((key :: keys).getLast (by simp)) fields

/-- Changes the fields of the table at the end of a path of headers. Missing tables on the
way are made; of a list of tables the last one is taken. -/
def within (change : Fields → Option Fields) : List String → Fields → Option Fields
  | [], fields => change fields
  | key :: keys, fields =>
    fields.update (fun
      | none => (within change keys []).map (.table .implied)
      | some (.table origin inner) => (within change keys inner).map (.table origin)
      | some (.tables closed last) => (within change keys last).map (.tables closed)
      | some (.value _) => none) key

/-- Opens the table of a header. It has to be new, or so far only implied. -/
def openTable (path : List String) (name : String) : Fields → Option Fields :=
  within (update (fun
    | none => some (.table .header [])
    | some (.table .implied inner) => some (.table .header inner)
    | some _ => none) name) path

/-- Opens one more table of a list of tables. -/
def openItem (path : List String) (name : String) : Fields → Option Fields :=
  within (update (fun
    | none => some (.tables [] [])
    | some (.tables closed last) => some (.tables (closed ++ [.record (fieldData last)]) [])
    | some _ => none) name) path

end Fields

end CppIntrospect.Toml
