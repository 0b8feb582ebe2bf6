import CppIntrospect.Data.Datum
import CppIntrospect.Text.Hexadecimal

/-! Data written as JSON over several lines, two spaces for each level. -/

namespace CppIntrospect.Json

open Text

/-- A character inside a string. Only the quote, the backslash and control characters below
the space are escaped. -/
def escape (c : Char) : List Char :=
  match c with
  | '"' => ['\\', '"']
  | '\\' => ['\\', '\\']
  | '\n' => ['\\', 'n']
  | '\t' => ['\\', 't']
  | '\r' => ['\\', 'r']
  | '\x08' => ['\\', 'b']
  | '\x0c' => ['\\', 'f']
  | c =>
    if c.toNat < 0x20 then
      ['\\', 'u', '0', '0', hexDigit (c.toNat / 16), hexDigit (c.toNat % 16)]
    else [c]

def quote (s : String) : String := "\"" ++ String.ofList (s.toList.flatMap escape) ++ "\""

def indent (level : Nat) : String := String.ofList (List.replicate (2 * level) ' ')

/-- The members of a list or a record, each on a line of its own. -/
def block (opening closing : String) (level : Nat) : List String → String
  | [] => opening ++ closing
  | members =>
    opening ++ "\n" ++ indent (level + 1) ++ (",\n" ++ indent (level + 1)).intercalate members ++
      "\n" ++ indent level ++ closing

mutual

def prettyAt (level : Nat) : Datum → String
  | .null => "null"
  | .other => "null"
  | .bool true => "true"
  | .bool false => "false"
  | .integer value => value.repr
  | .text value => quote value
  | .list items => block "[" "]" level (prettyItems (level + 1) items)
  | .record fields => block "\x7b" "\x7d" level (prettyFields (level + 1) fields)

def prettyItems (level : Nat) : List Datum → List String
  | [] => []
  | item :: items => prettyAt level item :: prettyItems level items

def prettyFields (level : Nat) : List (String × Datum) → List String
  | [] => []
  | (name, value) :: fields =>
    (quote name ++ ": " ++ prettyAt level value) :: prettyFields level fields

end

def pretty (datum : Datum) : String := prettyAt 0 datum

end CppIntrospect.Json
