import Phrasebook.Json.Basic
import Phrasebook.Number.Layout

/-!
# Compact JSON text

`Json.text` writes a value without any space: members in their order, only the characters escaped
that have to be, numbers as `Layout.json` says.
-/

namespace Phrasebook.Json

/-- Four hexadecimal digits. -/
def fourDigits (n : Nat) : List Char :=
  let digits := Nat.toDigits 16 n
  List.replicate (4 - digits.length) '0' ++ digits

/-- A character inside a JSON string. -/
def escapeChar (c : Char) : List Char :=
  match c with
  | '"' => ['\\', '"']
  | '\\' => ['\\', '\\']
  | '\x08' => ['\\', 'b']
  | '\x0c' => ['\\', 'f']
  | '\n' => ['\\', 'n']
  | '\r' => ['\\', 'r']
  | '\t' => ['\\', 't']
  | c => if c.toNat < 32 then ['\\', 'u'] ++ fourDigits c.toNat else [c]

/-- A JSON string. -/
def quoted (text : String) : String :=
  "\"" ++ String.ofList (text.toList.flatMap escapeChar) ++ "\""

/-- A number that is not an exact integer; JSON has no text for the infinities. -/
def realText : Binary64 → String
  | .finite negative m e => Layout.json.write negative m e
  | _ => "null"

mutual

/-- The compact text of a value. -/
def text : Json → String
  | .null => "null"
  | .bool true => "true"
  | .bool false => "false"
  | .int n => toString n
  | .real x => realText x
  | .str s => quoted s
  | .arr elements => "[" ++ ",".intercalate (elementTexts elements) ++ "]"
  | .obj members => "\x7b" ++ ",".intercalate (memberTexts members) ++ "\x7d"

/-- The texts of the elements of an array. -/
def elementTexts : List Json → List String
  | [] => []
  | element :: rest => text element :: elementTexts rest

/-- The texts of the members of an object. -/
def memberTexts : List (String × Json) → List String
  | [] => []
  | (name, value) :: rest => (quoted name ++ ":" ++ text value) :: memberTexts rest

end

end Phrasebook.Json
