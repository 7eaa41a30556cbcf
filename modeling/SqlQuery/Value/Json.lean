import SqlQuery.Value
import SqlQuery.Text.Sha256

/-!
Values as JSON text in ASCII.

A comma and a colon are followed by one space, and every character that is not printable ASCII is
escaped, beyond the basic plane as a pair of surrogates. Values that JSON lacks are handed to
`other`, which may give a text to write in their place.
-/

namespace SqlQuery.Value

def unitEscape (n : Nat) : String :=
  "\\u" ++ Text.hexPadded 4 n

def jsonChar (c : Char) : String :=
  if c == '"' then "\\\""
  else if c == '\\' then "\\\\"
  else if c == '\n' then "\\n"
  else if c == '\r' then "\\r"
  else if c == '\t' then "\\t"
  else if c == '\x0c' then "\\f"
  else if c == '\x08' then "\\b"
  else
    let n := c.toNat
    if 0x20 ≤ n && n < 0x7f then c.toString
    else if n < 0x10000 then unitEscape n
    else unitEscape (0xd800 + (n - 0x10000) / 0x400) ++ unitEscape (0xdc00 + (n - 0x10000) % 0x400)

def jsonText (s : String) : String :=
  "\"" ++ String.join (s.toList.map jsonChar) ++ "\""

/-- A JSON number, or the customary word for what JSON has no number for. -/
def jsonDouble : Double → String
  | .nan => "NaN"
  | .infinite s => if s then "-Infinity" else "Infinity"
  | d => d.format

/-- How to write JSON: in which order the keys of a mapping come, and what stands for a value that
JSON lacks. -/
structure JsonStyle where
  order : List (String × String) → List (String × String) := id
  other : Value → Option String := fun _ => none

mutual

/-- The JSON text of a value, or the name of the type that cannot be written. -/
def writeJson (style : JsonStyle) : Value → Except String String
  | null => .ok "null"
  | bool b => .ok (if b then "true" else "false")
  | int n => .ok (toString n)
  | double d => .ok (jsonDouble d)
  | text s => .ok (jsonText s)
  | list items | tuple items => do
    return "[" ++ ", ".intercalate (← writeJsonAll style items) ++ "]"
  | mapping entries => do
    let written := style.order (← writeJsonEntries style entries)
    return "\x7b" ++ ", ".intercalate (written.map fun (k, v) => jsonText k ++ ": " ++ v) ++ "\x7d"
  | v => match style.other v with
    | some s => .ok (jsonText s)
    | none => .error v.typeName

def writeJsonAll (style : JsonStyle) : List Value → Except String (List String)
  | [] => .ok []
  | v :: vs => do
    let first ← v.writeJson style
    return first :: (← writeJsonAll style vs)

def writeJsonEntries (style : JsonStyle) :
    List (String × Value) → Except String (List (String × String))
  | [] => .ok []
  | (k, v) :: rest => do
    let first ← v.writeJson style
    return (k, first) :: (← writeJsonEntries style rest)

end

/-- JSON with the keys as they come and no substitute for what JSON lacks. -/
def JsonStyle.strict : JsonStyle := {}

/-- JSON with sorted keys, and the plain text in place of what JSON lacks. -/
def JsonStyle.keyed : JsonStyle where
  order entries := entries.mergeSort fun a b => !(b.1 < a.1)
  other v := some v.plainText

def toJson (v : Value) : Except String String :=
  v.writeJson .strict

end SqlQuery.Value
