import SqlQuery.Collection
import SqlQuery.Reading
import SqlQuery.Result.Column

/-!
Operands of any type where a text, a list of texts or a mapping is wanted.

Nothing is read as a field here: an operand is used as it is, and what it cannot do is an error that
names its type. Which error that is depends on what is done with the operand first, so there is a
reader for each use.
-/

namespace SqlQuery.Argument

/-- A text, or the plain text of anything else. -/
def asText (a : Argument) : String :=
  match a.readText with
  | .ok s => s
  | .error _ => a.toValue.plainText

/-! ## Texts -/

def text? : Argument → Option String
  | value (.text s) => some s
  | word w => some w.text
  | _ => none

/-- An argument that was asked for something it does not have. -/
def lacks (a : Argument) (member : String) : Error :=
  .foreign .missingAttribute
    ("'" ++ a.qualifiedTypeName ++ "' object has no attribute '" ++ member ++ "'")

/-- Whether an argument is bytes that can be worked on like a text, but not mixed with one. -/
def isBytes : Argument → Bool
  | value (.bytes .fixed _) | value (.bytes .growable _) => true
  | _ => false

def mixed : Error :=
  .foreign .type "a bytes-like object is required, not 'str'"

/-- The text of an operand that is worked on by `member` first; bytes get as far as `onBytes`. -/
def textBy (member : String) (onBytes : Error) (a : Argument) : Result String :=
  match a.text? with
  | some s => .ok s
  | none => .error (if a.isBytes then onBytes else a.lacks member)

def pathText : Argument → Result String :=
  textBy "strip" (.foreign .type "startswith first arg must be bytes or a tuple of bytes, not str")

/-- The text of a literal. Dates and times have parts that can be replaced, but no quotes. -/
def literalText : Argument → Result String
  | value (.date _) | value (.time _) | value (.moment _) =>
    .error (.foreign .type "'str' object cannot be interpreted as an integer")
  | a => textBy "replace" mixed a

def columnName (a : Argument) : ColumnName where
  text := a.asText
  shown := a.shown
  key := (textBy "lower" mixed a).map resultName

/-- The name of an aggregate function, which is looked up in upper case. -/
def functionName (a : Argument) : Result String :=
  if a.isBytes then .ok a.shown else textBy "upper" mixed a

/-! ## Lists of texts -/

/-- The texts of items, the first of which has the number `i`. -/
def textsFrom (i : Nat) : List Argument → Result (List String)
  | [] => .ok []
  | a :: as => match a.text? with
    | some s => do return s :: (← textsFrom (i + 1) as)
    | none => .error (.foreign .type
        ("sequence item " ++ toString i ++ ": expected str instance, " ++ a.qualifiedTypeName
          ++ " found"))

def partsToJoin (a : Argument) : Result (List Argument) :=
  match a.parts with
  | .ok parts => .ok parts
  | .error _ => .error (.foreign .type "can only join an iterable")

/-! ## Raw text -/

/-- The items of a raw list between its markers. An item counts as a character, so a marker or a
quote is an item that consists of it, and two markers in a row stay two. -/
def itemSegments (quote : Option String) : List Argument → List (List Argument)
  | [] => [[]]
  | a :: as =>
    let isQuoteText (s : String) : Bool := s == "'" || s == "\"" || s == "\x60"
    if quote.isNone && a.text? == some "?" then [] :: itemSegments none as
    else
      let next := match quote with
        | some q => if a.text? == some q then none else some q
        | none => a.text?.filter isQuoteText
      match itemSegments next as with
      | [] => [[a]]
      | s :: ss => (a :: s) :: ss

/-- The segments of a raw operand between its markers. -/
def rawSegments (a : Argument) : Result (List String) :=
  let ofItems (items : List Argument) : Result (List String) :=
    (itemSegments none items).mapM fun segment => return String.join (← textsFrom 0 segment)
  let ofEntries (isEmpty : Bool) : Result (List String) :=
    if isEmpty then .ok [""] else .error (.missingKey (.int 0))
  match a with
  | value (.text s) => .ok (RawText.split s)
  | word w => .ok (RawText.split w.text)
  | list items | tuple items => ofItems items
  | value (.list items) | value (.tuple items) => ofItems (items.map value)
  | value (.bytes _ data) => ofItems (ofBytes data)
  | mapping entries => ofEntries entries.isEmpty
  | value (.mapping entries) => ofEntries entries.isEmpty
  | a => .error (.foreign .type ("object of type '" ++ a.qualifiedTypeName ++ "' has no len()"))

/-! ## Mappings -/

def mapping? : Argument → Option Row
  | mapping entries => some (toEntries entries)
  | value (.mapping entries) => some entries
  | _ => none

/-- The entries of a mapping, none for an operand that is empty or null. -/
def row? (a : Argument) : Option Row :=
  a.mapping?.or (if a.isTruthy then none else some [])

/-- The entries of every mapping in a list, none for an operand that is empty or null. -/
def rows? : Argument → Option (List Row)
  | list items | tuple items => items.mapM mapping?
  | value (.list items) | value (.tuple items) => items.mapM fun v => (value v).mapping?
  | a => if a.isTruthy then none else some []

def plain? : Argument → Option String
  | value (.text s) => some s
  | _ => none

/-- The items of a list or a tuple of plain texts. -/
def texts? : Argument → Option (List String)
  | list items | tuple items => items.mapM plain?
  | _ => none

/-- The entries of a mapping that is asked for its items, none for an operand that is empty or
null. -/
def rowOrLacks (a : Argument) : Result Row :=
  match a.row? with
  | some row => .ok row
  | none => .error (a.lacks "items")

/-- A key and a value as the two parts of the `i`-th item. -/
def pairOf (i : Nat) (a : Argument) : Result (Value × Value) :=
  let which := "dictionary update sequence element #" ++ toString i
  match a.parts with
  | .error _ => .error (.foreign .type ("cannot convert " ++ which ++ " to a sequence"))
  | .ok [k, v] => .ok (k.toValue, v.toValue)
  | .ok parts => .error (.foreign .value
      (which ++ " has length " ++ toString parts.length ++ "; 2 is required"))

/-- Adds pairs to entries under keys, the first of which has the number `i`. -/
def addPairs (i : Nat) (entries : Keyed Value) : List Argument → Result (Keyed Value)
  | [] => .ok entries
  | a :: as => do
    let (k, v) ← pairOf i a
    addPairs (i + 1) (Collection.alter (← Collection.asKey k) (fun _ => v) entries) as

/-- The entries of a mapping or of a sequence of pairs, as a row whose columns are the plain texts
of the keys. -/
def toRow (a : Argument) : Result Row :=
  match a.mapping? with
  | some entries => .ok entries
  | none => do
    let entries ← addPairs 0 [] (← a.parts)
    return Row.ofEntries (entries.map fun (k, v) => (k.plainText, v))

end SqlQuery.Argument
