import SqlQuery.Argument
import SqlQuery.Number.Read

/-!
Lax reading of arguments into fields.

A field takes more than values of its own type: a text may stand for a number or a truth value, a
whole double for an integer, bytes for a text. What cannot be read is a `FaultKind`.

The faults of several fields are collected, so one reading reports all of them. A clause whose
parts do not fit together is no fault of a field: it fails the whole reading at once.
-/

namespace SqlQuery

open SqlQuery.Text SqlQuery.Number

/-- A scalar that was read, or why it could not be. -/
abbrev Read (α : Type) := Except FaultKind α

namespace Argument

/-- The text of a text, a word or UTF-8 bytes. -/
def readText : Argument → Read String
  | value (.text s) => .ok s
  | word w => .ok w.text
  | value (.bytes .view _) => .error .stringType
  | value (.bytes _ data) =>
    match String.fromUTF8? ⟨data.toArray⟩ with
    | some s => .ok s
    | none => .error .stringUnicode
  | _ => .error .stringType

/-- The text that a number or truth value may be read from. Bytes that are no text are a fault of
their own. -/
def spelling? (fault : FaultKind) (a : Argument) : Option (Read String) :=
  match a.readText with
  | .ok s => some (.ok s)
  | .error .stringUnicode => some (.error fault)
  | .error _ => none

/-! ## Integers -/

/-- A sign and digits without the zeros in front, but with one zero if there is nothing else before
the end or the point. An underscore among those zeros is dropped with them. -/
def dropLeadingZeros : List Char → Option (List Char)
  | [] => none
  | '0' :: cs =>
    let rest := cs.dropWhile fun c => c == '0' || c == '_'
    match rest with
    | [] => some [(cs.getLast?).getD '0']
    | '.' :: _ =>
      let skipped := cs.length - rest.length
      some ((if skipped = 0 then '0' else (cs[skipped - 1]?).getD '0') :: rest)
    | c :: _ => if c.isDigit || c == '-' then some rest else none
  | c :: cs => if c.isDigit || c == '-' then some (c :: cs) else none

/-- A number without its fraction, if that is a point and zeros, one at least. -/
def dropZeroFraction (cs : List Char) : List Char :=
  let whole := cs.takeWhile (· != '.')
  match cs.drop (whole.length + 1) with
  | [] => cs
  | fraction => if fraction.all (· == '0') then whole else cs

/-- Digits without underscores, if each underscore stands between two other characters. -/
def dropUnderscores (cs : List Char) : List Char :=
  if underscoresSeparate cs then cs.filter (· != '_') else cs

/-- A minus sign, if there is one, and what follows it. -/
def splitMinus : List Char → List Char × List Char
  | '-' :: cs => (['-'], cs)
  | cs => ([], cs)

/-- Whether a text starts with more digits than are read as an integer. The sign counts as a digit
here, and zeros in front are not counted. -/
def isTooLong (cs : List Char) : Bool :=
  let (sign, cs) := splitMinus cs
  let digits := cs.takeWhile Char.isDigit
  digits.head? != some '0' && decide (maxIntDigits < sign.length + digits.length)

/-- An integer without ornament: a minus sign, perhaps, and digits with no zero in front. -/
def plainInt? (cs : List Char) : Option Int :=
  let (sign, digits) := splitMinus cs
  let bare := match digits with
    | [] => false
    | ['0'] => true
    | d :: ds => d != '0' && d.isDigit && ds.all Char.isDigit
  if !bare || isTooLong cs then none
  else (digitsValue? digits).map fun n => if sign.isEmpty then (n : Int) else -n

/-- A text without the ornament that an integer may have: white space around it, a plus sign, zeros
in front, single underscores and a fraction of zeros. -/
def withoutOrnament (cs : List Char) : Option (List Char) := do
  let cs ← match trimChars isWhiteSpace cs with
    | '+' :: '-' :: _ => none
    | '+' :: cs => some cs
    | cs => some cs
  let (sign, cs) := splitMinus cs
  return sign ++ dropUnderscores (dropZeroFraction (← dropLeadingZeros cs))

/-- An integer in text, with ornament or without. -/
def intOfText (s : String) : Read Int :=
  match plainInt? s.toList, withoutOrnament s.toList >>= plainInt? with
  | some n, _ => .ok n
  | none, ornate => if isTooLong s.toList then .error .intParsingSize
    else ornate.elim (.error .intParsing) .ok

def fitsWord (n : Int) : Bool :=
  -(Nat.pow 2 63 : Int) ≤ n && n < Nat.pow 2 63

/-- An integer: a truth value counts as zero or one, and a double or decimal must be whole. -/
def readInt : Argument → Read Int
  | value (.int n) => .ok n
  | value (.bool b) => .ok (if b then 1 else 0)
  | value (.double d) =>
    match d.truncate? with
    | none => .error .finiteNumber
    | some n =>
      if !d.isIntegral then .error .intFromFloat
      else if fitsWord n && n != -(Nat.pow 2 63 : Int) then .ok n
      else .error .intParsingSize
  | value (.decimal d) =>
    match d.truncate? with
    | none => .error .finiteNumber
    | some n => if d.isIntegral then .ok n else .error .intFromFloat
  | a => match a.spelling? .intParsing with
    | some spelling => spelling >>= intOfText
    | none => .error .intType

/-! ## Truth values and doubles -/

def trueWords : List String := ["1", "on", "t", "true", "y", "yes"]

def falseWords : List String := ["0", "off", "f", "false", "n", "no"]

/-- A truth value in text, by the customary words in any case. -/
def boolOfText (s : String) : Read Bool :=
  let s := String.ofList (s.toList.map Char.toLower)
  if trueWords.contains s then .ok true
  else if falseWords.contains s then .ok false
  else .error .boolParsing

/-- A truth value as one of the numbers zero and one. -/
def boolOfInt (n : Int) : Read Bool :=
  if n = 0 then .ok false
  else if n = 1 then .ok true
  else if fitsWord n then .error .boolParsing
  else .error .boolType

/-- A truth value: a word for it, or the number zero or one. -/
def readBool : Argument → Read Bool
  | value (.bool b) => .ok b
  | value (.int n) => boolOfInt n
  | value (.double d) => wholeBool d
  | value (.decimal d) => wholeBool d.toDouble
  | a => match a.spelling? .boolParsing with
    | some spelling => spelling >>= boolOfText
    | none => .error .boolType
where
  wholeBool (d : Double) : Read Bool :=
    match d.isIntegral, d.truncate? with
    | true, some n => boolOfInt n
    | _, _ => .error .boolType

/-- A double in text: white space around it is allowed, or else single underscores in it. -/
def doubleOfText (s : String) : Read Double :=
  match Double.ofText? (String.ofList (trimChars isWhiteSpace s.toList)) with
  | some d => .ok d
  | none =>
    if s.toList.contains '_' && underscoresSeparate s.toList then
      match Double.ofText? (String.ofList (s.toList.filter (· != '_'))) with
      | some d => .ok d
      | none => .error .floatParsing
    else .error .floatParsing

/-- A double: any number within range, or its text. -/
def readDouble : Argument → Read Double
  | value (.double d) => .ok d
  | value (.int n) =>
    let d := Double.ofInt n
    if d.isFinite then .ok d else .error .floatType
  | value (.bool b) => .ok (Double.ofInt (if b then 1 else 0))
  | value (.decimal (.nan _ true _)) => .error .floatType
  | value (.decimal d) => .ok d.toDouble
  | a => match a.spelling? .floatParsing with
    | some spelling => spelling >>= doubleOfText
    | none => .error .floatType

/-! ## Words -/

/-- A word of a vocabulary, itself or by its exact text. -/
def readWord (ofText? : String → Option α) (a : Argument) : Read α :=
  match a.readText with
  | .ok s => (ofText? s).elim (.error .enumeration) .ok
  | .error _ => .error .enumeration

/-! ## Sequences -/

/-- The items of a sequence or an iterator. Texts, buffers and mappings are no sequences. -/
def items? : Argument → Option (List Argument)
  | list items | tuple items | stream items => some items
  | value (.list items) | value (.tuple items) => some (items.map value)
  | value (.bytes .view data) => some (ofBytes data)
  | _ => none

/-- Nothing for null, else what `read` makes of the argument. -/
def readOption (read : Argument → Read α) : Argument → Read (Option α)
  | value .null => .ok none
  | a => (read a).map some

end Argument

/-! ## Collecting faults -/

/-- What a field was read as, or its faults. -/
abbrev Checked (α : Type) := Except (List FieldFault) α

/-- A reading in progress: the faults so far. -/
abbrev Reader (α : Type) := StateT (List FieldFault) (Except Error) α

namespace Reader

def fault (path : List String) (kind : FaultKind) (default : α) : Reader α := do
  modify (· ++ [⟨path, kind⟩])
  return default

/-- Reads a field that may be left out. -/
def field (fields : Fields) (name : String) (default : α) (read : Argument → Read α) :
    Reader α :=
  match fields.lookup name with
  | none => return default
  | some a => match read a with
    | .ok x => return x
    | .error kind => fault [name] kind default

/-- Reads a field that must be there. -/
def required (fields : Fields) (name : String) (default : α) (read : Argument → Read α) :
    Reader α :=
  if (fields.lookup name).isNone then fault [name] .missing default
  else field fields name default read

/-- Reads a field whose value has parts of its own, which may hold faults. -/
def nested (fields : Fields) (name : String) (default : α)
    (read : Argument → Result (Checked α)) : Reader α :=
  match fields.lookup name with
  | none => return default
  | some a => do
    match ← read a with
    | .ok x => return x
    | .error faults =>
      modify (· ++ faults.map (·.under name))
      return default

def closed (fields : Fields) (names : List String) : Reader Unit :=
  modify (· ++ (fields.filter fun (k, _) => !names.contains k).map fun (k, _) =>
    ⟨[k], .extraForbidden⟩)

/-- Ends a reading: the result, or all faults. -/
def run (r : Reader α) : Result (Checked α) := do
  let (x, faults) ← StateT.run r []
  return if faults.isEmpty then .ok x else .error faults

end Reader

/-- Ends a reading whose parts must then fit together. -/
def Reader.complete (check : α → Result β) (r : Reader α) : Result (Checked β) := do
  match ← r.run with
  | .ok x => return .ok (← check x)
  | .error faults => return .error faults

def Checked.toResult : Result (Checked α) → Result α
  | .ok (.ok x) => .ok x
  | .ok (.error faults) => .error (.invalid faults)
  | .error e => .error e

/-- Reads every item of a sequence; a fault is found under the item's index. -/
def readItems (sequenceFault : FaultKind) (read : Argument → Result (Checked α))
    (a : Argument) : Result (Checked (List α)) :=
  match a.items? with
  | none => return .error [⟨[], sequenceFault⟩]
  | some items => go 0 items
where
  go (i : Nat) : List Argument → Result (Checked (List α))
    | [] => return .ok []
    | a :: as => do
      let first ← read a
      let rest ← go (i + 1) as
      match first, rest with
      | .ok x, .ok xs => return .ok (x :: xs)
      | .error fs, .ok _ => return .error (fs.map (·.under (toString i)))
      | .ok _, .error gs => return .error gs
      | .error fs, .error gs => return .error (fs.map (·.under (toString i)) ++ gs)

def readItem (read : Argument → Read α) (a : Argument) : Result (Checked α) :=
  match read a with
  | .ok x => return .ok x
  | .error kind => return .error [⟨[], kind⟩]

def readValues (sequenceFault : FaultKind) (a : Argument) : Result (Checked (List Value)) :=
  readItems sequenceFault (fun a => return .ok a.toValue) a

end SqlQuery
