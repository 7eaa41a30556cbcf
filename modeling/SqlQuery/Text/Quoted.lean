import SqlQuery.Text.Printable

/-!
The quoted form of a text or of bytes in a message. A quote that occurs inside chooses the other
quote, unless both occur; then the chosen quote is escaped.
-/

namespace SqlQuery.Text

/-- The digits of `n` to base 16, in lower case, with zeros up to `width`. -/
def hexPadded (width n : Nat) : String :=
  let digits := Nat.toDigits 16 n
  String.ofList (List.replicate (width - digits.length) '0' ++ digits)

/-- The quote for a text: the single one, unless the text holds a single and no double quote. -/
def quoteFor (single double : Bool) : Char :=
  if single && !double then '"' else '\''

/-- An escape for the characters that need one in both forms, given the quote in use. -/
def commonEscape? (quote c : Char) : Option String :=
  if c == quote || c == '\\' then some (String.ofList ['\\', c])
  else if c == '\t' then some "\\t"
  else if c == '\n' then some "\\n"
  else if c == '\r' then some "\\r"
  else none

def quotedChar (quote c : Char) : String :=
  match commonEscape? quote c with
  | some e => e
  | none =>
    if isPrintable c then c.toString
    else if c.toNat < 0x100 then "\\x" ++ hexPadded 2 c.toNat
    else if c.toNat < 0x10000 then "\\u" ++ hexPadded 4 c.toNat
    else "\\U" ++ hexPadded 8 c.toNat

def quoted (s : String) : String :=
  let quote := quoteFor (s.toList.contains '\'') (s.toList.contains '"')
  quote.toString ++ String.join (s.toList.map (quotedChar quote)) ++ quote.toString

/-- One byte of quoted bytes: ASCII stands for itself, every other byte is escaped. -/
def quotedByte (quote : Char) (b : UInt8) : String :=
  let c := Char.ofNat b.toNat
  match commonEscape? quote c with
  | some e => e
  | none => if 0x20 ≤ b && b < 0x7f then c.toString else "\\x" ++ hexPadded 2 b.toNat

/-- Bytes in quotes, marked by a leading `b`. -/
def quotedBytes (bytes : List UInt8) : String :=
  let quote := quoteFor (bytes.contains 0x27) (bytes.contains 0x22)
  "b" ++ quote.toString ++ String.join (bytes.map (quotedByte quote)) ++ quote.toString

end SqlQuery.Text
