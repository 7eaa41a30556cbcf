import SqlQuery.Number.Read

/-!
Dates, times of day and moments, with their ISO 8601 texts.
-/

namespace SqlQuery

/-- A day of the calendar. -/
structure Date where
  year : Nat
  month : Nat
  day : Nat
  deriving DecidableEq, Repr, Inhabited

/-- A time of day, to the microsecond. -/
structure Time where
  hour : Nat
  minute : Nat
  second : Nat := 0
  micro : Nat := 0
  deriving DecidableEq, Repr, Inhabited

/-- A day and a time of that day. -/
structure Moment where
  date : Date
  time : Time
  deriving DecidableEq, Repr, Inhabited

/-- A number with leading zeros up to `width` digits. -/
def zeroPadded (width n : Nat) : String :=
  let digits := Nat.toDigits 10 n
  String.ofList (List.replicate (width - digits.length) '0' ++ digits)

/-- `YYYY-MM-DD`. -/
def Date.iso (d : Date) : String :=
  zeroPadded 4 d.year ++ "-" ++ zeroPadded 2 d.month ++ "-" ++ zeroPadded 2 d.day

/-- `HH:MM:SS`, and six digits after a point unless they are zeros. -/
def Time.iso (t : Time) : String :=
  zeroPadded 2 t.hour ++ ":" ++ zeroPadded 2 t.minute ++ ":" ++ zeroPadded 2 t.second
    ++ (if t.micro = 0 then "" else "." ++ zeroPadded 6 t.micro)

/-- The date and the time with `separator` between them. -/
def Moment.iso (m : Moment) (separator : String := "T") : String :=
  m.date.iso ++ separator ++ m.time.iso

open SqlQuery.Number SqlQuery.Text

/-- The value of exactly `width` ASCII digits. -/
def fixedDigits? (width : Nat) (cs : List Char) : Option Nat :=
  if cs.length == width && cs.all Char.isDigit then digitsValue? cs else none

/-- Reads `YYYY-MM-DD`. -/
def Date.ofChars? (cs : List Char) : Option Date :=
  match splitChars (· == '-') cs with
  | [y, m, d] => return ⟨← fixedDigits? 4 y, ← fixedDigits? 2 m, ← fixedDigits? 2 d⟩
  | _ => none

/-- Reads seconds with up to six digits after the point. -/
def readSeconds? (cs : List Char) : Option (Nat × Nat) :=
  match splitChars (· == '.') cs with
  | [s] => return (← fixedDigits? 2 s, 0)
  | [s, f] =>
    let six := (f ++ List.replicate (6 - f.length) '0').take 6
    return (← fixedDigits? 2 s, ← fixedDigits? 6 six)
  | _ => none

/-- Reads `HH:MM`, `HH:MM:SS` or the latter with a fraction. -/
def Time.ofChars? (cs : List Char) : Option Time :=
  match splitChars (· == ':') cs with
  | [h, m] => return ⟨← fixedDigits? 2 h, ← fixedDigits? 2 m, 0, 0⟩
  | [h, m, s] => do
    let (second, micro) ← readSeconds? s
    return ⟨← fixedDigits? 2 h, ← fixedDigits? 2 m, second, micro⟩
  | _ => none

/-- Reads a date and a time with one character between them; the time may be left out. -/
def Moment.ofChars? (cs : List Char) : Option Moment :=
  match cs.drop 10 with
  | [] => return ⟨← Date.ofChars? cs, ⟨0, 0, 0, 0⟩⟩
  | _ :: rest => return ⟨← Date.ofChars? (cs.take 10), ← Time.ofChars? rest⟩

end SqlQuery
