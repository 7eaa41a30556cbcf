import SqlQuery.Value
import SqlQuery.RawText

/-!
SQL text with slots for values, before any placeholder is numbered.

Slots are numbered from left to right, with one exception: the head of a `headed` fragment is
shown before the body and numbered after it. `render` writes the text for any way to write a
placeholder, `values` lists the values in the order of their numbers, and `size` is how many there
are. The text of a fragment does not depend on its values: `render` never looks at one.
-/

namespace SqlQuery

/-- A piece of SQL with slots for values. -/
inductive Fragment where
  | text (s : String)
  | slot (v : Value)
  | append (first second : Fragment)
  /-- A head that is shown before the body and numbered after it. -/
  | headed (head body : Fragment)
  deriving Repr

namespace Fragment

instance : Append Fragment := ⟨append⟩

/-- The number of slots. -/
def size : Fragment → Nat
  | text _ => 0
  | slot _ => 1
  | append a b => a.size + b.size
  | headed h b => b.size + h.size

/-- The values in the order of their numbers. -/
def values : Fragment → List Value
  | text _ => []
  | slot v => [v]
  | append a b => a.values ++ b.values
  | headed h b => b.values ++ h.values

/-- The text, with placeholders written by `placeholder` and numbered from `start + 1`. -/
def render (placeholder : Nat → String) (start : Nat) : Fragment → String
  | text s => s
  | slot _ => placeholder (start + 1)
  | append a b => a.render placeholder start ++ b.render placeholder (start + a.size)
  | headed h b => h.render placeholder (start + b.size) ++ b.render placeholder start

/-- Fragments with a text between any two. -/
def intercalate (separator : String) : List Fragment → Fragment
  | [] => text ""
  | [f] => f
  | f :: fs => f ++ text separator ++ intercalate separator fs

/-- Values separated by commas, each in a slot. -/
def slots (values : List Value) : Fragment :=
  intercalate ", " (values.map slot)

/-- Segments of raw text with a slot between any two. -/
def weave : List String → List Value → Fragment
  | [], _ => text ""
  | [s], _ => text s
  | s :: _, [] => text s
  | s :: ss, v :: vs => text s ++ slot v ++ weave ss vs

@[simp]
theorem length_values (f : Fragment) : f.values.length = f.size := by
  induction f with
  | text => rfl
  | slot => rfl
  | append a b iha ihb => simp [values, size, iha, ihb]
  | headed h b ihh ihb => simp [values, size, ihh, ihb]

theorem values_intercalate (separator : String) (fs : List Fragment) :
    (intercalate separator fs).values = fs.flatMap values := by
  induction fs with
  | nil => rfl
  | cons f fs ih =>
    cases fs with
    | nil => simp [intercalate]
    | cons g gs =>
      show (f.values ++ []) ++ (intercalate separator (g :: gs)).values = _
      rw [ih, List.append_nil, ← List.flatMap_cons]

end Fragment

end SqlQuery
