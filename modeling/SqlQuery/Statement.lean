import SqlQuery.Fragment
import SqlQuery.Dialect

/-!
Statements: SQL with numbered placeholders and the values that go with them.
-/

namespace SqlQuery

/-- A statement ready to be executed: its text, and its values in the order of their
placeholders. -/
structure Statement where
  sql : String
  bindings : List Value
  dialect : String
  deriving Repr

def Statement.ofFragment (d : Dialect) (f : Fragment) : Statement where
  sql := f.render d.placeholder 0
  bindings := f.values
  dialect := d.name

/-- The segments of something raw as a fragment, if they have one marker for each value between
them. -/
def Fragment.ofSegments (raw : Value) (segments : List String) (values : List Value) :
    Result Fragment :=
  let markers := segments.length - 1
  if markers = values.length then .ok (weave segments values)
  else reject (.bindingCountInStatement raw markers values.length)

/-- The raw text as a fragment, if it has one marker for each value. -/
def Fragment.ofRaw (raw : String) (values : List Value) : Result Fragment :=
  ofSegments (.text raw) (RawText.split raw) values

end SqlQuery
