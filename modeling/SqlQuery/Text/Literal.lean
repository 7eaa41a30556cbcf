/-!
Single-quoted SQL literals: a quote inside the text is written twice, all else stands for itself.
-/

namespace SqlQuery.Text

/-- The characters of a text between the quotes of its literal. -/
def doubleQuotes : List Char → List Char
  | [] => []
  | c :: cs => if c = '\'' then '\'' :: '\'' :: doubleQuotes cs else c :: doubleQuotes cs

def sqlLiteral (s : String) : String :=
  String.ofList ('\'' :: doubleQuotes s.toList ++ ['\''])

end SqlQuery.Text
