import SqlQuery.Value
import SqlQuery.Vocabulary

/-!
Everything that can go wrong, by cause, with the message that each cause is reported with.

The causes fall in groups: a request rejected before any SQL is made (`Malformed`), values that do
not fit their field (`FieldFault`), SQL that a dialect cannot render, failures of the executor and
of the rows it hands out, misuse of transactions and slots, and configuration. `Foreign` stands
for failures that arise outside the library and pass through it.
-/

namespace SqlQuery

/-! ## Values that do not fit their field -/

/-- Why a value does not fit. -/
inductive FaultKind where
  | stringType
  | stringUnicode
  | intType
  | intParsing
  | intParsingSize
  | intFromFloat
  | finiteNumber
  | boolType
  | boolParsing
  | floatType
  | floatParsing
  | greaterThan (bound : Int)
  | greaterThanEqual (bound : Int)
  | enumeration
  | literal (allowed : List String)
  | listType
  | tupleType
  | dictType
  | modelType
  | missing
  | extraForbidden
  | frozenInstance
  | noSuchAttribute
  | valueError
  deriving DecidableEq, Repr

namespace FaultKind

def code : FaultKind → String
  | stringType => "string_type"
  | stringUnicode => "string_unicode"
  | intType => "int_type"
  | intParsing => "int_parsing"
  | intParsingSize => "int_parsing_size"
  | intFromFloat => "int_from_float"
  | finiteNumber => "finite_number"
  | boolType => "bool_type"
  | boolParsing => "bool_parsing"
  | floatType => "float_type"
  | floatParsing => "float_parsing"
  | greaterThan _ => "greater_than"
  | greaterThanEqual _ => "greater_than_equal"
  | enumeration => "enum"
  | literal _ => "literal_error"
  | listType => "list_type"
  | tupleType => "tuple_type"
  | dictType => "dict_type"
  | modelType => "model_type"
  | missing => "missing"
  | extraForbidden => "extra_forbidden"
  | frozenInstance => "frozen_instance"
  | noSuchAttribute => "no_such_attribute"
  | valueError => "value_error"

def message : FaultKind → String
  | stringType => "Input should be a valid string"
  | stringUnicode => "Input should be a valid string, unable to parse raw data as a unicode string"
  | intType => "Input should be a valid integer"
  | intParsing => "Input should be a valid integer, unable to parse string as an integer"
  | intParsingSize => "Unable to parse input string as an integer, exceeded maximum size"
  | intFromFloat => "Input should be a valid integer, got a number with a fractional part"
  | finiteNumber => "Input should be a finite number"
  | boolType => "Input should be a valid boolean"
  | boolParsing => "Input should be a valid boolean, unable to interpret input"
  | floatType => "Input should be a valid number"
  | floatParsing => "Input should be a valid number, unable to parse string as a number"
  | greaterThan n => "Input should be greater than " ++ toString n
  | greaterThanEqual n => "Input should be greater than or equal to " ++ toString n
  | enumeration => "Input should be one of the allowed values"
  | literal allowed => "Input should be " ++ " or ".intercalate (allowed.map Text.quoted)
  | listType => "Input should be a valid list"
  | tupleType => "Input should be a valid tuple"
  | dictType => "Input should be a valid dictionary"
  | modelType => "Input should be a valid dictionary or instance of the model"
  | missing => "Field required"
  | extraForbidden => "Extra inputs are not permitted"
  | frozenInstance => "Instance is frozen"
  | noSuchAttribute => "Object has no such attribute"
  | valueError => "Value error"

end FaultKind

/-- A value that does not fit, with the path to its field. -/
structure FieldFault where
  path : List String
  kind : FaultKind
  deriving DecidableEq, Repr

/-- The path with its parts joined by dots. -/
def FieldFault.location (f : FieldFault) : String :=
  ".".intercalate f.path

/-- The same fault seen from outside a field. -/
def FieldFault.under (f : FieldFault) (part : String) : FieldFault :=
  { f with path := part :: f.path }

/-! ## Requests rejected before any SQL is made -/

/-- Clauses whose parts do not fit together. -/
inductive ClauseFault where
  | rawOnly (site : RawSite)
  | selectNeedsColumn
  | needsColumn (site : RawSite)
  | filterNeedsRaw
  | rawFilterWithColumn (raw : String)
  | filterWithRaw (kind : FilterKind)
  | filterNeedsColumn (kind : FilterKind)
  | filterOperator (kind : FilterKind) (operator : Option Operator) (column : String)
  | betweenCount (count : Nat) (column : String)
  | noValues (column : String)
  | noSubquery
  | emptyGroup
  | needsTwoColumns
  | columnOperator (operator : Option Operator)
  | noTextColumns
  | noColumns
  | multiOperator (operator : Option Operator)
  | noDatePart
  | noPath
  | havingOperator (operator : Option Operator)
  | joinNeedsCondition (kind : JoinKind) (table : String)
  | joinWithoutOn (table : Value)
  | missingValue (column : Value)
  | notACount (field : String) (value : Value)
  deriving Repr

namespace ClauseFault

def operatorText (operator : Option Operator) : String :=
  match operator with
  | none => "none"
  | some op => op.text

def message : ClauseFault → String
  | rawOnly site => "raw " ++ site.text ++ " needs raw text only"
  | selectNeedsColumn => "select item needs a column"
  | needsColumn site => site.text ++ " clause needs a column"
  | filterNeedsRaw => "raw filter needs raw text"
  | rawFilterWithColumn _ => "raw filter cannot also carry a structured column"
  | filterWithRaw kind => kind.text ++ " filter cannot carry raw text"
  | filterNeedsColumn kind => kind.text ++ " filter needs a column"
  | filterOperator kind operator _ =>
    "operator '" ++ operatorText operator ++ "' is not valid for a " ++ kind.text ++ " filter"
      ++ (operator.map Operator.hint).getD ""
  | betweenCount count _ => "between requires exactly 2 values, got " ++ toString count
  | noValues _ => "in filter needs at least one value"
  | noSubquery => "exists filter needs a sub-query"
  | emptyGroup => "nested filter group is empty"
  | needsTwoColumns => "column comparison needs two columns"
  | columnOperator operator =>
    "operator '" ++ operatorText operator ++ "' is not valid for a column comparison"
  | noTextColumns => "full-text filter needs at least one column"
  | noColumns => "multi-column filter needs at least one column"
  | multiOperator operator =>
    "operator '" ++ operatorText operator ++ "' is not valid for a multi-column filter"
  | noDatePart => "date filter needs a date part"
  | noPath => "json path filter needs a path"
  | havingOperator operator =>
    "operator '" ++ operatorText operator ++ "' is not valid for a having clause"
  | joinNeedsCondition kind table =>
    kind.text ++ " join on '" ++ table ++ "' needs an ON condition"
  | joinWithoutOn table => "join on '" ++ table.plainText ++ "' needs an on() condition"
  | missingValue column => "where('" ++ column.plainText ++ "') needs a value"
  | notACount field value =>
    field ++ " must be a non-negative integer, got " ++ value.inspect

def details : ClauseFault → List (String × Value)
  | rawFilterWithColumn raw => [("raw", .text raw)]
  | filterOperator _ _ column | betweenCount _ column | noValues column =>
    [("column", .text column)]
  | joinNeedsCondition _ table => [("table", .text table)]
  | joinWithoutOn table => [("table", table)]
  | missingValue column => [("column", column)]
  | notACount field value => [(field, value)]
  | _ => []

end ClauseFault

/-- Why a request was rejected. -/
inductive Malformed where
  | clause (fault : ClauseFault)
  | bindingCount (raw : Value) (markers bindings : Nat)
  | bindingCountInStatement (raw : Value) (markers bindings : Nat)
  | unusedSelectValues (count : Nat)
  | unknownOperator (shown : String) (given : Value)
  | notInvertible (operator : Operator)
  | unknownConnective (shown : String)
  | unknownDirection (shown : String)
  | unknownLock (shown : String)
  | notASubquery (typeName : String)
  | emptyValues (action : String)
  | noTable (action : String)
  | unknownAggregate (function : String)
  | missingCursor (shown column key : String)
  | chunkSize (size : Value)
  | other (text : String)
  deriving Repr

namespace Malformed

def message : Malformed → String
  | clause fault => fault.message
  | bindingCount _ markers bindings | bindingCountInStatement _ markers bindings =>
    "raw fragment has " ++ toString markers ++ " placeholder(s) but " ++ toString bindings
      ++ " binding(s)"
  | unusedSelectValues count =>
    toString count ++ " select binding(s) have no matching placeholder"
  | unknownOperator shown _ => "unknown operator '" ++ shown ++ "'"
  | notInvertible operator => "operator '" ++ operator.text ++ "' cannot be inverted"
  | unknownConnective shown => "unknown boolean connective '" ++ shown ++ "'"
  | unknownDirection shown => "unknown sort direction '" ++ shown ++ "'"
  | unknownLock shown => "unknown lock mode '" ++ shown ++ "'"
  | notASubquery typeName => "expected a sub-query, got " ++ typeName
  | emptyValues action => "no values provided for " ++ action
  | noTable action => "no table specified for " ++ action
  | unknownAggregate function => "unknown aggregate function '" ++ function ++ "'"
  | missingCursor shown _ _ =>
    "cursor column '" ++ shown ++ "' is missing from the result rows"
  | chunkSize _ => "chunk size must be positive"
  | other text => text

/-- The machine-readable code of a rejection. -/
def code : Malformed → String
  | clause _ => "INVALID_CLAUSE"
  | bindingCount .. | bindingCountInStatement .. | unusedSelectValues _ =>
    "BINDING_COUNT_MISMATCH"
  | unknownOperator .. | notInvertible _ => "UNKNOWN_OPERATOR"
  | unknownConnective _ => "UNKNOWN_BOOLEAN"
  | unknownDirection _ => "UNKNOWN_DIRECTION"
  | unknownLock _ => "UNKNOWN_LOCK"
  | notASubquery _ => "INVALID_SUBQUERY"
  | emptyValues _ => "EMPTY_VALUES"
  | noTable _ => "NO_TABLE"
  | unknownAggregate _ => "UNKNOWN_AGGREGATE"
  | missingCursor .. => "MISSING_CURSOR"
  | chunkSize _ => "INVALID_CHUNK_SIZE"
  | other _ => "MALFORMED_QUERY"

/-- What a rejection says about the input, in order. -/
def details : Malformed → List (String × Value)
  | clause fault => fault.details
  | bindingCount raw markers bindings =>
    [("raw", raw), ("markers", .int markers), ("bindings", .int bindings)]
  | bindingCountInStatement raw _ _ => [("raw", raw)]
  | unusedSelectValues count => [("unused", .int count)]
  | unknownOperator _ given =>
    [("operator", given), ("allowed", .list (Operator.all.map (.text ·.text)))]
  | notInvertible operator => [("operator", .text operator.text)]
  | unknownLock _ => [("allowed", .list (LockMode.all.map (.text ·.text)))]
  | unknownAggregate _ => [("allowed", .list (Aggregate.all.map (.text ·.text)))]
  | missingCursor _ column key => [("column", .text column), ("key", .text key)]
  | chunkSize size => [("size", size)]
  | _ => []

end Malformed

/-! ## Transactions, slots and configuration -/

/-- Misuse of transactions. -/
inductive TransactionFault where
  | nested
  | unsupported (executor : String)
  | alreadyOpen
  | alreadyFinished
  | other (text : String)
  deriving DecidableEq, Repr

def TransactionFault.message : TransactionFault → String
  | nested => "nested transactions are not supported"
  | unsupported executor => executor ++ " does not support transactions"
  | alreadyOpen => "transaction already in progress"
  | alreadyFinished => "transaction already finished"
  | other text => text

/-- Why a wait for an execution slot was given up. -/
inductive CancelFault where
  | signalled
  | timedOut
  | other (text : String)
  deriving DecidableEq, Repr

def CancelFault.message : CancelFault → String
  | signalled => "cancelled while waiting for an execution slot"
  | timedOut => "timed out waiting for an execution slot"
  | other text => text

/-- Settings and connections that do not fit. -/
inductive ConfigFault where
  | detached
  | option (field : String) (reason : String)
  | duplicateName (name : String)
  | noConnections
  | unknownName (name : Value)
  deriving Repr

namespace ConfigFault

def message : ConfigFault → String
  | detached => "query builder is not bound to an executor; create it with Database.table()"
  | option field reason => "Invalid chainQL configuration for '" ++ field ++ "': " ++ reason
  | duplicateName name => "a database named '" ++ name ++ "' is already registered"
  | noConnections => "no databases registered"
  | unknownName name => "no database registered as '" ++ name.plainText ++ "'"

def field : ConfigFault → Option Value
  | detached => some (.text "executor")
  | option field _ => if field.isEmpty then none else some (.text field)
  | duplicateName name => some (.text name)
  | unknownName name => some name
  | noConnections => none

end ConfigFault

/-! ## Failures from outside -/

/-- The kinds of failure that arise outside the library's own rules. -/
inductive ForeignKind where
  | runtime
  | value
  | os
  | key
  | type
  | overflow
  | index
  | missingAttribute
  | arithmetic
  | division
  | decimalDivision
  | decimalOverflow
  deriving DecidableEq, Repr

def ForeignKind.text : ForeignKind → String
  | runtime => "RuntimeError"
  | value => "ValueError"
  | os => "OSError"
  | key => "KeyError"
  | type => "TypeError"
  | overflow => "OverflowError"
  | index => "IndexError"
  | missingAttribute => "AttributeError"
  | arithmetic => "InvalidOperation"
  | division => "ZeroDivisionError"
  | decimalDivision => "DivisionByZero"
  | decimalOverflow => "Overflow"

def ForeignKind.all : List ForeignKind :=
  [.runtime, .value, .os, .key, .type, .overflow, .index, .missingAttribute, .arithmetic, .division,
   .decimalDivision, .decimalOverflow]

def ForeignKind.ofText? (s : String) : Option ForeignKind :=
  ForeignKind.all.find? (·.text == s)

/-! ## All errors -/

inductive Error where
  /-- A request rejected before any SQL was made. -/
  | malformed (cause : Malformed)
  /-- Values that do not fit their fields. -/
  | invalid (faults : List FieldFault)
  /-- A dialect name that nothing is registered for, with the names that are. -/
  | unknownDialect (name : String) (known : List String)
  /-- A feature that a dialect has no rendering for. -/
  | unsupported (feature dialect : String) (reason : Option String)
  /-- The executor failed on a statement. -/
  | execution (action sql : String) (bindings : List Value) (cause : Error)
  /-- A row could not be read. -/
  | rowRead (index : Nat) (cause : Error)
  /-- A row failure raised outside the library. -/
  | rowFailure (text : String)
  /-- A lookup matched no row. -/
  | notFound (table : Option String) (key : Value)
  /-- An aggregate result that is no number. The function is named by a text or by bytes. -/
  | aggregate (function : Value) (value : Value)
  | transaction (fault : TransactionFault)
  | cancelled (fault : CancelFault)
  | configuration (fault : ConfigFault)
  /-- A key that nothing is kept under. -/
  | missingKey (key : Value)
  /-- A failure of another kind. -/
  | foreign (kind : ForeignKind) (text : String)
  deriving Repr

namespace Error

/-- The name of an error's class. -/
def kind : Error → String
  | malformed _ => "MalformedQueryError"
  | invalid _ => "ValidationError"
  | unknownDialect .. => "CompilationError"
  | unsupported .. => "UnsupportedFeatureError"
  | execution .. => "QueryExecutionError"
  | rowRead .. | rowFailure _ => "RowIterationError"
  | notFound .. => "RecordNotFoundError"
  | aggregate .. => "AggregateTypeError"
  | transaction _ => "TransactionError"
  | cancelled _ => "QueryCancelledError"
  | configuration _ => "ConfigurationError"
  | missingKey _ => ForeignKind.key.text
  | foreign k _ => k.text

/-- An error in words. A missing key is named in quotes. -/
def message : Error → String
  | malformed cause => cause.message
  | invalid faults =>
    "; ".intercalate (faults.map fun f => f.location ++ ": " ++ f.kind.message)
  | unknownDialect name known =>
    "Unsupported dialect: '" ++ name ++ "'. Registered dialects: "
      ++ (Value.list (known.map .text)).inspect ++ "."
  | unsupported feature dialect reason =>
    reason.getD (feature ++ " is not supported for dialect '" ++ dialect ++ "'.")
  | execution action _ _ _ => "failed to execute " ++ action
  | rowRead index cause => "failed to read row " ++ toString index ++ ": " ++ cause.message
  | rowFailure text => text
  | notFound table .null => match table with
    | some t => if t.isEmpty then "no record found" else "no record found in '" ++ t ++ "'"
    | none => "no record found"
  | notFound table key =>
    "no record found in '" ++ table.getD "None" ++ "' for key " ++ key.inspect
  | aggregate function value =>
    "unexpected " ++ function.plainText ++ " result type " ++ value.typeName ++ ": "
      ++ value.inspect
  | transaction fault => fault.message
  | cancelled fault => fault.message
  | configuration fault => fault.message
  | missingKey key => key.inspect
  | foreign .key text => Text.quoted text
  | foreign _ text => text

/-- Whether an error is one of the library's own. The others come from the executor, from
callbacks or from values that an operation cannot take. -/
def isOwn : Error → Bool
  | foreign .. | missingKey _ | invalid _ => false
  | _ => true

/-- Whether an error says that reading a row failed. -/
def isRowFailure : Error → Bool
  | rowRead .. | rowFailure _ => true
  | _ => false

def argument : Error → String
  | foreign _ text => text
  | e => e.message

/-- An error made by others from the name of its class and a text. -/
def ofText? (kind text : String) : Option Error :=
  match kind with
  | "QueryCancelledError" => some (cancelled (.other text))
  | "TransactionError" => some (transaction (.other text))
  | "MalformedQueryError" => some (malformed (.other text))
  | "RowIterationError" => some (rowFailure text)
  | kind => (ForeignKind.ofText? kind).map (foreign · text)

/-- The form of an error in logs: its class and the text it was made with. -/
def inspect (e : Error) : String :=
  e.kind ++ "(" ++ Text.quoted e.argument ++ ")"

end Error

/-- A computation that may fail. -/
abbrev Result (α : Type) := Except Error α

def reject (cause : Malformed) : Result α :=
  .error (.malformed cause)

/-- Fails with a clause whose parts do not fit. -/
def rejectClause (fault : ClauseFault) : Result α :=
  .error (.malformed (.clause fault))

end SqlQuery
