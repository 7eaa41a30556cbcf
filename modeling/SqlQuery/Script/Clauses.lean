import SqlQuery.Clause.Make
import SqlQuery.Script.Form

/-!
Functions by name that make a single clause.
-/

namespace SqlQuery

abbrev ClauseMaker := Form Argument

namespace ClauseMaker

def joinedBy : Param Argument := ⟨"boolean", some (.word (.connective .and))⟩

def no (name : String) : Param Argument := ⟨name, some (.value (.bool false))⟩

def empty (name : String) : Param Argument := ⟨name, some (.tuple [])⟩

def filter (params : List (Param Argument)) (make : (Nat → Argument) → Result Filter) :
    ClauseMaker :=
  ⟨params, fun a => (make a).map .filter⟩

def all : List (String × ClauseMaker) :=
  [("select_column", ⟨paramsOf ["column", "alias"],
      fun a => (SelectItem.ofColumn (a 0) (a 1)).map .selectItem⟩),
   ("select_raw", ⟨paramsOf ["raw"], fun a => (SelectItem.ofRaw (a 0)).map .selectItem⟩),
   ("where_basic", filter (paramsOf ["column", "operator", "value"] ++ [joinedBy])
      fun a => Filter.compare (a 0) (a 1) (a 2) (a 3)),
   ("where_between", filter (paramsOf ["column", "values"] ++ [joinedBy, no "negated"])
      fun a => Filter.between (a 0) (a 1) (a 2) (a 3)),
   ("where_in", filter (paramsOf ["column", "values"] ++ [joinedBy, no "negated"])
      fun a => Filter.among (a 0) (a 1) (a 2) (a 3)),
   ("where_null", filter (paramsOf ["column"] ++ [joinedBy, no "negated"])
      fun a => Filter.null (a 0) (a 1) (a 2)),
   ("where_exists", filter (paramsOf ["query"] ++ [joinedBy, no "negated"])
      fun a => Filter.existing (a 0) (a 1) (a 2)),
   ("where_nested", filter (paramsOf ["wheres"] ++ [joinedBy])
      fun a => Filter.nested (a 0) (a 1)),
   ("where_raw", filter (paramsOf ["raw"] ++ [empty "bindings", joinedBy])
      fun a => Filter.raw (a 0) (a 1) (a 2)),
   ("where_column", filter (paramsOf ["first", "operator", "second"] ++ [joinedBy])
      fun a => Filter.compareColumns (a 0) (a 1) (a 2) (a 3)),
   ("where_date", filter (paramsOf ["column", "part", "operator", "value"] ++ [joinedBy])
      fun a => Filter.compareDatePart (a 0) (a 1) (a 2) (a 3) (a 4)),
   ("where_json_contains", filter (paramsOf ["column", "value"] ++ [joinedBy])
      fun a => Filter.jsonContains (a 0) (a 1) (a 2)),
   ("where_json_length", filter (paramsOf ["column", "operator", "value"] ++ [joinedBy])
      fun a => Filter.jsonLength (a 0) (a 1) (a 2) (a 3)),
   ("where_json_path", filter (paramsOf ["column", "path", "operator", "value"] ++ [joinedBy])
      fun a => Filter.jsonPath (a 0) (a 1) (a 2) (a 3) (a 4)),
   ("where_full_text", filter (paramsOf ["columns", "value"] ++ [joinedBy])
      fun a => Filter.fullText (a 0) (a 1) (a 2)),
   ("where_multi_column",
      filter (paramsOf ["columns", "operator", "value"]
        ++ [no "match_all", no "negated", joinedBy])
      fun a => Filter.anyColumn (a 0) (a 1) (a 2) (a 3) (a 4) (a 5)),
   ("join_clause",
      ⟨paramsOf ["kind", "table", "first"]
        ++ [⟨"operator", some (.word (.operator (.compare .eq)))⟩, ⟨"second", none⟩,
            empty "wheres"],
       fun a => (Join.make (a 0) (a 1) (a 2) (a 3) (a 4) (a 5)).map .join⟩),
   ("order_column",
      ⟨paramsOf ["column"] ++ [⟨"direction", some (.word (.direction .asc))⟩],
       fun a => (OrderKey.ofColumn (a 0) (a 1)).map .order⟩),
   ("order_raw", ⟨paramsOf ["raw"] ++ [empty "bindings"],
      fun a => (OrderKey.ofRaw (a 0) (a 1)).map .order⟩),
   ("group_column", ⟨paramsOf ["column"], fun a => (GroupKey.ofColumn (a 0)).map .group⟩),
   ("group_raw", ⟨paramsOf ["raw"] ++ [empty "bindings"],
      fun a => (GroupKey.ofRaw (a 0) (a 1)).map .group⟩),
   ("having_basic", ⟨paramsOf ["column", "operator", "value"] ++ [joinedBy],
      fun a => (Having.compare (a 0) (a 1) (a 2) (a 3)).map .having⟩),
   ("having_raw", ⟨paramsOf ["raw"] ++ [empty "bindings", joinedBy],
      fun a => (Having.ofRaw (a 0) (a 1) (a 2)).map .having⟩),
   ("union_clause", ⟨paramsOf ["query"] ++ [no "all"],
      fun a => (Branch.make (a 0) (a 1)).map .branch⟩)]

end ClauseMaker

end SqlQuery
