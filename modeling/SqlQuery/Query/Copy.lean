import SqlQuery.Clause
import SqlQuery.Error

/-!
Copies of queries.

A copy of a query shares nothing with it, so every value that the query holds is copied as well. Two
kinds of value cannot be: views of a buffer, and values that can be gone through once.
-/

namespace SqlQuery

mutual

/-- Why a value cannot be copied, if it cannot. -/
def Value.uncopyable? : Value → Option Error
  | .bytes .view _ => some (.foreign .type "cannot pickle memoryview objects")
  | .iterator _ => some (.foreign .type "cannot pickle 'generator' object")
  | .list items | .tuple items => uncopyableIn? items
  | .mapping entries => uncopyableUnder? entries
  | _ => none

def uncopyableIn? : List Value → Option Error
  | [] => none
  | v :: vs => v.uncopyable?.or (uncopyableIn? vs)

def uncopyableUnder? : List (String × Value) → Option Error
  | [] => none
  | (_, v) :: rest => v.uncopyable?.or (uncopyableUnder? rest)

end

def GroupKey.held : GroupKey → List Value
  | column _ values | raw _ values => values

def OrderKey.held : OrderKey → List Value
  | column _ _ values | raw _ values _ => values

def Having.held (h : Having) : List Value :=
  let rest := h.unread.value :: h.unread.bindings
  match h.condition with
  | .compare _ _ v => v :: rest
  | .raw _ values => values ++ rest

mutual

def Condition.held : Condition → List Value
  | .compare _ _ v | .datePart _ _ _ v | .jsonContains _ v | .jsonLength _ _ v | .jsonPath _ _ _ v
  | .fullText _ v | .anyColumn _ _ v _ _ => [v]
  | .between _ _ low high => [low, high]
  | .inValues _ _ values | .raw _ values => values
  | .inQuery _ _ query | .exists _ query => query.held
  | .group filters => heldByFilters filters
  | .isNull .. | .columns .. => []

/-- The values in the parts of a filter that it does not show. -/
def Unread.held : Unread → List Value
  | { value, values, query, filters, bindings, .. } =>
    value :: values ++ heldByQuery? query ++ heldByFilters filters ++ bindings

def heldByQuery? : Option Query → List Value
  | none => []
  | some query => query.held

def Filter.held : Filter → List Value
  | ⟨_, condition, unread⟩ => condition.held ++ unread.held

def heldByFilters : List Filter → List Value
  | [] => []
  | f :: fs => f.held ++ heldByFilters fs

def Join.held : Join → List Value
  | ⟨_, _, _, _, _, filters⟩ => heldByFilters filters

def heldByJoins : List Join → List Value
  | [] => []
  | j :: js => j.held ++ heldByJoins js

def Branch.held : Branch → List Value
  | ⟨query, _⟩ => query.held

def heldByBranches : List Branch → List Value
  | [] => []
  | b :: bs => b.held ++ heldByBranches bs

/-- Every value that a query holds, those of its sub-queries and branches included. -/
def Query.held : Query → List Value
  | { filters, joins, groups, havings, orders, unions, selectValues, .. } =>
    heldByFilters filters ++ heldByJoins joins ++ groups.flatMap GroupKey.held
      ++ havings.flatMap Having.held ++ orders.flatMap OrderKey.held ++ heldByBranches unions
      ++ selectValues

end

def Query.copy (q : Query) : Result Query :=
  match uncopyableIn? q.held with
  | some e => .error e
  | none => .ok q

end SqlQuery
