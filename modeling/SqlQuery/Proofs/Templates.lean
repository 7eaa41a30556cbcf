import SqlQuery.Statement

/-!
# Templates

A template is the text of a statement before any value is numbered: pieces of text and slots for
operands, in the order in which they are shown. `fill` writes the text once each slot, from left to
right, is given the number of its placeholder.

Nothing in a template depends on how placeholders are written or numbered, and the text that `fill`
writes does not depend on the values of its operands (`fill_blank`).
-/

namespace SqlQuery

/-- A value of a request, with the way in which it is bound. -/
inductive Operand where
  /-- Bound as it is. -/
  | plain (v : Value)
  /-- Bound for a containment test, as JSON text. -/
  | contained (v : Value)
  /-- Bound for a JSON update, as JSON text if the dialect asks for it. -/
  | stored (v : Value)

namespace Operand

/-- The value that is bound for an operand. -/
def bound (d : Dialect) : Operand → Result Value
  | plain v => .ok v
  | contained v => Dialect.jsonContainsValue v
  | stored v => d.jsonSetValue v

/-- The operand with null for its value. -/
def blank : Operand → Operand
  | plain _ => plain .null
  | contained _ => contained .null
  | stored _ => stored .null

end Operand

/-- A part of a template. -/
inductive Piece where
  | text (s : String)
  | slot (o : Operand)

namespace Piece

def operand? : Piece → Option Operand
  | text _ => none
  | slot o => some o

/-- The piece with null for the value of its slot. -/
def blank : Piece → Piece
  | text s => text s
  | slot o => slot o.blank

end Piece

/-- Text with slots for operands, in the order in which it is shown. -/
abbrev Template := List Piece

namespace Template

open Piece

/-- The operands of the slots, from left to right. -/
def slots (t : Template) : List Operand :=
  t.filterMap operand?

/-- The text of a template whose slots have these numbers, from left to right. -/
def fill (placeholder : Nat → String) : Template → List Nat → String
  | [], _ => ""
  | .text s :: t, ns => s ++ fill placeholder t ns
  | .slot _ :: t, n :: ns => placeholder n ++ fill placeholder t ns
  | .slot _ :: t, [] => fill placeholder t []

/-- A template with null for all values of its slots. -/
def blank (t : Template) : Template :=
  t.map Piece.blank

@[simp] theorem slots_append (t u : Template) : slots (t ++ u) = slots t ++ slots u :=
  List.filterMap_append

@[simp] theorem fill_nil (p : Nat → String) (ns : List Nat) : fill p [] ns = "" := by
  cases ns <;> rfl

@[simp] theorem fill_text (p : Nat → String) (s : String) (t : Template) (ns : List Nat) :
    fill p (.text s :: t) ns = s ++ fill p t ns := by
  cases ns <;> rfl

/-- A template in two parts is filled part by part. -/
theorem fill_append (p : Nat → String) {t u : Template} {ns ms : List Nat}
    (h : ns.length = t.slots.length) : fill p (t ++ u) (ns ++ ms) = fill p t ns ++ fill p u ms := by
  induction t generalizing ns with
  | nil =>
    have hns : ns = [] := List.eq_nil_of_length_eq_zero h
    rw [hns, fill_nil, String.empty_append]
    rfl
  | cons piece t ih =>
    cases piece with
    | text s =>
      rw [List.cons_append, fill_text, fill_text, ih h, String.append_assoc]
    | slot o =>
      cases ns with
      | nil => exact absurd h (Nat.zero_ne_add_one _)
      | cons n ns =>
        have hrest : ns.length = (slots t).length := Nat.succ.inj h
        show p n ++ fill p (t ++ u) (ns ++ ms) = p n ++ fill p t ns ++ fill p u ms
        rw [ih hrest, String.append_assoc]

/-- The values of slots are not shown. -/
theorem fill_blank (p : Nat → String) (t : Template) (ns : List Nat) :
    fill p t.blank ns = fill p t ns := by
  induction t generalizing ns with
  | nil => rfl
  | cons piece t ih =>
    cases piece with
    | text s =>
      show fill p (.text s :: blank t) ns = _
      rw [fill_text, fill_text, ih]
    | slot o =>
      cases ns with
      | nil => exact ih []
      | cons n ns =>
        show p n ++ fill p (blank t) ns = p n ++ fill p t ns
        rw [ih]

end Template

end SqlQuery
