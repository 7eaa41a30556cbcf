import SqlQuery.Proofs.Layout

/-!
# How a WHERE section is read

AND binds tighter than OR, and parentheses are read first. `Token.read` reads a section from left to
right with a stack, one frame for each parenthesis that is open: a frame holds the alternatives that
are complete and the one that is being read.

A condition that is no group is an atom: each row gives it a truth. Since a frame is never looked at
but at its end, filters can be read without their tokens, one after the other (`filterFrame`).
-/

namespace SqlQuery

/-- Truth as SQL knows it. A row is reached if its condition is `yes`. -/
inductive Truth where
  | yes
  | no
  | unknown
  deriving DecidableEq, Repr

namespace Truth

def and : Truth → Truth → Truth
  | no, _ | _, no => no
  | yes, yes => yes
  | _, _ => unknown

def or : Truth → Truth → Truth
  | yes, _ | _, yes => yes
  | no, no => no
  | _, _ => unknown

@[simp] theorem and_eq_yes {a b : Truth} : a.and b = yes ↔ a = yes ∧ b = yes := by
  cases a <;> cases b <;> decide

@[simp] theorem or_eq_yes {a b : Truth} : a.or b = yes ↔ a = yes ∨ b = yes := by
  cases a <;> cases b <;> decide

end Truth

/-- The words of a WHERE section. -/
inductive Token where
  | atom (c : Condition)
  | word (c : Connective)
  | opening
  | closing

namespace Token

/-- The text of a token, with a slot for each value that it mentions. -/
def template (d : Dialect) : Token → Template
  | atom c => c.template d
  | word c => c.template
  | opening => [.text "("]
  | closing => [.text ")"]

end Token

/-! ## Tokens of filters -/

mutual

def Condition.tokens : Condition → List Token
  | .group filters => .opening :: filterTokens filters ++ [.closing]
  | c => [.atom c]

/-- The tokens of a WHERE section or of a group. The word of the first filter is not shown. -/
def filterTokens : List Filter → List Token
  | [] => []
  | ⟨_, condition, _⟩ :: rest => condition.tokens ++ laterTokens rest

def laterTokens : List Filter → List Token
  | [] => []
  | ⟨connective, condition, _⟩ :: rest =>
    .word connective :: condition.tokens ++ laterTokens rest

end

/-- The text of tokens one after the other. -/
def tokensTemplate (d : Dialect) (tokens : List Token) : Template :=
  tokens.flatMap (Token.template d)

section Shown

variable {d : Dialect}

theorem tokensTemplate_append (ts us : List Token) :
    tokensTemplate d (ts ++ us) = tokensTemplate d ts ++ tokensTemplate d us :=
  List.flatMap_append

theorem tokensTemplate_atom (c : Condition) : tokensTemplate d [.atom c] = c.template d :=
  List.append_nil _

mutual

/-- The tokens of filters are what a statement shows of them. -/
theorem Condition.template_tokens (c : Condition) :
    tokensTemplate d c.tokens = c.template d := by
  cases c with
  | group filters =>
    rw [Condition.tokens, Condition.template, tokensTemplate_append,
      ← filterTemplate_tokens filters]
    rfl
  | _ => exact tokensTemplate_atom _

theorem filterTemplate_tokens : ∀ filters : List Filter,
    tokensTemplate d (filterTokens filters) = filterTemplate d filters
  | [] => rfl
  | ⟨_, condition, _⟩ :: rest => by
    rw [filterTokens, filterTemplate, tokensTemplate_append, condition.template_tokens,
      laterTemplate_tokens rest]

theorem laterTemplate_tokens : ∀ filters : List Filter,
    tokensTemplate d (laterTokens filters) = laterTemplate d filters
  | [] => rfl
  | ⟨connective, condition, _⟩ :: rest => by
    rw [laterTokens, laterTemplate, tokensTemplate_append, laterTemplate_tokens rest,
      ← condition.template_tokens]
    rfl

end

end Shown

/-! ## Reading -/

/-- What was read since a parenthesis was opened. -/
structure Frame where
  /-- The alternatives that are complete. -/
  done : Truth := .no
  /-- The alternative that is being read. -/
  current : Truth := .yes

namespace Frame

def value (f : Frame) : Truth :=
  f.done.or f.current

/-- One more condition of the current alternative. -/
def factor (f : Frame) (t : Truth) : Frame :=
  { f with current := f.current.and t }

/-- After AND the alternative goes on, and after OR there is a new one. -/
def joined (f : Frame) : Connective → Frame
  | .and => f
  | .or => { done := f.value }

@[simp] theorem joined_and (f : Frame) : f.joined .and = f := rfl

end Frame

namespace Token

variable (row : Condition → Truth)

/-- The stack after one more token. -/
def step : List Frame → Token → List Frame
  | f :: stack, atom c => f.factor (row c) :: stack
  | f :: stack, word c => f.joined c :: stack
  | stack, opening => {} :: stack
  | g :: f :: stack, closing => f.factor g.value :: stack
  | stack, _ => stack

/-- The truth of a WHERE section for a row. Without a section all rows are reached. -/
def read (tokens : List Token) : Truth :=
  match tokens.foldl (step row) [{}] with
  | f :: _ => f.value
  | [] => .no

end Token

section Frames

variable (row : Condition → Truth)

mutual

/-- The truth of a condition for a row that gives a truth to all but groups. -/
def Condition.truth : Condition → Truth
  | .group filters => (filterFrame filters).value
  | c => row c

/-- What is read of the filters of a section. -/
def filterFrame : List Filter → Frame
  | [] => {}
  | ⟨_, condition, _⟩ :: rest => laterFrame (Frame.factor {} condition.truth) rest

def laterFrame (f : Frame) : List Filter → Frame
  | [] => f
  | ⟨connective, condition, _⟩ :: rest =>
    laterFrame ((f.joined connective).factor condition.truth) rest

end

/-! ## Reading tokens is reading filters -/

mutual

/-- A condition is one factor, whatever parentheses are open around it. -/
theorem Condition.read_tokens (c : Condition) (f : Frame) (stack : List Frame) :
    c.tokens.foldl (Token.step row) (f :: stack) = f.factor (c.truth row) :: stack := by
  cases c with
  | group filters =>
    rw [Condition.tokens, Condition.truth, List.foldl_append]
    show [Token.closing].foldl (Token.step row)
      ((filterTokens filters).foldl (Token.step row) ({} :: f :: stack)) = _
    rw [filters_read filters (f :: stack)]
    rfl
  | _ => rfl

theorem filters_read : ∀ (filters : List Filter) (stack : List Frame),
    (filterTokens filters).foldl (Token.step row) ({} :: stack) = filterFrame row filters :: stack
  | [], _ => rfl
  | ⟨_, condition, _⟩ :: rest, stack => by
    rw [filterTokens, filterFrame, List.foldl_append, condition.read_tokens, later_read rest]

theorem later_read : ∀ (filters : List Filter) (f : Frame) (stack : List Frame),
    (laterTokens filters).foldl (Token.step row) (f :: stack) = laterFrame row f filters :: stack
  | [], _, _ => rfl
  | ⟨connective, condition, _⟩ :: rest, f, stack => by
    rw [laterTokens, laterFrame, List.foldl_append, List.foldl_cons, Token.step,
      condition.read_tokens, later_read rest]

end

/-- A section is true if its last alternative is, or one before it. -/
theorem read_filterTokens (filters : List Filter) :
    Token.read row (filterTokens filters) = (filterFrame row filters).value := by
  rw [Token.read, filters_read]

/-! ## The alternatives before the last -/

/-- Filters that follow others, up to the last that is joined by OR. -/
def laterBeforeOr : List Filter → Option (List Filter)
  | [] => none
  | f :: rest =>
    match laterBeforeOr rest with
    | some early => some (f :: early)
    | none =>
      match f.connective with
      | .or => some []
      | .and => none

/-- The filters before the last that is joined by OR, if there is one after the first filter. -/
def beforeLastOr : List Filter → Option (List Filter)
  | [] => none
  | f :: rest => (laterBeforeOr rest).map (f :: ·)

theorem laterFrame_done (filters : List Filter) (f : Frame) :
    (laterFrame row f filters).done
      = match laterBeforeOr filters with
        | some early => (laterFrame row f early).value
        | none => f.done := by
  induction filters generalizing f with
  | nil => rfl
  | cons g rest ih =>
    obtain ⟨connective, condition, unread⟩ := g
    rw [laterFrame, ih, laterBeforeOr]
    cases laterBeforeOr rest with
    | some early => rfl
    | none => cases connective <;> rfl

/-- What is complete at the end of a section is what stands before its last OR. -/
theorem filterFrame_done (filters : List Filter) :
    (filterFrame row filters).done
      = match beforeLastOr filters with
        | some early => (filterFrame row early).value
        | none => .no := by
  cases filters with
  | nil => rfl
  | cons g rest =>
    obtain ⟨connective, condition, unread⟩ := g
    rw [filterFrame, laterFrame_done, beforeLastOr]
    cases laterBeforeOr rest <;> rfl

theorem laterFrame_append (xs ys : List Filter) (f : Frame) :
    laterFrame row f (xs ++ ys) = laterFrame row (laterFrame row f xs) ys := by
  induction xs generalizing f with
  | nil => rfl
  | cons g rest ih =>
    obtain ⟨connective, condition, unread⟩ := g
    exact ih _

/-- Filters joined by AND belong to the last alternative of those before them. -/
theorem filterFrame_append {xs ys : List Filter} (h : ∀ g ∈ ys, g.connective = .and) :
    filterFrame row (xs ++ ys) = laterFrame row (filterFrame row xs) ys := by
  cases xs with
  | cons f rest =>
    obtain ⟨connective, condition, unread⟩ := f
    exact laterFrame_append row rest ys _
  | nil =>
    cases ys with
    | nil => rfl
    | cons g rest =>
      have hg := h g List.mem_cons_self
      obtain ⟨connective, condition, unread⟩ := g
      cases hg
      rfl

theorem laterFrame_done_of_and {ys : List Filter} (h : ∀ g ∈ ys, g.connective = .and)
    (f : Frame) : (laterFrame row f ys).done = f.done := by
  induction ys generalizing f with
  | nil => rfl
  | cons g rest ih =>
    rw [List.forall_mem_cons] at h
    obtain ⟨hg, hrest⟩ := h
    obtain ⟨connective, condition, unread⟩ := g
    cases hg
    exact ih hrest _

theorem laterFrame_current_of_and {ys : List Filter} (h : ∀ g ∈ ys, g.connective = .and)
    (f : Frame) : (laterFrame row f ys).current = .yes
      ↔ f.current = .yes ∧ ∀ g ∈ ys, g.condition.truth row = .yes := by
  induction ys generalizing f with
  | nil => simp [laterFrame]
  | cons g rest ih =>
    rw [List.forall_mem_cons] at h ⊢
    obtain ⟨hg, hrest⟩ := h
    obtain ⟨connective, condition, unread⟩ := g
    cases hg
    rw [laterFrame, ih hrest]
    simp only [Frame.joined_and, Frame.factor, Truth.and_eq_yes, and_assoc]

/-- With filters joined by AND at its end a section is true if an alternative before the last is,
or the last and all that were added. -/
theorem read_append_eq_yes {xs ys : List Filter} (h : ∀ g ∈ ys, g.connective = .and) :
    Token.read row (filterTokens (xs ++ ys)) = .yes
      ↔ (filterFrame row xs).done = .yes
        ∨ (filterFrame row xs).current = .yes ∧ ∀ g ∈ ys, g.condition.truth row = .yes := by
  rw [read_filterTokens, filterFrame_append row h, Frame.value, Truth.or_eq_yes,
    laterFrame_done_of_and row h, laterFrame_current_of_and row h]

end Frames

end SqlQuery
