import Mathlib.Data.Nat.Digits.Defs
import SqlQuery.Calendar
import SqlQuery.Text.Quoted

/-!
# Digits and escapes are read back

A number is known from its digits, whatever zeros stand before them, and a stretch of digits ends
where the first other character stands (`append_inj_of_stop`). A text that is written in quotes,
character by character, is known if each character can be read off the front of what goes on after
it (`ReadBack`).
-/

namespace SqlQuery

/-! ## Stretches -/

/-- Stretches of characters of one kind end with the first character of another kind. -/
theorem append_inj_of_stop {α : Type} {p : α → Bool} {a b x y : List α} (ha : ∀ c ∈ a, p c = true)
    (hb : ∀ c ∈ b, p c = true) (hx : ∀ c ∈ x.head?, p c = false) (hy : ∀ c ∈ y.head?, p c = false)
    (h : a ++ x = b ++ y) : a = b ∧ x = y := by
  have hstop {z : List α} (hz : ∀ c ∈ z.head?, p c = false) : z.takeWhile p = [] := by
    cases z with
    | nil => rfl
    | cons c cs =>
      rw [List.takeWhile_cons_of_neg]
      exact Bool.eq_false_iff.1 (hz c rfl)
  have hcut := congrArg (List.takeWhile p) h
  rw [List.takeWhile_append_of_pos ha, List.takeWhile_append_of_pos hb, hstop hx, hstop hy,
    List.append_nil, List.append_nil] at hcut
  subst hcut
  exact ⟨rfl, List.append_cancel_left h⟩

/-! ## Digits -/

theorem isDigit_of_mem_toDigits {n : Nat} : ∀ c ∈ Nat.toDigits 10 n, c.isDigit = true :=
  fun _ hc => Nat.isDigit_of_mem_toDigits (by decide) (by decide) hc

theorem toDigits_inj {m n : Nat} : Nat.toDigits 10 m = Nat.toDigits 10 n ↔ m = n := by
  constructor
  · intro h
    rw [← Nat.ofDigitChars_ten_toDigits (n := m), h, Nat.ofDigitChars_ten_toDigits]
  · rintro rfl
    rfl

theorem exists_toDigits_eq_cons (n : Nat) :
    ∃ c cs, Nat.toDigits 10 n = c :: cs ∧ c.isDigit = true := by
  obtain ⟨c, cs, hcs⟩ := List.exists_cons_of_ne_nil (Nat.toDigits_ne_nil (n := n) (b := 10))
  exact ⟨c, cs, hcs, isDigit_of_mem_toDigits c (by rw [hcs]; exact List.mem_cons_self)⟩

/-- What follows a number starts with no digit. -/
def StopsDigits (x : List Char) : Prop :=
  ∀ c ∈ x.head?, c.isDigit = false

theorem stopsDigits_nil : StopsDigits [] :=
  fun _ h => nomatch h

theorem stopsDigits_cons {c : Char} (h : c.isDigit = false) (cs : List Char) :
    StopsDigits (c :: cs) := by
  rintro _ ⟨⟩
  exact h

theorem toDigits_append_inj {m n : Nat} {x y : List Char} (hx : StopsDigits x)
    (hy : StopsDigits y) (h : Nat.toDigits 10 m ++ x = Nat.toDigits 10 n ++ y) :
    m = n ∧ x = y := by
  obtain ⟨hdigits, hrest⟩ :=
    append_inj_of_stop isDigit_of_mem_toDigits isDigit_of_mem_toDigits hx hy h
  exact ⟨toDigits_inj.1 hdigits, hrest⟩

section ZeroPadded

variable {width n : Nat}

theorem isDigit_of_mem_zeroPadded : ∀ c ∈ (zeroPadded width n).toList, c.isDigit = true := by
  intro c hc
  rw [zeroPadded, String.toList_ofList, List.mem_append] at hc
  rcases hc with hc | hc
  · rw [List.eq_of_mem_replicate hc]
    rfl
  · exact isDigit_of_mem_toDigits c hc

theorem zeroPadded_ne_nil : (zeroPadded width n).toList ≠ [] := by
  rw [zeroPadded, String.toList_ofList]
  exact List.append_ne_nil_of_right_ne_nil _ Nat.toDigits_ne_nil

theorem ofDigitChars_zeroPadded : Nat.ofDigitChars 10 (zeroPadded width n).toList 0 = n := by
  rw [zeroPadded, String.toList_ofList, Nat.ofDigitChars_append, Nat.ofDigitChars_replicate_zero,
    Nat.mul_zero, Nat.ofDigitChars_ten_toDigits]

theorem zeroPadded_append_inj {width' n' : Nat} {x y : List Char} (hx : StopsDigits x)
    (hy : StopsDigits y)
    (h : (zeroPadded width n).toList ++ x = (zeroPadded width' n').toList ++ y) :
    n = n' ∧ x = y := by
  obtain ⟨hdigits, hrest⟩ :=
    append_inj_of_stop isDigit_of_mem_zeroPadded isDigit_of_mem_zeroPadded hx hy h
  refine ⟨?_, hrest⟩
  rw [← @ofDigitChars_zeroPadded width n, hdigits, ofDigitChars_zeroPadded]

end ZeroPadded

/-! ## Hexadecimal digits -/

def hexDigit (c : Char) : Nat :=
  if c.isDigit then c.toNat - 48 else c.toNat - 87

/-- The value of hexadecimal digits in lower case. -/
def hexValue (cs : List Char) : Nat :=
  cs.foldl (fun n c => 16 * n + hexDigit c) 0

theorem hexDigit_digitChar {n : Nat} (h : n < 16) : hexDigit n.digitChar = n := by
  have hall : ∀ k : Fin 16, hexDigit k.val.digitChar = k := by decide
  exact hall ⟨n, h⟩

theorem hexValue_toDigits (n : Nat) : hexValue (Nat.toDigits 16 n) = n := by
  induction n using Nat.strongRecOn with
  | ind n ih =>
    rw [Nat.toDigits_eq_if (by decide)]
    split
    · next hless =>
      exact (Nat.zero_add _).trans (hexDigit_digitChar hless)
    · next hmore =>
      have hrest := hexDigit_digitChar (Nat.mod_lt n (by decide : 0 < 16))
      have hwhole := ih (n / 16) (Nat.div_lt_self (by omega) (by decide))
      unfold hexValue at hwhole ⊢
      rw [List.foldl_append, hwhole, List.foldl_cons, List.foldl_nil, hrest]
      exact Nat.div_add_mod n 16

theorem hexValue_hexPadded (width n : Nat) : hexValue (Text.hexPadded width n).toList = n := by
  have hzeros (k : Nat) : hexValue (List.replicate k '0') = 0 := by
    induction k with
    | zero => rfl
    | succ k ih => exact ih
  rw [Text.hexPadded, String.toList_ofList]
  have hvalue := hexValue_toDigits n
  unfold hexValue at hzeros hvalue ⊢
  rw [List.foldl_append, hzeros, hvalue]

theorem length_hexPadded {width n : Nat} (hwidth : 0 < width) (h : n < 16 ^ width) :
    (Text.hexPadded width n).toList.length = width := by
  have hfits : (Nat.toDigits 16 n).length ≤ width :=
    (Nat.length_toDigits_le_iff (by decide) hwidth).2 h
  rw [Text.hexPadded, String.toList_ofList, List.length_append, List.length_replicate]
  omega

/-- Digits of a known number are cut off what follows them. -/
theorem hexPadded_append {width n : Nat} (hwidth : 0 < width) (h : n < 16 ^ width)
    (rest : List Char) : hexValue (((Text.hexPadded width n).toList ++ rest).take width) = n
      ∧ ((Text.hexPadded width n).toList ++ rest).drop width = rest := by
  have hlength := length_hexPadded hwidth h
  rw [List.take_left' hlength, List.drop_left' hlength]
  exact ⟨hexValue_hexPadded width n, rfl⟩

/-! ## Texts in quotes -/

/-- Each thing is written so that it can be read off the front of whatever follows, and never
starts like the closing quote. -/
structure ReadBack {α : Type} (write : α → List Char) (read : List Char → Option (α × List Char))
    (quote : Char) : Prop where
  read_write : ∀ a rest, read (write a ++ rest) = some (a, rest)
  starts : ∀ a, ∃ c cs, write a = c :: cs ∧ c ≠ quote

theorem ReadBack.quoted_inj {α : Type} {write : α → List Char}
    {read : List Char → Option (α × List Char)} {quote : Char} (h : ReadBack write read quote)
    {as bs : List α} {x y : List Char}
    (heq : as.flatMap write ++ quote :: x = bs.flatMap write ++ quote :: y) : as = bs ∧ x = y := by
  induction as generalizing bs with
  | nil =>
    cases bs with
    | nil => exact ⟨rfl, List.tail_eq_of_cons_eq heq⟩
    | cons b bs =>
      obtain ⟨c, cs, hwrite, hne⟩ := h.starts b
      rw [List.flatMap_cons, hwrite] at heq
      exact absurd (List.head_eq_of_cons_eq heq).symm hne
  | cons a as ih =>
    cases bs with
    | nil =>
      obtain ⟨c, cs, hwrite, hne⟩ := h.starts a
      rw [List.flatMap_cons, hwrite] at heq
      exact absurd (List.head_eq_of_cons_eq heq) hne
    | cons b bs =>
      rw [List.flatMap_cons, List.flatMap_cons, List.append_assoc, List.append_assoc] at heq
      have hread := congrArg read heq
      rw [h.read_write, h.read_write, Option.some.injEq, Prod.mk.injEq] at hread
      obtain ⟨rfl, hrest⟩ := hread
      obtain ⟨rfl, rfl⟩ := ih hrest
      exact ⟨rfl, rfl⟩

end SqlQuery
