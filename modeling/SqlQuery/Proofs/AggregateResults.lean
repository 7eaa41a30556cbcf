import SqlQuery.Proofs.Results
import SqlQuery.Proofs.RootedPaths
import SqlQuery.Result.Aggregate

/-!
# Numbers among aggregate results

An aggregate result is a number in one of several representations, and is taken for an integer or a
double. It is refused with the aggregate's own error if it is none, and if it is infinite or no
number (`Aggregate.Reads`).

Infinities and not-a-numbers in text are refused: they are never read as an integer first, for
integers have digits where those have letters (`Decimal.isFinite_of_readInt?`). Doubles and decimals
are taken as they are, so that infinities and not-a-numbers among them come through or fail in the
conversion, and that a count of a decimal with a fraction is no integer. A finite number beyond the
doubles comes out infinite, in text too (`Aggregate.Misreads`). Nothing else goes wrong
(`normalizeAggregate_reads_iff`).
-/

namespace SqlQuery

open Number Text

/-! ## Texts of numbers -/

@[simp] theorem Text.toList_trim (s : String) :
    (trim s).toList = trimChars isBlank s.toList :=
  String.toList_ofList

theorem Text.trimChars_trimChars (p : Char → Bool) (cs : List Char) :
    trimChars p (trimChars p cs) = trimChars p cs :=
  trimChars_eq_self (trimChars_trimmed cs)

theorem Number.readInt?_trim (s : String) : readInt? (trim s) = readInt? s := by
  unfold readInt?
  rw [toList_trim, trimChars_trimChars]

theorem Decimal.ofText?_trim (s : String) : ofText? (trim s) = ofText? s := by
  unfold ofText?
  rw [toList_trim, trimChars_trimChars]

/-- What is read of digits is made of digits. -/
theorem Number.decimalDigit?_of_digitsValue? {cs : List Char} {n : Nat}
    (h : digitsValue? cs = some n) : ∀ c ∈ cs, ∃ k, decimalDigit? c = some k := by
  have hfold : ∀ (cs : List Char) (start n : Nat),
      cs.foldlM (fun n c => (decimalDigit? c).map (10 * n + ·)) start = some n →
        ∀ c ∈ cs, ∃ k, decimalDigit? c = some k := by
    intro cs
    induction cs with
    | nil => exact fun _ _ _ c hc => nomatch hc
    | cons d ds ih =>
      intro start n h
      rw [List.foldlM_cons] at h
      obtain ⟨next, hnext, h⟩ := Option.bind_eq_some_iff.1 h
      obtain ⟨k, hk, -⟩ := Option.map_eq_some_iff.1 hnext
      exact List.forall_mem_cons.2 ⟨⟨k, hk⟩, ih next n h⟩
  exact hfold cs 0 n h

namespace Decimal

/-- Digits and blanks in ASCII: what the characters of a number are read as, apart from signs,
points and exponents. -/
def isDigitOrBlank (c : Char) : Bool :=
  c.isDigit || c == ' '

theorem isDigit_digitChar {k : Nat} (h : k < 10) : (Nat.digitChar k).isDigit = true := by
  decide +revert

/-- A digit of any script is read as a digit or as a blank. -/
theorem isDigitOrBlank_of_asciiChar? {c d : Char} {k : Nat} (hdigit : decimalDigit? c = some k)
    (h : asciiChar? c = some d) : isDigitOrBlank d = true := by
  unfold asciiChar? at h
  unfold decimalDigit? at hdigit
  dsimp only at hdigit
  by_cases hsmall : c.toNat < 128
  · rw [if_pos hsmall] at hdigit
    by_cases hc : c.isDigit = true
    · split at h
      · cases h
        simp [isDigitOrBlank, hc]
      · split at h
        · cases h
          rfl
        · unfold decimalDigit? at h
          dsimp only at h
          rw [if_pos hsmall, if_pos hc] at h
          cases h
          refine Bool.or_eq_true_iff.2 (.inl (isDigit_digitChar ?_))
          have hlast : c.toNat ≤ 57 := (Char.isDigit_iff_toNat.1 hc).2
          omega
    · rw [if_neg hc] at hdigit
      cases hdigit
  · rw [if_neg hsmall] at hdigit
    rw [if_neg (fun hascii => hsmall hascii.2)] at h
    split at h
    · cases h
      rfl
    · unfold decimalDigit? at h
      dsimp only at h
      rw [if_neg hsmall] at h
      obtain ⟨k', hk', rfl⟩ := Option.map_eq_some_iff.1 h
      obtain ⟨z, hz, rfl⟩ := Option.map_eq_some_iff.1 hk'
      have hrange := List.find?_some hz
      simp only [Bool.and_eq_true, decide_eq_true_eq] at hrange
      exact Bool.or_eq_true_iff.2 (.inl (isDigit_digitChar (by omega)))

theorem toLower_of_isDigitOrBlank {c : Char} (h : isDigitOrBlank c = true) : c.toLower = c := by
  obtain hdigit | hblank := Bool.or_eq_true_iff.1 h
  · have hrange := Char.isDigit_iff_toNat.1 hdigit
    refine dif_neg fun hupper => ?_
    have hlow : 65 ≤ c.toNat := hupper.1
    have hhigh : c.toNat ≤ 57 := hrange.2
    omega
  · rw [beq_iff_eq.1 hblank]
    rfl

theorem splitSign_of_isDigitOrBlank {cs : List Char} (h : ∀ c ∈ cs, isDigitOrBlank c = true) :
    splitSign cs = (false, cs) := by
  unfold splitSign
  split
  next => exact absurd (h '-' List.mem_cons_self) (by decide)
  next => exact absurd (h '+' List.mem_cons_self) (by decide)
  next => rfl

/-- No word is read out of digits and blanks. -/
theorem isFinite_of_readUnsigned? {negative : Bool} {cs : List Char} {d : Decimal}
    (h : ∀ c ∈ cs, isDigitOrBlank c = true) (hread : readUnsigned? negative cs = some d) :
    d.isFinite = true := by
  have hlower : cs.map Char.toLower = cs :=
    (List.map_congr_left fun c hc => toLower_of_isDigitOrBlank (h c hc)).trans (List.map_id' cs)
  have hnone : ∀ c : Char, isDigitOrBlank c = false → c ∉ cs := fun c hc hmem =>
    absurd (h c hmem) (by rw [hc]; decide)
  unfold readUnsigned? at hread
  simp only [hlower] at hread
  split at hread
  next hinf =>
    obtain hinf | hinf := Bool.or_eq_true_iff.1 hinf <;>
      exact absurd (beq_iff_eq.1 hinf ▸ by decide : 'i' ∈ cs) (hnone 'i' rfl)
  next =>
    split at hread
    next hnan =>
      have hmem : 'n' ∈ cs.take 3 := beq_iff_eq.1 hnan ▸ by decide
      exact absurd (List.mem_of_mem_take hmem) (hnone 'n' rfl)
    next =>
      split at hread
      next hsnan =>
        have hmem : 's' ∈ cs.take 4 := beq_iff_eq.1 hsnan ▸ by decide
        exact absurd (List.mem_of_mem_take hmem) (hnone 's' rfl)
      next =>
        obtain ⟨⟨c, e⟩, -, hrange⟩ := Option.bind_eq_some_iff.1 hread
        unfold inRange? at hrange
        dsimp only at hrange
        split at hrange
        next => cases hrange; rfl
        next => cases hrange

theorem isDigitOrBlank_of_ascii {cs ascii : List Char}
    (hdigits : ∀ c ∈ cs, ∃ k, decimalDigit? c = some k)
    (h : List.Forall₂ (fun c d => asciiChar? c = some d) cs ascii) :
    ∀ d ∈ ascii, isDigitOrBlank d = true := by
  induction h with
  | nil => exact fun d hd => nomatch hd
  | cons hd _ ih =>
    obtain ⟨⟨k, hk⟩, hdigits⟩ := List.forall_mem_cons.1 hdigits
    exact List.forall_mem_cons.2 ⟨isDigitOrBlank_of_asciiChar? hk hd, ih hdigits⟩

/-- The digits of an integer are digits or blanks to a decimal, behind the same sign. -/
theorem splitSign_ascii {cs ascii : List Char} {n : Nat}
    (hdigits : digitsValue? ((splitSign cs).2.filter (· != '_')) = some n)
    (hascii : (cs.filter (· != '_')).mapM asciiChar? = some ascii) :
    ∀ c ∈ (splitSign ascii).2, isDigitOrBlank c = true := by
  have hall := forall₂_of_mapM_some hascii
  have hbody : ∀ ds, List.Forall₂ _ _ ds → ∀ d ∈ ds, isDigitOrBlank d = true :=
    fun _ => isDigitOrBlank_of_ascii (decimalDigit?_of_digitsValue? hdigits)
  unfold splitSign at hbody
  split at hbody
  next body =>
    rw [List.filter_cons_of_pos (by decide)] at hall
    obtain _ | ⟨hsign, hrest⟩ := hall
    cases hsign
    exact hbody _ hrest
  next body =>
    rw [List.filter_cons_of_pos (by decide)] at hall
    obtain _ | ⟨hsign, hrest⟩ := hall
    cases hsign
    exact hbody _ hrest
  next =>
    rw [splitSign_of_isDigitOrBlank (hbody ascii hall)]
    exact hbody ascii hall

/-- **An integer is no infinity.** Text that is read as an integer is, as a decimal, finite. -/
theorem isFinite_of_readInt? {s : String} {n : Int} {d : Decimal} (hint : readInt? s = some n)
    (hdecimal : ofText? s = some d) : d.isFinite = true := by
  unfold readInt? at hint
  dsimp only at hint
  split at hint
  next =>
    obtain ⟨k, hvalue, -⟩ := Option.map_eq_some_iff.1 hint
    obtain ⟨m, hdigits, -⟩ := Option.bind_eq_some_iff.1 hvalue
    obtain ⟨ascii, hascii, hread⟩ := Option.bind_eq_some_iff.1 hdecimal
    exact isFinite_of_readUnsigned? (splitSign_ascii hdigits hascii) hread
  next => cases hint

theorem exists_truncate?_of_isFinite {d : Decimal} (h : d.isFinite = true) :
    ∃ n, d.truncate? = some n := by
  cases d with
  | finite => exact ⟨_, rfl⟩
  | _ => cases h

end Decimal

/-! ## Numbers -/

namespace Value

/-- Whether a value is a number as aggregates give it: an integer or a finite double. -/
def IsNumber : Value → Prop
  | int _ => True
  | double d => d.isFinite = true
  | _ => False

/-- Whether a value stands for a finite number. Truth values do not, and buffers are taken for
what they hold beforehand. -/
def IsNumeric : Value → Prop
  | int _ => True
  | double d => d.isFinite = true
  | decimal d => d.isFinite = true
  | text s => (∃ n, readInt? s = some n) ∨ ∃ d, Decimal.ofText? s = some d ∧ d.isFinite = true
  | _ => False

/-- Whether a value stands for an infinity or for a not-a-number. -/
def IsSpecial : Value → Prop
  | double d => d.isFinite = false
  | decimal d => d.isFinite = false
  | text s => ∃ d, Decimal.ofText? s = some d ∧ d.isFinite = false
  | _ => False

theorem isNumeric_int {n : Int} : (int n).IsNumeric :=
  trivial

theorem isNumeric_double {d : Double} : (double d).IsNumeric ↔ d.isFinite = true :=
  Iff.rfl

theorem isNumeric_decimal {d : Decimal} : (decimal d).IsNumeric ↔ d.isFinite = true :=
  Iff.rfl

theorem isNumeric_text {s : String} :
    (text s).IsNumeric ↔
      (∃ n, readInt? s = some n) ∨ ∃ d, Decimal.ofText? s = some d ∧ d.isFinite = true :=
  Iff.rfl

theorem not_isSpecial_of_isNumeric {v : Value} (h : v.IsNumeric) : ¬ v.IsSpecial := by
  cases v with
  | double d => exact fun hspecial => nomatch (isNumeric_double.1 h).symm.trans hspecial
  | decimal d => exact fun hspecial => nomatch (isNumeric_decimal.1 h).symm.trans hspecial
  | text s =>
    rintro ⟨d, hdecimal, hspecial⟩
    obtain ⟨n, hint⟩ | ⟨d', hdecimal', hfinite⟩ := isNumeric_text.1 h
    · rw [Decimal.isFinite_of_readInt? hint hdecimal] at hspecial
      cases hspecial
    · cases hdecimal.symm.trans hdecimal'
      rw [hfinite] at hspecial
      cases hspecial
  | _ => exact id

theorem normalize_normalize (v : Value) : v.normalize.normalize = v.normalize := by
  cases v with
  | bytes kind data =>
    cases h : String.fromUTF8? ⟨data.toArray⟩ <;> simp [normalize, h]
  | _ => rfl

end Value

/-! ## What a result is taken for -/

namespace Aggregate

/-- What is made of values that are no numbers and yet results: null, and dates and times where the
least or the greatest is asked for. -/
def exempt? (fn : Aggregate) : Value → Option Value
  | .null => some (if fn = count ∨ fn = sum then .int 0 else .null)
  | .date d => if fn = min ∨ fn = max then some (.date d) else none
  | .time t => if fn = min ∨ fn = max then some (.time t) else none
  | .moment m => if fn = min ∨ fn = max then some (.moment m) else none
  | _ => none

/-- The result `r` of an aggregate is read right out of a value: it is a number only if the value
stands for a finite one, an integer if it is a count, and else the aggregate's error about the
value. -/
structure Reads (fn : Aggregate) (v : Value) (r : Result Value) : Prop where
  refusal : ∀ e, r = .error e → e = .aggregate (.text fn.text) v
  exempt : ∀ x, fn.exempt? v = some x → r = .ok x
  special : v.IsSpecial → ∃ e, r = .error e
  number : ∀ x, r = .ok x → fn.exempt? v = none → v.IsNumeric ∧ x.IsNumber
  whole : fn = count → ∀ x, r = .ok x → ∃ n, x = .int n

/-- The values that an aggregate does not read right: doubles and decimals that are not finite,
decimals with a fraction as counts, and decimals beyond the doubles. -/
def Misreads (fn : Aggregate) : Value → Prop
  | .double d => d.isFinite = false
  | .decimal d =>
    d.isFinite = false ∨ d.isIntegral = false ∧ (fn = count ∨ d.toDouble.isFinite = false)
  | .text s =>
    fn ≠ count ∧ readInt? s = none ∧
      ∃ d, Decimal.ofText? s = some d ∧ d.isFinite = true ∧ d.toDouble.isFinite = false
  | _ => False

/-- The values at which another error than the aggregate's own comes out. -/
def Escapes (fn : Aggregate) : Value → Prop
  | .double d => fn = count ∧ d.isFinite = false
  | .decimal (.nan _ signaling _) => signaling = true
  | .decimal (.infinite _) => True
  | _ => False

theorem text_eq_count (fn : Aggregate) : (fn.text == "COUNT") = decide (fn = count) := by
  cases fn <;> decide

theorem text_eq_sum (fn : Aggregate) : (fn.text == "SUM") = decide (fn = sum) := by
  cases fn <;> decide

theorem text_eq_min (fn : Aggregate) : (fn.text == "MIN") = decide (fn = min) := by
  cases fn <;> decide

theorem text_eq_max (fn : Aggregate) : (fn.text == "MAX") = decide (fn = max) := by
  cases fn <;> decide

/-- A value that is taken for a number under the name of an aggregate. -/
def read (fn : Aggregate) (v : Value) : Result Value :=
  aggregateOf fn.text (.text fn.text) v

variable {fn : Aggregate} {v x : Value}

/-! ### What reads right -/

theorem reads_refused (hv : fn.exempt? v = none) :
    fn.Reads v (.error (.aggregate (.text fn.text) v)) where
  refusal _ h := by cases h; rfl
  exempt x h := by rw [hv] at h; cases h
  special _ := ⟨_, rfl⟩
  number _ h := nomatch h
  whole _ _ h := nomatch h

theorem reads_exempt (hv : fn.exempt? v = some x) (hwhole : fn = count → ∃ n, x = .int n) :
    fn.Reads v (.ok x) where
  refusal _ h := nomatch h
  exempt y h := by rw [hv] at h; cases h; rfl
  special h := by cases v <;> first | exact h.elim | cases hv
  number _ _ h := by rw [hv] at h; cases h
  whole hfn _ h := by cases h; exact hwhole hfn

theorem reads_number_iff (hv : fn.exempt? v = none) :
    fn.Reads v (.ok x) ↔ v.IsNumeric ∧ x.IsNumber ∧ (fn = count → ∃ n, x = .int n) := by
  constructor
  · intro h
    exact ⟨(h.number x rfl hv).1, (h.number x rfl hv).2, fun hfn => h.whole hfn x rfl⟩
  · rintro ⟨hnumeric, hnumber, hwhole⟩
    exact {
      refusal := fun _ h => nomatch h
      exempt := fun y h => by rw [hv] at h; cases h
      special := fun h => absurd h (Value.not_isSpecial_of_isNumeric hnumeric)
      number := fun _ h _ => by cases h; exact ⟨hnumeric, hnumber⟩
      whole := fun hfn _ h => by cases h; exact hwhole hfn }

theorem reads_int (hv : fn.exempt? v = none) (hnumeric : v.IsNumeric) (n : Int) :
    fn.Reads v (.ok (.int n)) :=
  (reads_number_iff hv).2 ⟨hnumeric, trivial, fun _ => ⟨n, rfl⟩⟩

theorem reads_double_iff (hv : fn.exempt? v = none) (d : Double) :
    fn.Reads v (.ok (.double d)) ↔ v.IsNumeric ∧ d.isFinite = true ∧ fn ≠ count :=
  (reads_number_iff hv).trans <| and_congr_right fun _ => and_congr_right fun _ =>
    imp_congr_right fun _ => ⟨fun ⟨_, h⟩ => (nomatch h), False.elim⟩

theorem not_reads_foreign (kind : ForeignKind) (message : String) :
    ¬ fn.Reads v (.error (.foreign kind message)) :=
  fun h => nomatch h.refusal _ rfl

/-! ### Each representation -/

theorem read_double (d : Double) :
    fn.read (.double d) = if fn = count then countOfDouble d else .ok (.double d) := by
  show (if fn.text == "COUNT" then _ else _) = _
  rw [text_eq_count]
  exact if_congr decide_eq_true_iff rfl rfl

theorem read_double_reads_iff (d : Double) :
    fn.Reads (.double d) (fn.read (.double d)) ↔ ¬ fn.Misreads (.double d) := by
  rw [read_double]
  split
  next hcount =>
    cases d with
    | nan => exact iff_of_false (not_reads_foreign _ _) (not_not.2 rfl)
    | infinite => exact iff_of_false (not_reads_foreign _ _) (not_not.2 rfl)
    | finite =>
      exact iff_of_true (reads_int rfl (Value.isNumeric_double.2 rfl) _) (fun h => nomatch h)
  next hcount =>
    rw [reads_double_iff rfl]
    simp [Misreads, Value.IsNumeric, hcount]

theorem read_decimal_reads_iff (d : Decimal) :
    fn.Reads (.decimal d) (fn.read (.decimal d)) ↔ ¬ fn.Misreads (.decimal d) := by
  show fn.Reads _ (numberOfDecimal d) ↔ _
  cases d with
  | nan s signaling payload =>
    refine iff_of_false ?_ (not_not.2 (.inl rfl))
    cases signaling with
    | true => exact not_reads_foreign _ _
    | false => exact fun h => nomatch ((reads_double_iff rfl _).1 h).1
  | infinite => exact iff_of_false (not_reads_foreign _ _) (not_not.2 (.inl rfl))
  | finite s c e =>
    cases hintegral : (Decimal.finite s c e).isIntegral with
    | true =>
      obtain ⟨n, hn⟩ := Decimal.exists_truncate?_of_isFinite (d := .finite s c e) rfl
      have hread : numberOfDecimal (.finite s c e) = .ok (.int n) := by
        simp only [numberOfDecimal, hintegral, hn]
      rw [hread]
      refine iff_of_true (reads_int rfl (Value.isNumeric_decimal.2 rfl) n) ?_
      simp [Misreads, hintegral, Decimal.isFinite]
    | false =>
      have hread : numberOfDecimal (.finite s c e) =
          .ok (.double (Decimal.finite s c e).toDouble) := by
        simp only [numberOfDecimal, hintegral]
      rw [hread, reads_double_iff rfl]
      simp [Misreads, hintegral, Decimal.isFinite, Value.IsNumeric, and_comm]

theorem read_text (fn : Aggregate) (s : String) :
    fn.read (.text s) = (numberOfText? fn.text s).elim
      (.error (.aggregate (.text fn.text) (.text s))) .ok := by
  cases htext : numberOfText? fn.text s with
  | none => simp only [read, aggregateOf, htext, Option.elim_none]
  | some v => simp only [read, aggregateOf, htext, Option.elim_some]

/-- A text stands for no number, for an integer, or for a finite decimal. -/
theorem read_text_cases (fn : Aggregate) (s : String) :
    (¬ (Value.text s).IsNumeric ∧
      fn.read (.text s) = .error (.aggregate (.text fn.text) (.text s))) ∨
    (∃ n, readInt? s = some n ∧ fn.read (.text s) = .ok (.int n)) ∨
    ∃ d, readInt? s = none ∧ Decimal.ofText? s = some d ∧ d.isFinite = true ∧
      ((fn = count ∧ ∃ n, fn.read (.text s) = .ok (.int n)) ∨
        (fn ≠ count ∧ fn.read (.text s) = .ok (.double d.toDouble))) := by
  have hread := read_text fn s
  unfold numberOfText? at hread
  simp only [readInt?_trim, Decimal.ofText?_trim, text_eq_count] at hread
  cases hint : readInt? s with
  | some n =>
    rw [hint] at hread
    exact .inr (.inl ⟨n, rfl, hread⟩)
  | none =>
    rw [hint] at hread
    cases hdecimal : Decimal.ofText? s with
    | none =>
      rw [hdecimal] at hread
      refine .inl ⟨fun hnumeric => ?_, hread⟩
      simp [Value.isNumeric_text, hint, hdecimal] at hnumeric
    | some d =>
      rw [hdecimal] at hread
      cases d with
      | finite sign c e =>
        obtain ⟨n, hn⟩ := Decimal.exists_truncate?_of_isFinite (d := .finite sign c e) rfl
        refine .inr (.inr ⟨.finite sign c e, rfl, rfl, rfl, ?_⟩)
        by_cases hcount : fn = count
        · refine .inl ⟨hcount, n, ?_⟩
          simpa only [hcount, decide_true, if_true, hn, Option.map_some, Option.elim_some]
            using hread
        · refine .inr ⟨hcount, ?_⟩
          simpa only [hcount, decide_false, if_false, Bool.false_eq_true, Option.elim_some]
            using hread
      | nan | infinite =>
        refine .inl ⟨fun hnumeric => ?_, hread⟩
        simp [Value.isNumeric_text, hint, hdecimal, Decimal.isFinite] at hnumeric

theorem read_text_reads_iff (s : String) :
    fn.Reads (.text s) (fn.read (.text s)) ↔ ¬ fn.Misreads (.text s) := by
  obtain ⟨hnumeric, hread⟩ | ⟨n, hint, hread⟩ | ⟨d, hint, hdecimal, hfinite, hread⟩ :=
    read_text_cases fn s
  · rw [hread]
    refine iff_of_true (reads_refused rfl) ?_
    rintro ⟨-, -, d, hdecimal, hfinite, -⟩
    exact hnumeric (.inr ⟨d, hdecimal, hfinite⟩)
  · rw [hread]
    refine iff_of_true (reads_int rfl (Value.isNumeric_text.2 (.inl ⟨n, hint⟩)) n) ?_
    rintro ⟨-, hnone, -⟩
    rw [hint] at hnone
    cases hnone
  · have hnumeric : (Value.text s).IsNumeric := .inr ⟨d, hdecimal, hfinite⟩
    obtain ⟨hcount, n, hread⟩ | ⟨hcount, hread⟩ := hread <;> rw [hread]
    · exact iff_of_true (reads_int rfl hnumeric n) (fun h => h.1 hcount)
    · rw [reads_double_iff rfl]
      simp [Misreads, hnumeric, hint, hdecimal, hfinite, hcount]

theorem read_null : fn.read .null = .ok (if fn = count ∨ fn = sum then .int 0 else .null) := by
  show Except.ok (if fn.text == "COUNT" || fn.text == "SUM" then _ else _) = _
  rw [text_eq_count, text_eq_sum]
  refine congrArg _ (if_congr ?_ rfl rfl)
  simp

/-- What stands for itself where the least or the greatest is asked for is refused elsewhere. -/
theorem reads_extreme (hexempt : fn.exempt? v = if fn = min ∨ fn = max then some v else none)
    (hread : fn.read v = if fn.text == "MIN" || fn.text == "MAX" then .ok v
      else .error (.aggregate (.text fn.text) v)) :
    fn.Reads v (fn.read v) := by
  rw [text_eq_min, text_eq_max] at hread
  by_cases hextreme : fn = min ∨ fn = max
  · rw [hread, if_pos (by simpa using hextreme)]
    rw [if_pos hextreme] at hexempt
    exact reads_exempt hexempt (by rintro rfl; simp at hextreme)
  · rw [hread, if_neg (by simpa using hextreme)]
    rw [if_neg hextreme] at hexempt
    exact reads_refused hexempt

/-- What is read is right, in every representation but some doubles, decimals and texts. -/
theorem read_reads_iff (hnormal : v.normalize = v) :
    fn.Reads v (fn.read v) ↔ ¬ fn.Misreads v := by
  cases v with
  | double d => exact read_double_reads_iff d
  | decimal d => exact read_decimal_reads_iff d
  | text s => exact read_text_reads_iff s
  | null =>
    rw [read_null]
    refine iff_of_true (reads_exempt rfl fun hcount => ?_) id
    exact ⟨0, if_pos (.inl hcount)⟩
  | int n => exact iff_of_true (reads_int rfl Value.isNumeric_int n) id
  | date | time | moment => exact iff_of_true (reads_extreme rfl rfl) id
  | bytes kind data =>
    have hread : fn.read (.bytes kind data) =
        .error (.aggregate (.text fn.text) (.bytes kind data)) := by
      simp only [read, aggregateOf, hnormal]
    rw [hread]
    exact iff_of_true (reads_refused rfl) id
  | _ => exact iff_of_true (reads_refused rfl) id

/-- A buffer is read as what it holds. -/
theorem read_normalize (fn : Aggregate) (v : Value) : fn.read v.normalize = fn.read v := by
  cases v with
  | bytes kind data =>
    cases hdata : String.fromUTF8? ⟨data.toArray⟩ <;>
      simp [read, aggregateOf, Value.normalize, hdata]
  | _ => rfl

theorem escapes_normalize : fn.Escapes v.normalize ↔ fn.Escapes v := by
  cases v with
  | bytes kind data =>
    cases hdata : String.fromUTF8? ⟨data.toArray⟩ <;> simp [Value.normalize, hdata, Escapes]
  | _ => rfl

/-- The foreign errors are those of counting doubles that are not finite, and of infinite and
signaling decimals. -/
theorem read_escapes_iff (hnormal : v.normalize = v) :
    (∃ e, fn.read v = .error e ∧ e ≠ .aggregate (.text fn.text) v) ↔ fn.Escapes v := by
  cases v with
  | double d =>
    rw [read_double]
    by_cases hcount : fn = count
    · cases d <;> simp [hcount, Escapes, countOfDouble, Double.isFinite]
    · simp [hcount, Escapes]
  | decimal d =>
    show (∃ e, numberOfDecimal d = .error e ∧ _) ↔ _
    cases d with
    | nan s signaling payload =>
      cases signaling <;> simp [Escapes, numberOfDecimal, Decimal.isIntegral]
    | infinite => simp [Escapes, numberOfDecimal]
    | finite =>
      refine iff_of_false (fun ⟨e, he, _⟩ => ?_) id
      unfold numberOfDecimal at he
      split at he <;> try contradiction
      split at he <;> contradiction
  | text s =>
    refine iff_of_false (fun ⟨e, he, hne⟩ => ?_) id
    obtain ⟨-, hread⟩ | ⟨n, -, hread⟩ | ⟨d, -, -, -, ⟨-, n, hread⟩ | ⟨-, hread⟩⟩ :=
      read_text_cases fn s <;> rw [hread] at he <;> cases he
    exact hne rfl
  | _ =>
    refine iff_of_false (fun ⟨e, he, hne⟩ => ?_) id
    exact hne (((read_reads_iff hnormal).2 id).refusal e he)

end Aggregate

/-- **Which aggregates are read right.** An aggregate result, under the name of its function in any
case, is a finite number or the aggregate's own error, except for the values that `Misreads` tells.
Among them, those at which another error comes out are the ones that `Escapes` tells. -/
theorem normalizeAggregate_reads_iff {fn : Aggregate} {name : String}
    (hname : Text.upper name = fn.text) (v : Value) :
    (fn.Reads v.normalize (normalizeAggregate name v) ↔ ¬ fn.Misreads v.normalize) ∧
      ((∃ e, normalizeAggregate name v = .error e ∧ e ≠ .aggregate (.text fn.text) v.normalize) ↔
        fn.Escapes v) := by
  have hread : normalizeAggregate name v = fn.read v.normalize := by
    rw [Aggregate.read_normalize]
    unfold normalizeAggregate
    rw [hname]
    rfl
  rw [hread, ← Aggregate.escapes_normalize]
  exact ⟨Aggregate.read_reads_iff v.normalize_normalize,
    Aggregate.read_escapes_iff v.normalize_normalize⟩

/-- A sum in text, with blanks around it. -/
theorem normalizeAggregate_reads_sum :
    Text.upper "sUm" = Aggregate.sum.text ∧
      Aggregate.sum.Reads (.text " 12.50 ") (normalizeAggregate "sUm" (.text " 12.50 ")) ∧
      ¬ ∃ e, normalizeAggregate "sUm" (.text " 12.50 ") = .error e ∧
        e ≠ .aggregate (.text "SUM") (.text " 12.50 ") := by
  have hname : Text.upper "sUm" = Aggregate.sum.text := by decide +kernel
  obtain ⟨hreads, hescapes⟩ := normalizeAggregate_reads_iff hname (.text " 12.50 ")
  refine ⟨hname, hreads.2 ?_, fun h => hescapes.1 h⟩
  rintro ⟨-, -, d, hdecimal, -, hdouble⟩
  have htext : Decimal.ofText? " 12.50 " = some (.finite false 1250 (-2)) := by decide +kernel
  cases htext.symm.trans hdecimal
  exact absurd hdouble (by decide +kernel)

/-- Infinities are counted with the error of a conversion, sums that are no number come through, and
half a row is counted. -/
theorem normalizeAggregate_misreads :
    normalizeAggregate "COUNT" (.double (.infinite false)) =
        .error (.foreign .overflow "cannot convert float infinity to integer") ∧
      normalizeAggregate "SUM" (.double .nan) = .ok (.double .nan) ∧
      normalizeAggregate "COUNT" (.decimal (.finite false 25 (-1))) =
        .ok (.double (.finite false 5629499534213120 (-51))) := by
  refine ⟨?_, ?_, ?_⟩ <;> rfl

end SqlQuery
