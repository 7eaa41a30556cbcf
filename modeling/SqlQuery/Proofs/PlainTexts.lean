import SqlQuery.Number.Decimal.Arithmetic
import SqlQuery.Proofs.DigitTexts
import SqlQuery.Value

/-!
# Plain texts are told apart

Decimals, dates, times, moments and byte strings are what JSON lacks. They are known from their
plain texts: each kind by what stands between its digits, and each value by the digits, signs and
escapes.
-/

namespace SqlQuery

/-! ## Dates and times -/

theorem Date.toList_iso_append (d : Date) (x : List Char) : d.iso.toList ++ x
    = (zeroPadded 4 d.year).toList ++ '-' :: ((zeroPadded 2 d.month).toList
      ++ '-' :: ((zeroPadded 2 d.day).toList ++ x)) := by
  have hdash : "-".toList = ['-'] := rfl
  unfold Date.iso
  simp only [String.toList_append, List.append_assoc, hdash, List.cons_append, List.nil_append]

theorem Date.iso_append_inj {d d' : Date} {x y : List Char} (hx : StopsDigits x)
    (hy : StopsDigits y) (h : d.iso.toList ++ x = d'.iso.toList ++ y) : d = d' ∧ x = y := by
  have hdash (cs : List Char) : StopsDigits ('-' :: cs) := stopsDigits_cons rfl cs
  rw [toList_iso_append, toList_iso_append] at h
  obtain ⟨hyear, h⟩ := zeroPadded_append_inj (hdash _) (hdash _) h
  obtain ⟨hmonth, h⟩ := zeroPadded_append_inj (hdash _) (hdash _) (List.tail_eq_of_cons_eq h)
  obtain ⟨hday, h⟩ := zeroPadded_append_inj hx hy (List.tail_eq_of_cons_eq h)
  refine ⟨?_, h⟩
  cases d
  cases d'
  exact (Date.mk.injEq ..).mpr ⟨hyear, hmonth, hday⟩

/-- The microseconds of a time, shown unless they are zeros. -/
def microChars (micro : Nat) : List Char :=
  if micro = 0 then [] else '.' :: (zeroPadded 6 micro).toList

theorem microChars_stopsDigits (micro : Nat) : StopsDigits (microChars micro) := by
  unfold microChars
  split
  · exact stopsDigits_nil
  · exact stopsDigits_cons rfl _

theorem microChars_inj {m n : Nat} (h : microChars m = microChars n) : m = n := by
  unfold microChars at h
  split at h
  · next hm =>
    split at h
    · next hn => rw [hm, hn]
    · cases h
  · split at h
    · cases h
    · exact (zeroPadded_append_inj stopsDigits_nil stopsDigits_nil
        (congrArg (· ++ []) (List.tail_eq_of_cons_eq h))).1

theorem Time.toList_iso (t : Time) : t.iso.toList
    = (zeroPadded 2 t.hour).toList ++ ':' :: ((zeroPadded 2 t.minute).toList
      ++ ':' :: ((zeroPadded 2 t.second).toList ++ microChars t.micro)) := by
  have hcolon : ":".toList = [':'] := rfl
  have hpoint : ".".toList = ['.'] := rfl
  have hnothing : "".toList = [] := rfl
  unfold Time.iso microChars
  split
  · simp only [String.toList_append, List.append_assoc, hcolon, hnothing, List.cons_append,
      List.nil_append]
  · simp only [String.toList_append, List.append_assoc, hcolon, hpoint, List.cons_append,
      List.nil_append]

theorem Time.iso_inj {t t' : Time} (h : t.iso.toList = t'.iso.toList) : t = t' := by
  have hcolon (cs : List Char) : StopsDigits (':' :: cs) := stopsDigits_cons rfl cs
  rw [toList_iso, toList_iso] at h
  obtain ⟨hhour, h⟩ := zeroPadded_append_inj (hcolon _) (hcolon _) h
  obtain ⟨hminute, h⟩ := zeroPadded_append_inj (hcolon _) (hcolon _) (List.tail_eq_of_cons_eq h)
  obtain ⟨hsecond, h⟩ := zeroPadded_append_inj (microChars_stopsDigits _)
    (microChars_stopsDigits _) (List.tail_eq_of_cons_eq h)
  cases t
  cases t'
  exact (Time.mk.injEq ..).mpr ⟨hhour, hminute, hsecond, microChars_inj h⟩

theorem Moment.toList_iso (m : Moment) :
    (m.iso " ").toList = m.date.iso.toList ++ ' ' :: m.time.iso.toList := by
  have hblank : " ".toList = [' '] := rfl
  unfold Moment.iso
  rw [String.toList_append, String.toList_append, List.append_assoc, hblank, List.cons_append,
    List.nil_append]

theorem Moment.iso_inj {m m' : Moment} (h : (m.iso " ").toList = (m'.iso " ").toList) :
    m = m' := by
  rw [toList_iso, toList_iso] at h
  obtain ⟨hdate, h⟩ := Date.iso_append_inj (stopsDigits_cons rfl _) (stopsDigits_cons rfl _) h
  cases m
  cases m'
  exact (Moment.mk.injEq ..).mpr ⟨hdate, Time.iso_inj (List.tail_eq_of_cons_eq h)⟩

/-! ## Byte strings -/

/-- The byte that a letter after a backslash stands for. -/
def unescapedByte : Char → Char
  | 't' => '\t'
  | 'n' => '\n'
  | 'r' => '\r'
  | c => c

/-- Reads a byte of quoted bytes. -/
def readByte : List Char → Option (UInt8 × List Char)
  | [] => none
  | '\\' :: 'x' :: digits => some (UInt8.ofNat (hexValue (digits.take 2)), digits.drop 2)
  | '\\' :: c :: rest => some (UInt8.ofNat (unescapedByte c).toNat, rest)
  | c :: rest => some (UInt8.ofNat c.toNat, rest)

theorem readByte_plain {c : Char} (h : c ≠ '\\') (rest : List Char) :
    readByte (c :: rest) = some (UInt8.ofNat c.toNat, rest) := by
  unfold readByte
  split
  · next heq => cases heq
  · next heq => exact absurd (List.head_eq_of_cons_eq heq) h
  · next heq => exact absurd (List.head_eq_of_cons_eq heq) h
  · next heq =>
    cases heq
    rfl

theorem readByte_letter {c : Char} (h : c ≠ 'x') (rest : List Char) :
    readByte ('\\' :: c :: rest) = some (UInt8.ofNat (unescapedByte c).toNat, rest) := by
  rw [readByte]
  exact fun hx => h hx

theorem toNat_ofNat_byte (b : UInt8) : UInt8.ofNat (Char.ofNat b.toNat).toNat = b := by
  have hvalid : b.toNat.isValidChar := .inl (b.toNat_lt.trans (by decide))
  have hcode : (Char.ofNat b.toNat).toNat = b.toNat := by
    unfold Char.ofNat
    rw [dif_pos hvalid]
    rfl
  rw [hcode, UInt8.ofNat_toNat]

/-- A byte is written by a letter, by a character or by its digits. -/
theorem quotedByte_cases {quote : Char} (hquote : quote ∈ ['\'', '"']) (b : UInt8) :
    (∃ letter, Text.quotedByte quote b = String.ofList ['\\', letter] ∧ letter ≠ 'x'
      ∧ UInt8.ofNat (unescapedByte letter).toNat = b)
    ∨ (∃ c, Text.quotedByte quote b = c.toString ∧ c ≠ '\\' ∧ c ≠ quote
      ∧ UInt8.ofNat c.toNat = b)
    ∨ Text.quotedByte quote b = "\\x" ++ Text.hexPadded 2 b.toNat := by
  have hbyte := toNat_ofNat_byte b
  unfold Text.quotedByte Text.commonEscape?
  simp only
  generalize Char.ofNat b.toNat = c at *
  by_cases hself : c = quote ∨ c = '\\'
  · have hletter : c ≠ 'x' ∧ unescapedByte c = c := by
      simp only [List.mem_cons, List.not_mem_nil, or_false] at hquote
      rcases hself with rfl | rfl
      · rcases hquote with rfl | rfl
        · exact ⟨by decide, rfl⟩
        · exact ⟨by decide, rfl⟩
      · exact ⟨by decide, rfl⟩
    rw [if_pos (by simpa using hself)]
    exact .inl ⟨c, rfl, hletter.1, by rw [hletter.2, hbyte]⟩
  · rw [if_neg (by simpa using hself)]
    obtain ⟨hquoted, hbackslash⟩ := not_or.1 hself
    by_cases htab : c = '\t'
    · subst htab
      exact .inl ⟨'t', rfl, by decide, hbyte⟩
    by_cases hnewline : c = '\n'
    · subst hnewline
      exact .inl ⟨'n', rfl, by decide, hbyte⟩
    by_cases hreturn : c = '\r'
    · subst hreturn
      exact .inl ⟨'r', rfl, by decide, hbyte⟩
    right
    simp only [beq_iff_eq]
    rw [if_neg htab, if_neg hnewline, if_neg hreturn]
    simp only
    split
    · exact .inl ⟨c, rfl, hbackslash, hquoted, hbyte⟩
    · exact .inr rfl

theorem readBack_quotedByte {quote : Char} (hquote : quote ∈ ['\'', '"']) :
    ReadBack (fun b => (Text.quotedByte quote b).toList) readByte quote where
  read_write b rest := by
    rcases quotedByte_cases hquote b with ⟨letter, hwrite, hletter, hbyte⟩
      | ⟨c, hwrite, hbackslash, -, hbyte⟩ | hwrite
    · rw [hwrite, String.toList_ofList]
      exact (readByte_letter hletter rest).trans (by rw [hbyte])
    · rw [hwrite, Char.toString, String.toList_singleton]
      exact (readByte_plain hbackslash rest).trans (by rw [hbyte])
    · obtain ⟨hvalue, hrest⟩ := hexPadded_append (by decide : 0 < 2) b.toNat_lt rest
      rw [hwrite, String.toList_append]
      show some (UInt8.ofNat (hexValue (((Text.hexPadded 2 b.toNat).toList ++ rest).take 2)),
        ((Text.hexPadded 2 b.toNat).toList ++ rest).drop 2) = _
      rw [hvalue, hrest, UInt8.ofNat_toNat]
  starts b := by
    have hescape : '\\' ≠ quote := by
      simp only [List.mem_cons, List.not_mem_nil, or_false] at hquote
      rcases hquote with rfl | rfl
      · decide
      · decide
    rcases quotedByte_cases hquote b with ⟨letter, hwrite, -, -⟩ | ⟨c, hwrite, -, hne, -⟩ | hwrite
    · rw [hwrite, String.toList_ofList]
      exact ⟨'\\', _, rfl, hescape⟩
    · rw [hwrite, Char.toString, String.toList_singleton]
      exact ⟨c, [], rfl, hne⟩
    · rw [hwrite, String.toList_append]
      exact ⟨'\\', _, rfl, hescape⟩

theorem quoteFor_mem (single double : Bool) : Text.quoteFor single double ∈ ['\'', '"'] := by
  cases single <;> cases double <;> decide

theorem toList_quotedBytes (data : List UInt8) : ∃ quote ∈ ['\'', '"'],
    (Text.quotedBytes data).toList
      = 'b' :: quote :: (data.flatMap (fun b => (Text.quotedByte quote b).toList) ++ [quote]) := by
  refine ⟨_, quoteFor_mem (data.contains 0x27) (data.contains 0x22), ?_⟩
  unfold Text.quotedBytes
  simp only [String.toList_append, String.toList_join, List.flatMap_map, Char.toString,
    String.toList_singleton, List.append_assoc]
  rfl

theorem quotedBytes_inj {data data' : List UInt8}
    (h : (Text.quotedBytes data).toList = (Text.quotedBytes data').toList) : data = data' := by
  obtain ⟨quote, hquote, hwrite⟩ := toList_quotedBytes data
  obtain ⟨quote', -, hwrite'⟩ := toList_quotedBytes data'
  rw [hwrite, hwrite'] at h
  have htail := List.tail_eq_of_cons_eq h
  obtain rfl : quote = quote' := List.head_eq_of_cons_eq htail
  exact ((readBack_quotedByte hquote).quoted_inj (List.tail_eq_of_cons_eq htail)).1

/-! ## Decimals -/

namespace Decimal

def signChars (negative : Bool) : List Char :=
  if negative then ['-'] else []

/-- The digits after the point, and the point if there are any. -/
def fractionChars (fraction : List Char) : List Char :=
  if fraction = [] then [] else '.' :: fraction

/-- The exponent that is shown after the digits, unless it is zero. -/
def shiftChars (shift : Int) : List Char :=
  if shift = 0 then []
  else 'E' :: (if shift < 0 then '-' else '+') :: Nat.toDigits 10 shift.natAbs

/-- How a finite decimal is shown: digits before and after the point, and an exponent. -/
structure Shown (coefficient : Nat) (exponent : Int) (whole fraction : List Char) (shift : Int) :
    Prop where
  whole_digits : ∀ c ∈ whole, c.isDigit = true
  fraction_digits : ∀ c ∈ fraction, c.isDigit = true
  whole_ne : whole ≠ []
  coefficient_eq : Nat.ofDigitChars 10 (whole ++ fraction) 0 = coefficient
  exponent_eq : exponent = shift - fraction.length

theorem shiftChars_eq (left point : Int) : (if left = point then []
    else 'E' :: (if left < point then '-' else '+') :: Nat.toDigits 10 (left - point).natAbs)
      = shiftChars (left - point) := by
  have hzero : left = point ↔ left - point = 0 := by omega
  have hsign : left < point ↔ left - point < 0 := by omega
  unfold shiftChars
  exact if_congr hzero rfl (congrArg ('E' :: · :: _) (if_congr hsign rfl rfl))

/-- Where the point stands, the digits are split there; before the digits it is filled up with
zeros. After the digits there is never room for one. -/
theorem body_shown {digits : List Char} (hdigits : ∀ c ∈ digits, c.isDigit = true)
    (hsome : 0 < digits.length) (exponent : Int) {left point : Int}
    (hleft : exponent + digits.length = left)
    (hpoint : (if exponent ≤ 0 ∧ -6 < left then left else 1) = point) :
    ∃ whole fraction,
      Shown (Nat.ofDigitChars 10 digits 0) exponent whole fraction (left - point)
      ∧ (if point ≤ 0 then '0' :: '.' :: List.replicate (-point).toNat '0' ++ digits
        else if digits.length ≤ point then
          digits ++ List.replicate (point.toNat - digits.length) '0'
        else digits.take point.toNat ++ '.' :: digits.drop point.toNat)
        = whole ++ fractionChars fraction := by
  by_cases hbefore : point ≤ 0
  · have hstands : left = point := by
      split at hpoint
      · exact hpoint
      · omega
    refine ⟨['0'], List.replicate (-point).toNat '0' ++ digits, ?_, ?_⟩
    · constructor
      · exact List.forall_mem_singleton.2 rfl
      · intro c hc
        rcases List.mem_append.1 hc with hc | hc
        · rw [List.eq_of_mem_replicate hc]
          rfl
        · exact hdigits c hc
      · exact List.cons_ne_nil _ _
      · rw [List.singleton_append, Nat.ofDigitChars_cons, Nat.ofDigitChars_append]
        exact congrArg _ (Nat.ofDigitChars_replicate_zero.trans (Nat.mul_zero _))
      · rw [List.length_append, List.length_replicate]
        omega
    · rw [if_pos hbefore, fractionChars, if_neg]
      · rfl
      · exact List.append_ne_nil_of_right_ne_nil _ (List.ne_nil_of_length_pos hsome)
  · rw [if_neg hbefore]
    by_cases hafter : (digits.length : Int) ≤ point
    · have hend : point = digits.length := by
        split at hpoint
        · omega
        · omega
      refine ⟨digits, [], ?_, ?_⟩
      · constructor
        · exact hdigits
        · exact fun c hc => nomatch hc
        · exact List.ne_nil_of_length_pos hsome
        · rw [List.append_nil]
        · rw [List.length_nil]
          omega
      · rw [if_pos hafter, hend]
        simp [fractionChars]
    · refine ⟨digits.take point.toNat, digits.drop point.toNat, ?_, ?_⟩
      · constructor
        · exact fun c hc => hdigits c (List.mem_of_mem_take hc)
        · exact fun c hc => hdigits c (List.mem_of_mem_drop hc)
        · refine List.ne_nil_of_length_pos ?_
          rw [List.length_take]
          omega
        · rw [List.take_append_drop]
        · rw [List.length_drop]
          omega
      · rw [if_neg hafter, fractionChars, if_neg]
        refine List.ne_nil_of_length_pos ?_
        rw [List.length_drop]
        omega

theorem toList_format_finite (negative : Bool) (coefficient : Nat) (exponent : Int) :
    ∃ whole fraction shift, Shown coefficient exponent whole fraction shift
      ∧ (format (.finite negative coefficient exponent)).toList
        = signChars negative ++ (whole ++ (fractionChars fraction ++ shiftChars shift)) := by
  obtain ⟨whole, fraction, hshown, hbody⟩ := body_shown
    (isDigit_of_mem_toDigits (n := coefficient)) Nat.length_toDigits_pos exponent rfl rfl
  rw [Nat.ofDigitChars_ten_toDigits] at hshown
  refine ⟨whole, fraction, _, hshown, ?_⟩
  unfold format
  simp only
  rw [String.toList_ofList, shiftChars_eq, hbody, List.append_assoc, List.append_assoc]
  rfl

theorem shiftChars_stopsDigits (shift : Int) : StopsDigits (shiftChars shift) := by
  unfold shiftChars
  split
  · exact stopsDigits_nil
  · exact stopsDigits_cons rfl _

theorem fractionChars_stopsDigits (fraction : List Char) (shift : Int) :
    StopsDigits (fractionChars fraction ++ shiftChars shift) := by
  unfold fractionChars
  split
  · exact shiftChars_stopsDigits shift
  · exact stopsDigits_cons rfl _

theorem shiftChars_ne_point (shift : Int) (cs : List Char) : shiftChars shift ≠ '.' :: cs := by
  unfold shiftChars
  split
  · exact (List.cons_ne_nil _ _).symm
  · exact fun h => absurd (List.head_eq_of_cons_eq h) (by decide)

theorem shiftChars_inj {m n : Int} (h : shiftChars m = shiftChars n) : m = n := by
  unfold shiftChars at h
  by_cases hm : m = 0
  · by_cases hn : n = 0
    · rw [hm, hn]
    · rw [if_pos hm, if_neg hn] at h
      cases h
  · by_cases hn : n = 0
    · rw [if_neg hm, if_pos hn] at h
      cases h
    · rw [if_neg hm, if_neg hn] at h
      have htail := List.tail_eq_of_cons_eq h
      have hsign := List.head_eq_of_cons_eq htail
      have hsize := toDigits_inj.1 (List.tail_eq_of_cons_eq htail)
      by_cases hm' : m < 0 <;> by_cases hn' : n < 0
      · omega
      · rw [if_pos hm', if_neg hn'] at hsign
        exact absurd hsign (by decide)
      · rw [if_neg hm', if_pos hn'] at hsign
        exact absurd hsign (by decide)
      · omega

theorem fraction_append_inj {f g : List Char} (hf : ∀ c ∈ f, c.isDigit = true)
    (hg : ∀ c ∈ g, c.isDigit = true) {m n : Int}
    (h : fractionChars f ++ shiftChars m = fractionChars g ++ shiftChars n) : f = g ∧ m = n := by
  unfold fractionChars at h
  split at h
  · next hnone =>
    split at h
    · next hnone' => exact ⟨hnone.trans hnone'.symm, shiftChars_inj h⟩
    · exact absurd h (shiftChars_ne_point m _)
  · split at h
    · exact absurd h.symm (shiftChars_ne_point n _)
    · obtain ⟨hdigits, hshift⟩ := append_inj_of_stop hf hg (shiftChars_stopsDigits m)
        (shiftChars_stopsDigits n) (List.tail_eq_of_cons_eq h)
      exact ⟨hdigits, shiftChars_inj hshift⟩

/-- The payload of a not-a-number, shown unless it is zero. -/
def payloadChars (payload : Nat) : List Char :=
  if payload = 0 then [] else Nat.toDigits 10 payload

theorem payloadChars_inj {m n : Nat} (h : payloadChars m = payloadChars n) : m = n := by
  unfold payloadChars at h
  by_cases hm : m = 0
  · by_cases hn : n = 0
    · rw [hm, hn]
    · rw [if_pos hm, if_neg hn] at h
      exact absurd h.symm Nat.toDigits_ne_nil
  · by_cases hn : n = 0
    · rw [if_neg hm, if_pos hn] at h
      exact absurd h Nat.toDigits_ne_nil
    · rw [if_neg hm, if_neg hn] at h
      exact toDigits_inj.1 h

/-- The text of a decimal without its sign. -/
inductive Unsigned : Decimal → List Char → Prop
  | nan (negative signaling : Bool) (payload : Nat) : Unsigned (.nan negative signaling payload)
      ((if signaling then ['s'] else []) ++ "NaN".toList ++ payloadChars payload)
  | infinite (negative : Bool) : Unsigned (.infinite negative) "Infinity".toList
  | finite (negative : Bool) {coefficient : Nat} {exponent : Int} {whole fraction : List Char}
    {shift : Int} (h : Shown coefficient exponent whole fraction shift) :
    Unsigned (.finite negative coefficient exponent)
      (whole ++ (fractionChars fraction ++ shiftChars shift))

theorem toList_format (d : Decimal) :
    ∃ cs, Unsigned d cs ∧ d.format.toList = signChars d.isNegative ++ cs := by
  cases d with
  | nan negative signaling payload =>
    refine ⟨_, .nan negative signaling payload, ?_⟩
    unfold format
    cases negative <;> cases signaling <;> by_cases hpayload : payload = 0 <;>
      simp [hpayload, isNegative, signChars, payloadChars]
  | infinite negative =>
    refine ⟨_, .infinite negative, ?_⟩
    cases negative <;> rfl
  | finite negative coefficient exponent =>
    obtain ⟨whole, fraction, shift, hshown, hformat⟩ :=
      toList_format_finite negative coefficient exponent
    exact ⟨_, .finite negative hshown, hformat⟩

/-- What is written of a decimal besides its sign. -/
inductive Kind where
  | nan
  | infinite
  | finite

def Kind.ofChar : Char → Kind
  | 's' | 'N' => nan
  | 'I' => infinite
  | _ => finite

def kind : Decimal → Kind
  | .nan .. => .nan
  | .infinite _ => .infinite
  | .finite .. => .finite

theorem Unsigned.starts {d : Decimal} {cs : List Char} (h : Unsigned d cs) :
    ∃ c rest, cs = c :: rest ∧ Kind.ofChar c = d.kind ∧ c ≠ '-' ∧ c ≠ 'b' := by
  cases h with
  | nan negative signaling payload =>
    cases signaling
    · exact ⟨'N', _, rfl, rfl, by decide, by decide⟩
    · exact ⟨'s', _, rfl, rfl, by decide, by decide⟩
  | infinite negative => exact ⟨'I', _, rfl, rfl, by decide, by decide⟩
  | finite negative hshown =>
    obtain ⟨c, rest, hwhole⟩ := List.exists_cons_of_ne_nil hshown.whole_ne
    have hdigit := hshown.whole_digits c (by rw [hwhole]; exact List.mem_cons_self)
    have hplain {c' : Char} (hother : c'.isDigit = false) : c ≠ c' := by
      rintro rfl
      exact Bool.eq_false_iff.1 hother hdigit
    refine ⟨c, _, congrArg (· ++ _) hwhole, ?_, hplain rfl, hplain rfl⟩
    unfold Kind.ofChar
    split
    · exact absurd rfl (hplain rfl)
    · exact absurd rfl (hplain rfl)
    · exact absurd rfl (hplain rfl)
    · rfl

theorem signChars_inj {m n : Bool} {x y : List Char} (hx : ∃ c rest, x = c :: rest ∧ c ≠ '-')
    (hy : ∃ c rest, y = c :: rest ∧ c ≠ '-') (h : signChars m ++ x = signChars n ++ y) :
    m = n ∧ x = y := by
  obtain ⟨c, rest, rfl, hc⟩ := hx
  obtain ⟨c', rest', rfl, hc'⟩ := hy
  cases m <;> cases n
  · exact ⟨rfl, h⟩
  · exact absurd (List.head_eq_of_cons_eq h) hc
  · exact absurd (List.head_eq_of_cons_eq h).symm hc'
  · exact ⟨rfl, List.tail_eq_of_cons_eq h⟩

theorem Unsigned.inj {d e : Decimal} {x y : List Char} (hd : Unsigned d x) (he : Unsigned e y)
    (hsign : d.isNegative = e.isNegative) (h : x = y) : d = e := by
  obtain ⟨c, rest, hstart, hkind, -⟩ := hd.starts
  obtain ⟨c', rest', hstart', hkind', -⟩ := he.starts
  have hkinds : d.kind = e.kind := by
    rw [← hkind, ← hkind', List.head_eq_of_cons_eq (hstart.symm.trans (h.trans hstart'))]
  cases hd with
  | nan negative signaling payload =>
    cases he with
    | nan negative' signaling' payload' =>
      obtain rfl : negative = negative' := hsign
      have hsignaling : signaling = signaling' := by
        cases signaling <;> cases signaling'
        · rfl
        · exact absurd (List.head_eq_of_cons_eq h) (by decide)
        · exact absurd (List.head_eq_of_cons_eq h) (by decide)
        · rfl
      subst hsignaling
      rw [payloadChars_inj (List.append_cancel_left h)]
    | _ => cases hkinds
  | infinite negative =>
    cases he with
    | infinite negative' =>
      obtain rfl : negative = negative' := hsign
      rfl
    | _ => cases hkinds
  | finite negative hshown =>
    cases he with
    | finite negative' hshown' =>
      obtain rfl : negative = negative' := hsign
      obtain ⟨rfl, hrest⟩ := append_inj_of_stop hshown.whole_digits hshown'.whole_digits
        (fractionChars_stopsDigits _ _) (fractionChars_stopsDigits _ _) h
      obtain ⟨rfl, rfl⟩ :=
        fraction_append_inj hshown.fraction_digits hshown'.fraction_digits hrest
      rw [← hshown.coefficient_eq, ← hshown'.coefficient_eq, hshown.exponent_eq,
        hshown'.exponent_eq]
    | _ => cases hkinds

theorem format_inj {d e : Decimal} (h : d.format.toList = e.format.toList) : d = e := by
  obtain ⟨cs, hcs, hformat⟩ := d.toList_format
  obtain ⟨cs', hcs', hformat'⟩ := e.toList_format
  rw [hformat, hformat'] at h
  obtain ⟨c, rest, hstart, -, hc, -⟩ := hcs.starts
  obtain ⟨c', rest', hstart', -, hc', -⟩ := hcs'.starts
  obtain ⟨hsign, rfl⟩ := signChars_inj ⟨c, rest, hstart, hc⟩ ⟨c', rest', hstart', hc'⟩ h
  exact hcs.inj hcs' hsign rfl

end Decimal

/-! ## All kinds -/

namespace Value

/-- Decimals, dates, times, moments and byte strings. -/
inductive LacksJson : Value → Prop
  | decimal (d : Decimal) : LacksJson (.decimal d)
  | date (d : Date) : LacksJson (.date d)
  | time (t : Time) : LacksJson (.time t)
  | moment (m : Moment) : LacksJson (.moment m)
  | bytes (data : List UInt8) : LacksJson (.bytes .fixed data)

/-- What a plain text tells at its start: whether it has bytes, a day, a time of day or a number. -/
inductive PlainKind where
  | bytes
  | day
  | time
  | number

/-- What follows the digits that a plain text starts with. -/
def PlainKind.ofStop : Option Char → PlainKind
  | some '-' => day
  | some ':' => time
  | _ => number

def PlainKind.ofChars (cs : List Char) : PlainKind :=
  if cs.head? = some 'b' then bytes
  else if cs.head?.any Char.isDigit then ofStop (cs.dropWhile Char.isDigit).head?
  else number

def plainKind : Value → PlainKind
  | .bytes .. => .bytes
  | .date _ | .moment _ => .day
  | .time _ => .time
  | _ => .number

theorem PlainKind.ofChars_digits {digits x : List Char} (hdigits : ∀ c ∈ digits, c.isDigit = true)
    (hsome : digits ≠ []) (hx : StopsDigits x) : ofChars (digits ++ x) = ofStop x.head? := by
  have hrest : (digits ++ x).dropWhile Char.isDigit = x := by
    rw [List.dropWhile_append_of_pos hdigits]
    cases x with
    | nil => rfl
    | cons c cs => exact List.dropWhile_cons_of_neg (Bool.eq_false_iff.1 (hx c rfl))
  obtain ⟨c, cs, rfl⟩ := List.exists_cons_of_ne_nil hsome
  have hdigit := hdigits c List.mem_cons_self
  have hplain : (c :: cs ++ x).head? ≠ some 'b' := by
    intro hhead
    rw [Option.some.inj hhead] at hdigit
    exact absurd hdigit (by decide)
  have hany : (c :: cs ++ x).head?.any Char.isDigit = true := hdigit
  rw [ofChars, if_neg hplain, if_pos hany, hrest]

theorem PlainKind.ofChars_other {c : Char} (hdigit : c.isDigit = false) (hplain : c ≠ 'b')
    (cs : List Char) : ofChars (c :: cs) = number := by
  have hhead : (c :: cs).head? ≠ some 'b' := fun h => hplain (Option.some.inj h)
  have hany : ¬(c :: cs).head?.any Char.isDigit = true := Bool.eq_false_iff.1 hdigit
  rw [ofChars, if_neg hhead, if_neg hany]

theorem PlainKind.ofChars_decimal (d : Decimal) : ofChars d.format.toList = number := by
  obtain ⟨cs, hcs, hformat⟩ := d.toList_format
  rw [hformat]
  cases hsign : d.isNegative with
  | true => exact ofChars_other rfl (by decide) cs
  | false =>
    show ofChars cs = number
    cases hcs with
    | nan negative signaling payload =>
      cases signaling
      · exact ofChars_other rfl (by decide) _
      · exact ofChars_other rfl (by decide) _
    | infinite negative => exact ofChars_other rfl (by decide) _
    | @finite _ _ _ _ fraction shift hshown =>
      rw [ofChars_digits hshown.whole_digits hshown.whole_ne
        (Decimal.fractionChars_stopsDigits _ _)]
      unfold Decimal.fractionChars Decimal.shiftChars
      by_cases hfraction : fraction = [] <;> by_cases hshift : shift = 0 <;>
        simp [hfraction, hshift, ofStop]

theorem LacksJson.plainKind_eq {v : Value} (hv : v.LacksJson) :
    PlainKind.ofChars v.plainText.toList = v.plainKind := by
  have hday (d : Date) (x : List Char) : PlainKind.ofChars (d.iso.toList ++ x) = .day := by
    rw [d.toList_iso_append]
    exact PlainKind.ofChars_digits isDigit_of_mem_zeroPadded zeroPadded_ne_nil
      (stopsDigits_cons rfl _)
  cases hv with
  | decimal d => exact PlainKind.ofChars_decimal d
  | date d => exact (congrArg PlainKind.ofChars (List.append_nil _)).symm.trans (hday d [])
  | time t =>
    show PlainKind.ofChars t.iso.toList = .time
    rw [t.toList_iso]
    exact PlainKind.ofChars_digits isDigit_of_mem_zeroPadded zeroPadded_ne_nil
      (stopsDigits_cons rfl _)
  | moment m =>
    show PlainKind.ofChars (m.iso " ").toList = .day
    rw [m.toList_iso]
    exact hday m.date _
  | bytes data =>
    show PlainKind.ofChars (Text.quotedBytes data).toList = .bytes
    obtain ⟨quote, -, hwrite⟩ := toList_quotedBytes data
    rw [hwrite]
    rfl

/-- **Values that JSON lacks are known from their plain texts.** -/
theorem LacksJson.plainText_inj {u v : Value} (hu : u.LacksJson) (hv : v.LacksJson)
    (h : u.plainText = v.plainText) : u = v := by
  have hchars : u.plainText.toList = v.plainText.toList := congrArg _ h
  have hkind : u.plainKind = v.plainKind := by
    rw [← hu.plainKind_eq, ← hv.plainKind_eq, h]
  -- a date is the start of a moment, and so they are of one kind
  have hdate (d : Date) (m : Moment) : d.iso.toList ≠ (m.iso " ").toList := by
    intro hsame
    rw [m.toList_iso, ← List.append_nil d.iso.toList] at hsame
    exact absurd (Date.iso_append_inj stopsDigits_nil (stopsDigits_cons rfl _) hsame).2
      (List.cons_ne_nil _ _).symm
  cases hu with
  | decimal d =>
    cases hv with
    | decimal d' => rw [Decimal.format_inj hchars]
    | _ => cases hkind
  | date d =>
    cases hv with
    | date d' =>
      rw [(Date.iso_append_inj stopsDigits_nil stopsDigits_nil (congrArg (· ++ []) hchars)).1]
    | moment m => exact absurd hchars (hdate d m)
    | _ => cases hkind
  | time t =>
    cases hv with
    | time t' => rw [Time.iso_inj hchars]
    | _ => cases hkind
  | moment m =>
    cases hv with
    | moment m' => rw [Moment.iso_inj hchars]
    | date d => exact absurd hchars.symm (hdate d m)
    | _ => cases hkind
  | bytes data =>
    cases hv with
    | bytes data' => rw [quotedBytes_inj hchars]
    | _ => cases hkind

end Value

end SqlQuery
