import Mathlib.Algebra.Order.Floor.Div
import Mathlib.Tactic.Linarith
import Mathlib.Tactic.Ring
import SqlQuery.Number.Double

/-!
# Quotients rounded to doubles

A quotient of natural numbers is rounded to the nearest double, and the double is rounded up to a
whole number (`ceiling?_quotient?`). What that loses depends on the place of the quotient's first
binary digit: with places left after the point, a small rest may be rounded away; with none left, a
whole number that is no double cannot be reached. `KeepsCeiling` is the condition under which
neither happens.
-/

namespace SqlQuery.Double

/-! ## Rounding to a whole number -/

section RoundQuotient

variable {num den c : Nat}

/-- A rounded quotient is at most `c` if the quotient is nearer to `c` than to what follows, or as
near and `c` is even. -/
theorem roundQuotient_le_iff (hden : 0 < den) : roundQuotient num den ≤ c
    ↔ 2 * num < (2 * c + 1) * den ∨ 2 * num = (2 * c + 1) * den ∧ c % 2 = 0 := by
  have hsplit := Nat.div_add_mod num den
  have hrest := Nat.mod_lt num hden
  unfold roundQuotient
  simp only
  generalize num / den = q at *
  generalize num % den = r at *
  subst hsplit
  have hexpand : (2 * c + 1) * den = 2 * (den * c) + den := by ring
  rw [hexpand]
  rcases Nat.lt_trichotomy q c with hqc | rfl | hqc
  · have hstep : den * q + den ≤ den * c := by
      rw [← Nat.mul_succ]
      exact Nat.mul_le_mul_left den hqc
    split
    · omega
    · split <;> omega
  · split
    · omega
    · split <;> omega
  · have hstep : den * c + den ≤ den * q := by
      rw [← Nat.mul_succ]
      exact Nat.mul_le_mul_left den hqc
    split
    · omega
    · split <;> omega

theorem roundQuotient_mul (hden : 0 < den) : roundQuotient (c * den) den = c := by
  simp [roundQuotient, Nat.mul_div_cancel _ hden, hden]

end RoundQuotient

/-! ## The place of the last digit -/

section LastPlace

variable {num den : Nat}

theorem scaleDown_of_nonneg {e : Int} (he : 0 ≤ e) (num den : Nat) :
    scaleDown num den e = (num, den * 2 ^ e.toNat) :=
  if_pos he

theorem scaleDown_of_neg {e : Int} (he : e < 0) (num den : Nat) :
    scaleDown num den e = (num * 2 ^ (-e).toNat, den) :=
  if_neg (Int.not_le.2 he)

theorem le_scaleDown_iff (hden : 0 < den) (j : Nat) :
    2 ^ 53 ≤ (scaleDown num den (j - 53)).1 / (scaleDown num den (j - 53)).2
      ↔ den * 2 ^ j ≤ num := by
  by_cases hj : 53 ≤ j
  · have hplace : ((j : Int) - 53).toNat = j - 53 := by omega
    have hpow : 2 ^ 53 * (den * 2 ^ (j - 53)) = den * 2 ^ j := by
      rw [Nat.mul_left_comm, ← Nat.pow_add, Nat.add_sub_cancel' hj]
    rw [scaleDown_of_nonneg (by omega), hplace,
      Nat.le_div_iff_mul_le (Nat.mul_pos hden (Nat.two_pow_pos _)), hpow]
  · have hplace : (-((j : Int) - 53)).toNat = 53 - j := by omega
    have hpow : 2 ^ 53 * den = den * 2 ^ j * 2 ^ (53 - j) := by
      rw [Nat.mul_assoc, ← Nat.pow_add, Nat.add_sub_cancel' (by omega), Nat.mul_comm]
    rw [scaleDown_of_neg (by omega), hplace, Nat.le_div_iff_mul_le hden, hpow]
    exact Nat.mul_le_mul_right_iff (Nat.two_pow_pos _)

/-- Of a quotient that is at least one the place of the last digit is 52 places below the first. -/
theorem lastPlace_eq (hden : 0 < den) (hle : den ≤ num) :
    lastPlace num den = ((num / den).log2 : Int) - 52 := by
  have hnum : num ≠ 0 := by omega
  have hquotient : num / den ≠ 0 := (Nat.div_pos hle hden).ne'
  have hlow : den * 2 ^ (num / den).log2 ≤ num :=
    (Nat.mul_le_mul_left den (Nat.log2_self_le hquotient)).trans (Nat.mul_div_le num den)
  have hhigh : num < den * 2 ^ ((num / den).log2 + 1) :=
    (Nat.lt_mul_div_succ num hden).trans_le (Nat.mul_le_mul_left den Nat.lt_log2_self)
  -- the quotient has as many binary digits as the lengths differ by, or one more
  have hshort : den.log2 + (num / den).log2 < num.log2 + 1 := by
    refine (Nat.pow_lt_pow_iff_right Nat.one_lt_two).1 ?_
    rw [Nat.pow_add]
    exact ((Nat.mul_le_mul_right _ (Nat.log2_self_le hden.ne')).trans hlow).trans_lt
      Nat.lt_log2_self
  have hlong : num.log2 < den.log2 + 1 + ((num / den).log2 + 1) := by
    refine (Nat.pow_lt_pow_iff_right Nat.one_lt_two).1 ?_
    rw [Nat.pow_add]
    exact (Nat.log2_self_le hnum).trans_lt
      (hhigh.trans_le (Nat.mul_le_mul_right _ Nat.lt_log2_self.le))
  have hstart : max ((num.log2 : Int) - den.log2 - 53) (-1074)
      = ((num.log2 - den.log2 : Nat) : Int) - 53 := by omega
  have hlast : lastPlace num den
      = if 2 ^ 53 ≤ (scaleDown num den ((num.log2 - den.log2 : Nat) - 53)).1
          / (scaleDown num den ((num.log2 - den.log2 : Nat) - 53)).2
        then ((num.log2 - den.log2 : Nat) : Int) - 53 + 1
        else ((num.log2 - den.log2 : Nat) : Int) - 53 := by
    unfold lastPlace
    rw [hstart]
    rfl
  rw [hlast]
  have hiff := @le_scaleDown_iff num den hden (num.log2 - den.log2)
  rcases Nat.eq_or_lt_of_le (Nat.le_of_lt_succ hshort) with hlength | hlength
  · have hplace : num.log2 - den.log2 = (num / den).log2 := by omega
    rw [hplace] at hiff ⊢
    rw [if_pos (hiff.2 hlow)]
    omega
  · have hplace : num.log2 - den.log2 = (num / den).log2 + 1 := by omega
    rw [hplace] at hiff ⊢
    rw [if_neg (mt hiff.1 (Nat.not_le.2 hhigh))]
    omega

/-- Of a quotient below one all places are after the point. -/
theorem lastPlace_neg (hlt : num < den) : lastPlace num den < 0 := by
  have hlog : num.log2 ≤ den.log2 := by
    by_cases hnum : num = 0
    · simp [hnum]
    · exact (Nat.le_log2 (by omega)).2 ((Nat.log2_self_le hnum).trans hlt.le)
  unfold lastPlace
  simp only
  split <;> omega

end LastPlace

/-! ## Rounding up a double -/

/-- The least whole number that is not below `m · 2 ^ e`. -/
def ceilingOf (m : Nat) (e : Int) : Nat :=
  if 0 ≤ e then m * 2 ^ e.toNat else m ⌈/⌉ 2 ^ (-e).toNat

theorem ceilingOf_zero (e : Int) : ceilingOf 0 e = 0 := by
  by_cases he : 0 ≤ e <;> simp [ceilingOf, he]

theorem ceiling?_finite (m : Nat) (e : Int) :
    ceiling? (.finite false m e) = some (ceilingOf m e : Int) := by
  by_cases he : 0 ≤ e
  · simp [ceiling?, ceilingOf, he]
  · have hpos : 0 < 2 ^ (-e).toNat := Nat.two_pow_pos _
    simp [ceiling?, ceilingOf, he, Nat.ceilDiv_eq_add_pred_div, Nat.add_sub_assoc hpos]

/-- A significand that is rounded up to `2 ^ 53` is halved, which changes nothing. -/
theorem ceilingOf_carry (e : Int) : ceilingOf (2 ^ 52) (e + 1) = ceilingOf (2 ^ 53) e := by
  have hcarry : (2 : Nat) ^ 53 = 2 ^ 52 * 2 := pow_succ 2 52
  unfold ceilingOf
  rcases Int.lt_trichotomy e (-1) with he | rfl | he
  · obtain ⟨k, hk⟩ : ∃ k, (-(e + 1)).toNat = k := ⟨_, rfl⟩
    have hplace : (-e).toNat = k + 1 := by omega
    rw [if_neg (by omega), if_neg (by omega), hk, hplace, hcarry, pow_succ 2 k]
    refine eq_of_forall_ge_iff fun c => ?_
    rw [ceilDiv_le_iff_le_mul (Nat.two_pow_pos _),
      ceilDiv_le_iff_le_mul (Nat.mul_pos (Nat.two_pow_pos _) Nat.two_pos), Nat.mul_right_comm,
      Nat.mul_le_mul_right_iff Nat.two_pos]
  · decide
  · obtain ⟨k, hk⟩ : ∃ k, e.toNat = k := ⟨_, rfl⟩
    have hplace : (e + 1).toNat = k + 1 := by omega
    rw [if_pos (by omega), if_pos (by omega), hk, hplace, hcarry, pow_succ 2 k, Nat.mul_assoc,
      Nat.mul_comm 2]

/-- Quotients of natural numbers are rounded up as their doubles are. -/
theorem quotient?_bind_ceiling? {num den : Nat} (hden : 0 < den) :
    (quotient? num den).bind ceiling? = (ofRatio false num den).ceiling? := by
  have hsign : (decide ((num : Int) < 0) != decide ((den : Int) < 0)) = false := by
    simp [Int.not_lt.2 (Int.natCast_nonneg num), Int.not_lt.2 (Int.natCast_nonneg den)]
  have hzero : ¬(den : Int) = 0 := by omega
  unfold quotient?
  rw [if_neg hzero, hsign, Int.natAbs_natCast, Int.natAbs_natCast]
  cases ofRatio false num den <;> rfl

/-- The quotient of two positive numbers, rounded to a double and then rounded up. It is too large
if its last place is, or if it is rounded up to a place more. -/
theorem ceiling?_ofRatio {num den : Nat} (hnum : 0 < num) :
    let e := lastPlace num den
    let m := roundQuotient (scaleDown num den e).1 (scaleDown num den e).2
    (ofRatio false num den).ceiling?
      = if e < 971 ∨ e = 971 ∧ m ≠ 2 ^ 53 then some (ceilingOf m e : Int) else none := by
  intro e m
  have hratio {m' : Nat} {e' : Int}
      (h : (if m = 2 ^ 53 then (2 ^ 52, e + 1) else (m, e)) = (m', e')) :
      ofRatio false num den = if 971 < e' then .infinite false else .finite false m' e' := by
    unfold ofRatio
    rw [if_neg hnum.ne']
    exact congrArg (fun p : Nat × Int =>
      if 971 < p.2 then Double.infinite false else .finite false p.1 p.2) h
  by_cases hm : m = 2 ^ 53
  · rw [hratio (if_pos hm), hm]
    by_cases he : 971 < e + 1
    · rw [if_pos he, if_neg (by omega)]
      rfl
    · rw [if_neg he, if_pos (by omega), ceiling?_finite, ceilingOf_carry]
  · rw [hratio (if_neg hm)]
    by_cases he : 971 < e
    · rw [if_pos he, if_neg (by omega)]
      rfl
    · rw [if_neg he, if_pos (by omega), ceiling?_finite]

/-! ## The whole part of a rounded quotient -/

/-- Whether the doubles around a quotient are dense enough for it to be rounded up as it would be
exactly. They are `2 ^ (place - 52)` apart. Where that is a fraction, what the quotient exceeds its
whole part by has to be more than half of it; else the exact result has to be a double. -/
def KeepsCeiling (num den : Nat) : Prop :=
  let whole := num / den
  let rest := num % den
  let place := whole.log2
  if place ≤ 52 then
    rest = 0 ∨ den < rest * 2 ^ (53 - place)
      ∨ den = rest * 2 ^ (53 - place) ∧ whole % 2 = 1 ∧ place = 52
  else 2 ^ (place - 52) ∣ num ⌈/⌉ den

section Whole

variable {num den : Nat}

/-- A quotient with a rest is rounded up to the next whole number. -/
theorem ceilDiv_eq (hden : 0 < den) :
    num ⌈/⌉ den = num / den + if num % den = 0 then 0 else 1 := by
  have hsplit := Nat.div_add_mod num den
  have hrest := Nat.mod_lt num hden
  refine eq_of_forall_ge_iff fun c => ?_
  rw [ceilDiv_le_iff_le_mul hden]
  generalize num / den = q at *
  generalize num % den = r at *
  rcases Nat.lt_or_ge q c with hqc | hqc
  · have hstep : den * (q + 1) ≤ den * c := Nat.mul_le_mul_left den hqc
    rw [Nat.mul_succ] at hstep
    split <;> omega
  · have hstep : den * c ≤ den * q := Nat.mul_le_mul_left den hqc
    split
    · rw [← hsplit, ‹r = 0›, Nat.add_zero, Nat.add_zero, Nat.mul_le_mul_left_iff hden]
    · omega

/-- Rounded in binary places after the point, a quotient is not above the exact result. -/
theorem roundQuotient_le_ceilDiv (hden : 0 < den) (k : Nat) :
    roundQuotient (num * 2 ^ k) den ⌈/⌉ 2 ^ k ≤ num ⌈/⌉ den := by
  have hle : num ≤ den * (num ⌈/⌉ den) := (ceilDiv_le_iff_le_mul hden).1 le_rfl
  rw [ceilDiv_le_iff_le_mul (Nat.two_pow_pos k), roundQuotient_le_iff hden]
  refine .inl ?_
  have hscaled : num * 2 ^ k ≤ den * (num ⌈/⌉ den) * 2 ^ k := Nat.mul_le_mul_right _ hle
  have hexpand : (2 * (2 ^ k * (num ⌈/⌉ den)) + 1) * den
      = 2 * (den * (num ⌈/⌉ den) * 2 ^ k) + den := by ring
  omega

/-- And it is above the whole part if it exceeds that by more than half a place, or by half a place
where the whole part has an odd last digit. -/
theorem roundQuotient_gt_iff (hden : 0 < den) (k : Nat) :
    ¬roundQuotient (num * 2 ^ k) den ≤ 2 ^ k * (num / den)
      ↔ den < num % den * 2 ^ (k + 1)
        ∨ den = num % den * 2 ^ (k + 1) ∧ 2 ^ k * (num / den) % 2 = 1 := by
  have hsplit : 2 * (num * 2 ^ k)
      = 2 * (2 ^ k * (num / den)) * den + num % den * 2 ^ (k + 1) := by
    conv_lhs => rw [← Nat.div_add_mod num den]
    ring
  rw [roundQuotient_le_iff hden, hsplit, Nat.add_mul, Nat.one_mul]
  omega

/-- With places after the point. -/
theorem roundQuotient_ceilDiv_iff (hden : 0 < den) (k : Nat) :
    roundQuotient (num * 2 ^ k) den ⌈/⌉ 2 ^ k = num ⌈/⌉ den
      ↔ num % den = 0 ∨ den < num % den * 2 ^ (k + 1)
        ∨ den = num % den * 2 ^ (k + 1) ∧ 2 ^ k * (num / den) % 2 = 1 := by
  have hle := @roundQuotient_le_ceilDiv num den hden k
  have hpos : 0 < 2 ^ k := Nat.two_pow_pos k
  have hgt := @roundQuotient_gt_iff num den hden k
  rw [← ceilDiv_le_iff_le_mul hpos] at hgt
  have hceil := @ceilDiv_eq num den hden
  by_cases hrest : num % den = 0
  · have hexact : roundQuotient (num * 2 ^ k) den = num / den * 2 ^ k := by
      have hmul : num * 2 ^ k = num / den * 2 ^ k * den := by
        conv_lhs => rw [← Nat.div_mul_cancel (Nat.dvd_of_mod_eq_zero hrest)]
        ring
      rw [hmul, roundQuotient_mul hden]
    rw [if_pos hrest] at hceil
    have hwhole : num / den * 2 ^ k ⌈/⌉ 2 ^ k = num / den := by
      rw [Nat.mul_comm]
      exact smul_ceilDiv hpos _
    rw [hexact, hceil, hwhole]
    simp [hrest]
  · rw [if_neg hrest] at hceil
    simp only [hrest, false_or]
    rw [← hgt]
    omega

/-- With places before the point only the doubles among the whole numbers are reached. -/
theorem roundQuotient_mul_iff (hden : 0 < den) {k : Nat} (hk : 0 < k) :
    roundQuotient num (den * 2 ^ k) * 2 ^ k = num ⌈/⌉ den ↔ 2 ^ k ∣ num ⌈/⌉ den := by
  constructor
  · rintro hsame
    exact ⟨_, hsame.symm.trans (Nat.mul_comm _ _)⟩
  · rintro ⟨t, ht⟩
    have hpos : 0 < den * 2 ^ k := Nat.mul_pos hden (Nat.two_pow_pos k)
    have htwo : 2 ≤ 2 ^ k := Nat.le_self_pow hk.ne' 2
    have hle : num ≤ den * (2 ^ k * t) := (ceilDiv_le_iff_le_mul hden).1 ht.le
    suffices hround : roundQuotient num (den * 2 ^ k) = t by rw [hround, ht, Nat.mul_comm]
    refine Nat.le_antisymm ?_ (Nat.not_lt.1 fun hless => ?_)
    · have hexpand : (2 * t + 1) * (den * 2 ^ k) = 2 * (den * (2 ^ k * t)) + den * 2 ^ k := by ring
      rw [roundQuotient_le_iff hpos]
      omega
    · obtain ⟨s, rfl⟩ : ∃ s, t = s + 1 := ⟨t - 1, by omega⟩
      -- one less would do for the whole number before the exact result
      have hbefore : ¬num ≤ den * (2 ^ k * (s + 1) - 1) := by
        rw [← ceilDiv_le_iff_le_mul hden, ht]
        have hsome : 0 < 2 ^ k * (s + 1) := Nat.mul_pos (Nat.two_pow_pos k) s.succ_pos
        omega
      have hround := (roundQuotient_le_iff hpos).1 (Nat.le_of_lt_succ hless)
      have hexpand : (2 * s + 1) * (den * 2 ^ k) = 2 * (den * 2 ^ k * s) + den * 2 ^ k := by ring
      have hlast : den * (2 ^ k * (s + 1) - 1) = den * 2 ^ k * s + den * 2 ^ k - den := by
        rw [Nat.mul_sub, Nat.mul_one]
        congr 1
        ring
      have hdouble : den * 2 ≤ den * 2 ^ k := Nat.mul_le_mul_left den htwo
      omega

/-- Where the greatest last place is `n + 1`, a quotient with its last place before the point is not
too large if it is below the number half a place above the greatest significand. -/
theorem place_le_iff (hden : 0 < den) {k : Nat} (hlow : 2 ^ 52 * (den * 2 ^ k) ≤ num)
    (hhigh : num < 2 ^ 53 * (den * 2 ^ k)) (n : Nat) :
    k < n + 1 ∨ k = n + 1 ∧ roundQuotient num (den * 2 ^ k) ≠ 2 ^ 53
      ↔ num < (2 ^ 54 - 1) * (den * 2 ^ n) := by
  rcases Nat.lt_trichotomy k (n + 1) with hk | rfl | hk
  · have hpow : den * 2 ^ k ≤ den * 2 ^ n :=
      Nat.mul_le_mul_left den (Nat.pow_le_pow_right Nat.two_pos (Nat.le_of_lt_succ hk))
    omega
  · have hpow : den * 2 ^ (n + 1) = 2 * (den * 2 ^ n) := by
      rw [pow_succ, Nat.mul_comm 2, Nat.mul_assoc]
    have hpos : 0 < den * 2 ^ (n + 1) := Nat.mul_pos hden (Nat.two_pow_pos _)
    have hmost := @roundQuotient_le_iff num _ (2 ^ 53) hpos
    have hless := @roundQuotient_le_iff num _ (2 ^ 53 - 1) hpos
    rw [hpow] at hlow hhigh hmost hless ⊢
    omega
  · have hpow : 4 * (den * 2 ^ n) ≤ den * 2 ^ k := by
      have hfour : 4 * (den * 2 ^ n) = den * 2 ^ (n + 2) := by ring
      rw [hfour]
      exact Nat.mul_le_mul_left den (Nat.pow_le_pow_right Nat.two_pos hk)
    omega

end Whole

/-! ## Rounding up a rounded quotient -/

section Ceiling

variable {num den : Nat}

theorem ceiling?_of_lt (hlt : num < den) :
    ∃ n : Nat, (ofRatio false num den).ceiling? = some (n : Int) ∧ n ≤ 1 := by
  rcases Nat.eq_zero_or_pos num with rfl | hnum
  · have hzero : ofRatio false 0 den = .finite false 0 (-1074) := if_pos rfl
    refine ⟨0, ?_, Nat.zero_le 1⟩
    rw [hzero, ceiling?_finite, ceilingOf_zero]
  · have hplace := lastPlace_neg hlt
    refine ⟨_, (ceiling?_ofRatio hnum).trans (if_pos (.inl (by omega))), ?_⟩
    rw [scaleDown_of_neg hplace]
    unfold ceilingOf
    rw [if_neg (Int.not_le.2 hplace), ceilDiv_le_iff_le_mul (Nat.two_pow_pos _), Nat.mul_one]
    generalize 2 ^ (-lastPlace num den).toNat = scale
    refine (roundQuotient_le_iff (by omega)).2 (.inl ?_)
    have hscaled : num * scale ≤ den * scale := Nat.mul_le_mul_right _ hlt.le
    have hexpand : (2 * scale + 1) * den = 2 * (den * scale) + den := by ring
    change 2 * (num * scale) < (2 * scale + 1) * den
    omega

theorem ceiling?_of_log2_le (hden : 0 < den) (hle : den ≤ num) (hlog : (num / den).log2 ≤ 52) :
    (ofRatio false num den).ceiling? = some
      ((roundQuotient (num * 2 ^ (52 - (num / den).log2)) den ⌈/⌉ 2 ^ (52 - (num / den).log2) : Nat)
        : Int) := by
  have hplace := lastPlace_eq hden hle
  rw [ceiling?_ofRatio (by omega), if_pos (.inl (by omega)), hplace]
  unfold ceilingOf
  rcases Nat.eq_or_lt_of_le hlog with htop | hbelow
  · simp [htop, scaleDown_of_nonneg]
  · have hdigits : (-(((num / den).log2 : Int) - 52)).toNat = 52 - (num / den).log2 := by omega
    rw [scaleDown_of_neg (by omega), if_neg (by omega), hdigits]

theorem ceiling?_of_lt_log2 (hden : 0 < den) (hle : den ≤ num) {k : Nat}
    (hlog : (num / den).log2 = k + 52) :
    (ofRatio false num den).ceiling?
      = if num < (2 ^ 54 - 1) * (den * 2 ^ 970)
        then some ((roundQuotient num (den * 2 ^ k) * 2 ^ k : Nat) : Int) else none := by
  have hplace : lastPlace num den = k := by
    rw [lastPlace_eq hden hle]
    omega
  have hquotient : num / den ≠ 0 := (Nat.div_pos hle hden).ne'
  have hlow : 2 ^ 52 * (den * 2 ^ k) ≤ num := by
    refine le_trans ?_ (Nat.mul_div_le num den)
    have hpow := Nat.log2_self_le hquotient
    rw [hlog, pow_add] at hpow
    calc 2 ^ 52 * (den * 2 ^ k) = den * (2 ^ k * 2 ^ 52) := by ring
      _ ≤ den * (num / den) := Nat.mul_le_mul_left den hpow
  have hhigh : num < 2 ^ 53 * (den * 2 ^ k) := by
    refine (Nat.lt_mul_div_succ num hden).trans_le ?_
    have hpow : num / den < 2 ^ ((num / den).log2 + 1) := Nat.lt_log2_self
    rw [hlog, Nat.add_assoc, pow_add] at hpow
    calc den * (num / den + 1) ≤ den * (2 ^ k * 2 ^ (52 + 1)) := Nat.mul_le_mul_left den hpow
      _ = 2 ^ 53 * (den * 2 ^ k) := by ring
  have hdown : scaleDown num den k = (num, den * 2 ^ k) := scaleDown_of_nonneg (by omega) num den
  have hceiling : ceilingOf (roundQuotient num (den * 2 ^ k)) k
      = roundQuotient num (den * 2 ^ k) * 2 ^ k := if_pos (by omega)
  have hbelow : (k : Int) < 971 ↔ k < 970 + 1 := by omega
  have htop : (k : Int) = 971 ↔ k = 970 + 1 := by omega
  rw [ceiling?_ofRatio (by omega), hplace, hdown, hceiling]
  exact if_congr ((or_congr hbelow (and_congr_left' htop)).trans (place_le_iff hden hlow hhigh 970))
    rfl rfl

/-- Quotients below `2 ^ 53` are far from the greatest double. -/
theorem lt_greatest (h : num < 2 ^ 53 * den) (n : Nat) : num < (2 ^ 54 - 1) * (den * 2 ^ n) := by
  have hle : den ≤ den * 2 ^ n := Nat.le_mul_of_pos_right den (Nat.two_pow_pos n)
  generalize den * 2 ^ n = scaled at *
  omega

/-- The last digit after `52 - place` more places is the one of the whole part if there are none. -/
theorem two_pow_mul_odd_iff {whole place : Nat} (hplace : place ≤ 52) :
    2 ^ (52 - place) * whole % 2 = 1 ↔ whole % 2 = 1 ∧ place = 52 := by
  rcases Nat.eq_or_lt_of_le hplace with rfl | hbelow
  · simp
  · have hpow : 2 ^ (52 - place) * whole = 2 * (2 ^ (51 - place) * whole) := by
      rw [show 52 - place = 51 - place + 1 by omega, pow_succ]
      ring
    omega

/-- **Quotients that are rounded to doubles and then rounded up.** There is a result below the least
quotient that is rounded beyond the largest finite double. For a quotient below one it is one at
most, and else it is the exact result exactly if that is kept by the rounding. -/
theorem ceiling?_quotient? (hden : 0 < den) (num : Nat) :
    ∃ n : Nat, (quotient? num den).bind ceiling?
        = (if num < (2 ^ 54 - 1) * (den * 2 ^ 970) then some (n : Int) else none)
      ∧ (num < den → n ≤ 1) ∧ (den ≤ num → (n = num ⌈/⌉ den ↔ KeepsCeiling num den)) := by
  rw [quotient?_bind_ceiling? hden]
  rcases Nat.lt_or_ge num den with hless | hle
  · obtain ⟨n, hn, hone⟩ := ceiling?_of_lt hless
    refine ⟨n, hn.trans (if_pos (lt_greatest (by omega) 970)).symm, fun _ => hone,
      fun h => absurd h (Nat.not_le.2 hless)⟩
  · rcases Nat.lt_or_ge 52 (num / den).log2 with hlog | hlog
    · obtain ⟨k, hk⟩ : ∃ k, (num / den).log2 = k + 52 := ⟨_, (Nat.sub_add_cancel hlog.le).symm⟩
      refine ⟨_, ceiling?_of_lt_log2 hden hle hk, fun h => absurd hle (Nat.not_le.2 h), fun _ => ?_⟩
      unfold KeepsCeiling
      simp only [hk]
      rw [if_neg (by omega), Nat.add_sub_cancel]
      exact roundQuotient_mul_iff hden (by omega)
    · have hbelow : num < 2 ^ 53 * den := by
        have hwhole : num / den < 2 ^ 53 :=
          Nat.lt_log2_self.trans_le (Nat.pow_le_pow_right Nat.two_pos (Nat.succ_le_succ hlog))
        exact (Nat.div_lt_iff_lt_mul hden).1 hwhole
      have hplaces : 52 - (num / den).log2 + 1 = 53 - (num / den).log2 := by omega
      refine ⟨_, (ceiling?_of_log2_le hden hle hlog).trans (if_pos (lt_greatest hbelow 970)).symm,
        fun h => absurd hle (Nat.not_le.2 h), fun _ => ?_⟩
      rw [roundQuotient_ceilDiv_iff hden, two_pow_mul_odd_iff hlog, hplaces, KeepsCeiling]
      simp only [if_pos hlog]

end Ceiling

end SqlQuery.Double
