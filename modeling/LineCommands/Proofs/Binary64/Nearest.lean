import LineCommands.Proofs.Binary64.Overflow

/-!
# Rounding to the nearest

The floating-point number that a quotient is rounded to is a nearest one: no finite floating-point
number is closer to the quotient (`isNearest_ofRatio`). The same holds of decimals, the ones that
are cut down on the way among them (`isNearest_ofDecimal`).

Rounding looks at one exponent only, that of the quotient. The finite numbers with this exponent or
a larger one are whole multiples of one unit, and rounding to a whole number takes the nearest of
these. The numbers with smaller exponents are finer, but all of them lie below a multiple of the
unit that is itself no more than the quotient.
-/

namespace LineCommands

namespace SignedDyadic

/-- The number without its sign. -/
def magnitude (x : SignedDyadic) : ℚ := x.m * 2 ^ x.q

/-- The number that is meant. -/
def toRat (x : SignedDyadic) : ℚ := if x.negative then -x.magnitude else x.magnitude

theorem magnitude_nonneg (x : SignedDyadic) : 0 ≤ x.magnitude :=
  mul_nonneg (Nat.cast_nonneg _) (zpow_nonneg (by norm_num) _)

theorem abs_toRat (x : SignedDyadic) : |x.toRat| = x.magnitude := by
  rw [toRat]
  split
  · rw [abs_neg, abs_of_nonneg x.magnitude_nonneg]
  · exact abs_of_nonneg x.magnitude_nonneg

theorem bounds_of_ofFloat? {z : Float} {w : SignedDyadic} (h : ofFloat? z = some w) :
    w.m < 2 ^ 53 ∧ -1074 ≤ w.q := by
  have hfraction : z.toBits.toNat % (1 <<< 52) < 2 ^ 52 := Nat.mod_lt _ (by decide)
  simp only [ofFloat?] at h
  split at h
  · cases h
  · split at h
    · obtain rfl := Option.some.inj h
      exact ⟨by dsimp only; omega, by dsimp only; omega⟩
    · obtain rfl := Option.some.inj h
      exact ⟨by dsimp only; omega, by dsimp only; omega⟩

/-- A finite value is a multiple of a unit, or it is less than `2 ^ 52` units, which are then not
the smallest ones. -/
theorem magnitude_cases {z : Float} {w : SignedDyadic} (h : ofFloat? z = some w) (q : Int) :
    (∃ k : Nat, w.magnitude = k * 2 ^ q) ∨ (w.magnitude < 2 ^ (q + 52) ∧ -1074 < q) := by
  obtain ⟨hm, hq⟩ := bounds_of_ofFloat? h
  rcases lt_or_ge w.q q with hlt | hge
  · refine Or.inr ⟨?_, by omega⟩
    have hpow : (0 : ℚ) < 2 ^ w.q := zpow_pos (by norm_num) _
    have hm' : (w.m : ℚ) < 2 ^ (53 : Int) := by
      rw [zpow_ofNat]
      exact_mod_cast hm
    calc w.magnitude < 2 ^ (53 : Int) * 2 ^ w.q := mul_lt_mul_of_pos_right hm' hpow
      _ = 2 ^ (53 + w.q) := (zpow_add₀ (by norm_num) _ _).symm
      _ ≤ 2 ^ (q + 52) := zpow_le_zpow_right₀ (by norm_num) (by omega)
  · refine Or.inl ⟨w.m * 2 ^ (w.q - q).toNat, ?_⟩
    have hsplit : (2 : ℚ) ^ w.q = 2 ^ (w.q - q).toNat * 2 ^ q := by
      rw [← zpow_natCast, Int.toNat_of_nonneg (by omega), ← zpow_add₀ (by norm_num),
        Int.sub_add_cancel]
    rw [magnitude, hsplit]
    push_cast
    ring

end SignedDyadic

namespace Binary64

open SignedDyadic

variable {n d : Nat}

/-- The value is finite, and no finite value is closer to the number. -/
def IsNearest (x : Float) (v : ℚ) : Prop :=
  ∃ y, ofFloat? x = some y ∧ ∀ z w, ofFloat? z = some w → |y.toRat - v| ≤ |w.toRat - v|

/-! ## Significands -/

theorem le_two_mul_divToEven (n d : Nat) (hd : 0 < d) : 2 * n ≤ 2 * (divToEven n d * d) + d := by
  have hdiv : n / d * d + n % d = n := Nat.div_add_mod' n d
  have hmod := Nat.mod_lt n hd
  simp only [divToEven]
  split
  · rw [Nat.add_mul (n / d) 1 d]
    omega
  · omega

theorem abs_divToEven_sub_le (hd : 0 < d) (k : Nat) :
    |(divToEven n d : ℚ) - n / d| ≤ |(k : ℚ) - n / d| := by
  have hd' : (0 : ℚ) < d := by exact_mod_cast hd
  have hup : (2 * (divToEven n d * d) : ℚ) ≤ 2 * n + d := by exact_mod_cast two_mul_divToEven_le n d
  have hdown : (2 * n : ℚ) ≤ 2 * (divToEven n d * d) + d := by
    exact_mod_cast le_two_mul_divToEven n d hd
  have herror : |(divToEven n d : ℚ) - n / d| ≤ 1 / 2 := by
    have hcancel : (n : ℚ) / d * d = n := div_mul_cancel₀ _ hd'.ne'
    rw [abs_le]
    constructor
    · by_contra hlt
      have := mul_lt_mul_of_pos_right (not_le.mp hlt) hd'
      linarith
    · by_contra hlt
      have := mul_lt_mul_of_pos_right (not_le.mp hlt) hd'
      linarith
  rcases eq_or_ne k (divToEven n d) with rfl | hne
  · exact le_rfl
  · -- Another whole number is at least one away from it.
    have hone : (1 : ℚ) ≤ |(k : ℚ) - divToEven n d| := by
      have hint : (1 : Int) ≤ |(k : Int) - divToEven n d| :=
        Int.one_le_abs (sub_ne_zero.mpr (by exact_mod_cast hne))
      exact_mod_cast hint
    have htriangle := abs_sub_le (k : ℚ) (n / d) (divToEven n d)
    rw [abs_sub_comm ((n : ℚ) / d)] at htriangle
    linarith

theorem cast_shift_div (q : Int) (n d : Nat) :
    ((n <<< (-q).toNat : Nat) : ℚ) / (d <<< q.toNat : Nat) = n / d / 2 ^ q := by
  have hpow := zpow_mul_pow_toNat Nat.two_pos q
  have hne : (2 : ℚ) ^ (-q).toNat ≠ 0 := pow_ne_zero _ (by norm_num)
  rw [Nat.shiftLeft_eq, Nat.shiftLeft_eq]
  push_cast at hpow ⊢
  rw [← hpow, ← mul_assoc, mul_div_mul_right _ _ hne, div_div]

theorem abs_divToEven_mul_sub_le (hd : 0 < d) (q : Int) (k : Nat) :
    |(divToEven (n <<< (-q).toNat) (d <<< q.toNat) : ℚ) * 2 ^ q - n / d|
      ≤ |(k : ℚ) * 2 ^ q - n / d| := by
  have hpos : (0 : ℚ) < 2 ^ q := zpow_pos (by norm_num) _
  have hshift : 0 < d <<< q.toNat := by
    rw [Nat.shiftLeft_eq]
    exact Nat.mul_pos hd (Nat.two_pow_pos _)
  have hscale : ∀ c : ℚ, |c * 2 ^ q - n / d| = |c - n / d / 2 ^ q| * 2 ^ q := by
    intro c
    rw [← abs_of_pos hpos, ← abs_mul, abs_of_pos hpos, sub_mul, div_mul_cancel₀ _ hpos.ne']
  have hnearest := abs_divToEven_sub_le (n := n <<< (-q).toNat) hshift k
  rw [cast_shift_div] at hnearest
  rw [hscale, hscale]
  exact mul_le_mul_of_nonneg_right hnearest hpos.le

/-- The exponent of the unit in which a quotient is rounded. -/
def unitExponent (n d : Nat) : Int := max (leadingExponent n d - 52) (-1074)

/-- The significand of a quotient in its unit. -/
def significand (n d : Nat) : Nat :=
  divToEven (n <<< (-unitExponent n d).toNat) (d <<< (unitExponent n d).toNat)

theorem two_pow_le_of_lt_unitExponent (hn : 0 < n) (hd : 0 < d) (hq : -1074 < unitExponent n d) :
    ((2 ^ 52 : Nat) : ℚ) * 2 ^ unitExponent n d ≤ n / d := by
  have hd' : (0 : ℚ) < d := by exact_mod_cast hd
  have hpow : ((2 ^ 52 : Nat) : ℚ) * 2 ^ unitExponent n d = 2 ^ leadingExponent n d := by
    have hunit : leadingExponent n d = 52 + unitExponent n d := by
      rw [unitExponent] at hq ⊢
      omega
    rw [hunit, zpow_add₀ (by norm_num)]
    norm_num
  rw [hpow, le_div_iff₀ hd']
  exact (leadingExponent_spec hn hd).1

/-- No finite value is closer to a quotient than its significand in its unit. -/
theorem abs_significand_sub_le (hn : 0 < n) (hd : 0 < d) {z : Float} {w : SignedDyadic}
    (h : ofFloat? z = some w) :
    |(significand n d : ℚ) * 2 ^ unitExponent n d - n / d| ≤ |w.magnitude - n / d| := by
  rcases magnitude_cases h (unitExponent n d) with ⟨k, hk⟩ | ⟨hlt, hq⟩
  · rw [hk]
    exact abs_divToEven_mul_sub_le hd _ k
  · have hle := two_pow_le_of_lt_unitExponent hn hd hq
    have hnearest := abs_divToEven_mul_sub_le (n := n) hd (unitExponent n d) (2 ^ 52)
    have hpow : (2 : ℚ) ^ (unitExponent n d + 52)
        = ((2 ^ 52 : Nat) : ℚ) * 2 ^ unitExponent n d := by
      rw [zpow_add₀ (by norm_num), mul_comm]
      norm_num
    rw [hpow] at hlt
    rw [abs_of_nonpos (sub_nonpos.mpr hle)] at hnearest
    rw [abs_of_nonpos (sub_nonpos.mpr (hlt.le.trans hle))]
    exact hnearest.trans (neg_le_neg (sub_le_sub_right hlt.le _))

/-! ## Bit patterns -/

theorem ofFloat?_ofBits (negative : Bool) {m : Nat} (h : m < infinityBits) :
    ofFloat? (Float.ofBits (.ofNat (m + if negative then 1 <<< 63 else 0)))
      = some (if m / 2 ^ 52 = 0 then ⟨negative, m % 2 ^ 52, -1074⟩
          else ⟨negative, 2 ^ 52 + m % 2 ^ 52, (m / 2 ^ 52 : Nat) - 1075⟩) := by
  have hinf : infinityBits = 2047 * 2 ^ 52 := by decide
  have hword := toNat_ofNat_add_sign negative h.le
  generalize UInt64.ofNat (m + if negative then 1 <<< 63 else 0) = b at hword
  have hbit := negative.toNat_lt
  have hbits : (Float.ofBits b).toBits = b := toBits_ofBits (by omega)
  have hsign : signBit (Float.ofBits b) = negative := by
    rw [signBit, hbits, hword, Nat.shiftRight_eq_div_pow]
    cases negative with
    | false => exact beq_eq_false_iff_ne.mpr (by simp; omega)
    | true => exact beq_iff_eq.mpr (by simp; omega)
  have hexponent : (b.toNat >>> 52) % 2048 = m / 2 ^ 52 := by
    rw [Nat.shiftRight_eq_div_pow]
    omega
  have hfraction : b.toNat % (1 <<< 52) = m % 2 ^ 52 := by
    rw [Nat.shiftLeft_eq]
    omega
  simp only [ofFloat?, hbits, hsign, hexponent, hfraction]
  rw [if_neg (by omega)]
  split
  · rfl
  · rfl

theorem significand_bounds (hn : 0 < n) (hd : 0 < d) :
    (2 ^ 52 ≤ significand n d ∨ unitExponent n d = -1074) ∧ significand n d ≤ 2 ^ 53 := by
  refine ⟨?_, divToEven_le_of_leadingExponent hn hd (le_max_left _ _)⟩
  by_contra hsmall
  rw [not_or, Nat.not_le] at hsmall
  have hq : -1074 < unitExponent n d := lt_of_le_of_ne (le_max_right _ _) (Ne.symm hsmall.2)
  have hle := two_pow_le_of_lt_unitExponent hn hd hq
  have hpos : (0 : ℚ) < 2 ^ unitExponent n d := zpow_pos (by norm_num) _
  have hlt : (significand n d : ℚ) * 2 ^ unitExponent n d
      < ((2 ^ 52 : Nat) : ℚ) * 2 ^ unitExponent n d :=
    mul_lt_mul_of_pos_right (by exact_mod_cast hsmall.1) hpos
  -- The multiple `2 ^ 52` of the unit would be nearer.
  have hnearest : |(significand n d : ℚ) * 2 ^ unitExponent n d - n / d|
      ≤ |((2 ^ 52 : Nat) : ℚ) * 2 ^ unitExponent n d - n / d| :=
    abs_divToEven_mul_sub_le hd (unitExponent n d) (2 ^ 52)
  rw [abs_of_nonpos (sub_nonpos.mpr (hlt.le.trans hle)), abs_of_nonpos (sub_nonpos.mpr hle)]
    at hnearest
  exact absurd ((sub_le_sub_iff_right _).mp (neg_le_neg_iff.mp hnearest)) (not_le.mpr hlt)

/-- The pattern of a finite value has the significand in its unit, with the carry and without. -/
theorem exists_ofFloat?_ofRatio (negative : Bool) (hn : 0 < n) (hd : 0 < d)
    (h : n < overflowBound * d) :
    ∃ y, ofFloat? (ofRatio negative n d) = some y ∧ y.negative = negative ∧
      y.magnitude = significand n d * 2 ^ unitExponent n d := by
  have hbits : nearestBits n d = (unitExponent n d + 1074).toNat * 2 ^ 52 + significand n d := by
    rw [nearestBits, if_neg hn.ne', if_neg (Nat.not_le.mpr h), ← Nat.shiftLeft_eq]
    rfl
  have hunit : -1074 ≤ unitExponent n d := le_max_right _ _
  obtain ⟨hleading, hcarry⟩ := significand_bounds hn hd
  have hdecode := ofFloat?_ofBits negative (nearestBits_lt hd h)
  rw [← ofRatio, hbits] at hdecode
  refine ⟨_, hdecode, ?_, ?_⟩
  · split
    · rfl
    · rfl
  · generalize significand n d = m at *
    generalize unitExponent n d = q at *
    rcases Nat.lt_or_ge m (2 ^ 52) with hsmall | hlarge
    · obtain rfl : q = -1074 := hleading.resolve_left (Nat.not_le.mpr hsmall)
      have hm : (((-1074 : Int) + 1074).toNat * 2 ^ 52 + m) % 2 ^ 52 = m := by omega
      rw [if_pos (by omega), magnitude, hm]
    · rw [if_neg (by omega), magnitude]
      rcases Nat.lt_or_ge m (2 ^ 53) with hlt | hge
      · have hm : 2 ^ 52 + ((q + 1074).toNat * 2 ^ 52 + m) % 2 ^ 52 = m := by omega
        have hq : ((((q + 1074).toNat * 2 ^ 52 + m) / 2 ^ 52 : Nat) : Int) - 1075 = q := by omega
        rw [hm, hq]
      · obtain rfl : m = 2 ^ 53 := hcarry.antisymm hge
        have hm : 2 ^ 52 + ((q + 1074).toNat * 2 ^ 52 + 2 ^ 53) % 2 ^ 52 = 2 ^ 52 := by omega
        have hq : ((((q + 1074).toNat * 2 ^ 52 + 2 ^ 53) / 2 ^ 52 : Nat) : Int) - 1075 = q + 1 := by
          omega
        rw [hm, hq, zpow_add_one₀ (by norm_num)]
        push_cast
        ring

theorem ofFloat?_ofRatio_zero (negative : Bool) (d : Nat) :
    ofFloat? (ofRatio negative 0 d) = some ⟨negative, 0, -1074⟩ := by
  have hzero : nearestBits 0 d = 0 := if_pos rfl
  have hdecode := ofFloat?_ofBits negative (m := 0) (by decide)
  rw [if_pos (Nat.zero_div _), Nat.zero_mod] at hdecode
  rw [ofRatio, hzero]
  exact hdecode

/-! ## Quotients -/

theorem isNearest_of_magnitude {x : Float} {y : SignedDyadic} {negative : Bool} {v : ℚ}
    (hy : ofFloat? x = some y) (hnegative : y.negative = negative) (hv : 0 ≤ v)
    (h : ∀ z w, ofFloat? z = some w → |y.magnitude - v| ≤ |w.magnitude - v|) :
    IsNearest x (if negative then -v else v) := by
  have hsign : |y.toRat - (if negative then -v else v)| = |y.magnitude - v| := by
    rw [toRat, hnegative]
    split
    · rw [← neg_add', abs_neg, sub_eq_add_neg]
    · rfl
  have habs : |if negative then -v else v| = v := by
    split
    · rw [abs_neg, abs_of_nonneg hv]
    · exact abs_of_nonneg hv
  refine ⟨y, hy, fun z w hw ↦ ?_⟩
  have hreverse := abs_abs_sub_abs_le w.toRat (if negative then -v else v)
  rw [abs_toRat, habs] at hreverse
  exact hsign.le.trans ((h z w hw).trans hreverse)

theorem isNearest_zero (negative : Bool) (d : Nat) {v : ℚ} (hv : 0 ≤ v)
    (h : 2 * v ≤ 2 ^ (-1074 : Int)) :
    IsNearest (ofRatio negative 0 d) (if negative then -v else v) := by
  refine isNearest_of_magnitude (ofFloat?_ofRatio_zero negative d) rfl hv fun z w hw ↦ ?_
  rw [magnitude, Nat.cast_zero, zero_mul, zero_sub, abs_neg, abs_of_nonneg hv]
  rcases magnitude_cases hw (-1074) with ⟨k, hk⟩ | ⟨-, hq⟩
  · rcases Nat.eq_zero_or_pos k with rfl | hpos
    · rw [hk, Nat.cast_zero, zero_mul, zero_sub, abs_neg]
      exact le_abs_self v
    · have hunit : (2 : ℚ) ^ (-1074 : Int) ≤ w.magnitude := by
        rw [hk]
        exact le_mul_of_one_le_left (zpow_nonneg (by norm_num) _) (by exact_mod_cast hpos)
      exact le_trans (by linarith) (le_abs_self _)
  · omega

/-- **Quotients.** What a quotient below the bound is rounded to is nearest. -/
theorem isNearest_ofRatio (negative : Bool) (hd : 0 < d) (h : n < overflowBound * d) :
    IsNearest (ofRatio negative n d) (if negative then -(n / d : ℚ) else n / d) := by
  have hv : (0 : ℚ) ≤ n / d := div_nonneg (Nat.cast_nonneg _) (Nat.cast_nonneg _)
  rcases Nat.eq_zero_or_pos n with rfl | hn
  · refine isNearest_zero negative d hv ?_
    rw [Nat.cast_zero, zero_div, mul_zero]
    exact zpow_nonneg (by norm_num) _
  · obtain ⟨y, hy, hnegative, hmagnitude⟩ := exists_ofFloat?_ofRatio negative hn hd h
    refine isNearest_of_magnitude hy hnegative hv fun z w hw ↦ ?_
    rw [hmagnitude]
    exact abs_significand_sub_le hn hd hw

/-! ## Decimals -/

theorem decimalRatio_cases {digits : Nat} {exponent : Int}
    (h : (digits : ℚ) * 10 ^ exponent < overflowBound) :
    ((decimalRatio digits exponent).1 / (decimalRatio digits exponent).2 : ℚ)
        = digits * 10 ^ exponent ∨
      ((decimalRatio digits exponent).1 = 0 ∧
        (digits : ℚ) * 10 ^ exponent < 10 ^ (-400 : Int)) := by
  have hten : ∀ {j k : Int}, j ≤ k → (10 : ℚ) ^ j ≤ 10 ^ k := fun h ↦
    zpow_le_zpow_right₀ (by norm_num) h
  simp only [decimalRatio]
  by_cases hzero : digits = 0
  · rw [if_pos hzero, hzero]
    simp
  · rw [if_neg hzero]
    obtain ⟨hle, hlt⟩ := decimal_bounds (Nat.pos_of_ne_zero hzero) exponent
    have hlarge : ¬400 < exponent + digitCount digits := by
      intro hlarge
      have hhuge := (overflowBound_bounds.2.trans (hten (by omega))).trans hle
      exact absurd h (not_lt.mpr hhuge)
    rw [if_neg hlarge]
    by_cases hsmall : exponent + digitCount digits < -400
    · rw [if_pos hsmall]
      exact Or.inr ⟨rfl, hlt.trans_le (hten hsmall.le)⟩
    · rw [if_neg hsmall]
      left
      have hpow := zpow_mul_pow_toNat (Nat.succ_pos 9) exponent
      have hne : (10 : ℚ) ^ (-exponent).toNat ≠ 0 := pow_ne_zero _ (by norm_num)
      rw [Nat.pow_eq, Nat.pow_eq]
      push_cast at hpow ⊢
      rw [div_eq_iff hne, mul_assoc, hpow]

/-- **Decimals.** What a decimal below the bound is rounded to is nearest. -/
theorem isNearest_ofDecimal (negative : Bool) {digits : Nat} {exponent : Int}
    (h : (digits : ℚ) * 10 ^ exponent < overflowBound) :
    IsNearest (ofDecimal negative digits exponent)
      (if negative then -(digits * 10 ^ exponent : ℚ) else digits * 10 ^ exponent) := by
  have hbelow := mt (overflowBound_le_decimalRatio_iff digits exponent).mp (not_le.mpr h)
  rw [ofDecimal]
  rcases decimalRatio_cases h with hexact | ⟨hzero, hsmall⟩
  · rw [← hexact]
    exact isNearest_ofRatio negative (decimalRatio_pos _ _) (Nat.not_le.mp hbelow)
  · have htiny : 2 * (10 : ℚ) ^ (-400 : Int) ≤ 2 ^ (-1074 : Int) := by
      have hpow : 2 * 2 ^ 1074 ≤ 10 ^ 400 := by decide +kernel
      rw [zpow_neg, zpow_neg, zpow_ofNat, zpow_ofNat, ← div_eq_mul_inv, ← one_div,
        div_le_div_iff₀ (by positivity) (by positivity), one_mul]
      exact_mod_cast hpow
    have hv : (0 : ℚ) ≤ digits * 10 ^ exponent :=
      mul_nonneg (Nat.cast_nonneg _) (zpow_nonneg (by norm_num) _)
    rw [hzero]
    exact isNearest_zero negative _ hv (by linarith)

end Binary64

end LineCommands
