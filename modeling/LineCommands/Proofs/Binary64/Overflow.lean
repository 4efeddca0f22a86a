import Mathlib
import LineCommands.Binary64.Rounding

/-!
# Where floating-point numbers end

A quotient is rounded to infinity from `overflowBound`, halfway between the largest finite value and
the next power of two, and to a finite value below it (`isInf_ofRatio`). There is one comparison for
that in the rounding itself. What has to be shown is that the finite case never gets as far as the
bit pattern of infinity: the carry of the rounding can go up to the last exponent and not beyond.

Exponents are whole numbers here and powers of two are rational; the shifts of the rounding move the
factors of a power to the side where its exponent is positive (`mul_pow_le_mul_pow_iff`).
-/

namespace LineCommands.Binary64

variable {n d : Nat}

/-! ## Powers on either side -/

theorem zpow_mul_pow_toNat {base : Nat} (hbase : 0 < base) (k : Int) :
    (base : ℚ) ^ k * (base : ℚ) ^ (-k).toNat = (base : ℚ) ^ k.toNat := by
  have hne : (base : ℚ) ≠ 0 := Nat.cast_ne_zero.mpr hbase.ne'
  rcases le_total 0 k with hk | hk
  · obtain ⟨m, rfl⟩ := Int.eq_ofNat_of_zero_le hk
    simp
  · obtain ⟨m, hm⟩ := Int.eq_ofNat_of_zero_le (Int.neg_nonneg.mpr hk)
    obtain rfl : k = -(m : Int) := by omega
    simp [hne]

/-- A power on one side of a comparison is its positive or its negative part on the one side or the
other. -/
theorem mul_pow_le_mul_pow_iff {base : Nat} (hbase : 0 < base) (k : Int) (a b : Nat) :
    a * base ^ k.toNat ≤ b * base ^ (-k).toNat ↔ (base : ℚ) ^ k * a ≤ b := by
  have hpos : (0 : ℚ) < (base : ℚ) ^ (-k).toNat := pow_pos (Nat.cast_pos.mpr hbase) _
  rw [← Nat.cast_le (α := ℚ), ← mul_le_mul_iff_left₀ hpos (b := (base : ℚ) ^ k * a)]
  push_cast
  rw [← zpow_mul_pow_toNat hbase k]
  ring_nf

/-! ## The leading bit -/

theorem log2_bounds (hn : 0 < n) :
    (2 : ℚ) ^ (n.log2 : Int) ≤ n ∧ (n : ℚ) < (2 : ℚ) ^ ((n.log2 : Int) + 1) := by
  refine ⟨?_, ?_⟩
  · rw [zpow_natCast]
    exact_mod_cast Nat.log2_self_le hn.ne'
  · rw [← Int.natCast_succ, zpow_natCast]
    exact_mod_cast Nat.lt_log2_self

theorem leadingExponent_spec (hn : 0 < n) (hd : 0 < d) :
    (2 : ℚ) ^ leadingExponent n d * d ≤ n ∧ (n : ℚ) < (2 : ℚ) ^ (leadingExponent n d + 1) * d := by
  obtain ⟨hnle, hnlt⟩ := log2_bounds hn
  obtain ⟨hdle, hdlt⟩ := log2_bounds hd
  have hpow : ∀ k : Int, (0 : ℚ) < 2 ^ k := fun k ↦ zpow_pos (by norm_num) k
  have hadd : ∀ j k : Int, (2 : ℚ) ^ (j + k) = 2 ^ j * 2 ^ k := fun j k ↦
    zpow_add₀ (by norm_num) j k
  have hiff := mul_pow_le_mul_pow_iff Nat.two_pos ((n.log2 : Int) - d.log2) d n
  push_cast at hiff
  simp only [leadingExponent, Nat.shiftLeft_eq, hiff]
  by_cases hle : (2 : ℚ) ^ ((n.log2 : Int) - d.log2) * d ≤ n
  · rw [if_pos hle]
    refine ⟨hle, hnlt.trans_le ?_⟩
    calc (2 : ℚ) ^ ((n.log2 : Int) + 1)
        = 2 ^ ((n.log2 : Int) - d.log2 + 1) * 2 ^ (d.log2 : Int) := by
          rw [← hadd]
          congr 1
          ring
      _ ≤ 2 ^ ((n.log2 : Int) - d.log2 + 1) * d := by gcongr
  · rw [if_neg hle, Int.sub_add_cancel]
    refine ⟨le_trans ?_ hnle, not_le.mp hle⟩
    calc (2 : ℚ) ^ ((n.log2 : Int) - d.log2 - 1) * d
        ≤ 2 ^ ((n.log2 : Int) - d.log2 - 1) * 2 ^ ((d.log2 : Int) + 1) := by gcongr
      _ = 2 ^ (n.log2 : Int) := by
          rw [← hadd]
          congr 1
          ring

/-! ## Rounding to a whole number -/

theorem two_mul_divToEven_le (n d : Nat) : 2 * (divToEven n d * d) ≤ 2 * n + d := by
  have hdiv : n / d * d + n % d = n := Nat.div_add_mod' n d
  simp only [divToEven]
  split
  · rw [Nat.add_mul (n / d) 1 d]
    omega
  · omega

theorem divToEven_le {k : Nat} (h : 2 * n < (2 * k + 1) * d) : divToEven n d ≤ k := by
  have hround := two_mul_divToEven_le n d
  by_contra hlt
  have hnext : (k + 1) * d ≤ divToEven n d * d := Nat.mul_le_mul_right d (Nat.not_le.mp hlt)
  rw [Nat.add_mul k 1 d] at hnext
  rw [Nat.add_mul (2 * k) 1 d, Nat.mul_assoc] at h
  omega

theorem divToEven_shift_le {k : Nat} {q : Int}
    (h : (2 * n : ℚ) < (2 : ℚ) ^ q * ((2 * k + 1) * d)) :
    divToEven (n <<< (-q).toNat) (d <<< q.toNat) ≤ k := by
  refine divToEven_le ?_
  have hiff := mul_pow_le_mul_pow_iff Nat.two_pos q ((2 * k + 1) * d) (2 * n)
  rw [← not_le, Nat.shiftLeft_eq, Nat.shiftLeft_eq, ← Nat.mul_assoc, ← Nat.mul_assoc, hiff, not_le]
  push_cast
  exact h

/-! ## Bit patterns -/

theorem overflowBound_eq {R : Type} [Ring R] : (overflowBound : R) = 2 ^ 1024 - 2 ^ 970 := by
  have h : overflowBound + 2 ^ 970 = 2 ^ 1024 := by decide +kernel
  rw [eq_sub_iff_add_eq, ← Nat.cast_ofNat, ← Nat.cast_pow, ← Nat.cast_pow, ← Nat.cast_add, h]

theorem leadingExponent_lt (hn : 0 < n) (hd : 0 < d) (h : n < overflowBound * d) :
    leadingExponent n d < 1024 := by
  obtain ⟨hle, -⟩ := leadingExponent_spec hn hd
  have hn' : (n : ℚ) < overflowBound * d := by exact_mod_cast h
  by_contra hlarge
  have hpow : (2 : ℚ) ^ (1024 : Int) ≤ 2 ^ leadingExponent n d :=
    zpow_le_zpow_right₀ (by norm_num) (Int.not_lt.mp hlarge)
  have hbound : (overflowBound : ℚ) ≤ 2 ^ (1024 : Int) := by
    rw [overflowBound_eq]
    norm_num
  have hd' : (0 : ℚ) ≤ d := Nat.cast_nonneg d
  have := mul_le_mul_of_nonneg_right (hbound.trans hpow) hd'
  linarith

theorem divToEven_le_of_leadingExponent {q : Int} (hn : 0 < n) (hd : 0 < d)
    (hq : leadingExponent n d - 52 ≤ q) :
    divToEven (n <<< (-q).toNat) (d <<< q.toNat) ≤ 2 ^ 53 := by
  obtain ⟨-, hlt⟩ := leadingExponent_spec hn hd
  have hpow : (2 : ℚ) ^ (leadingExponent n d + 1) ≤ 2 ^ q * 2 ^ (53 : Int) := by
    rw [← zpow_add₀ (by norm_num)]
    exact zpow_le_zpow_right₀ (by norm_num) (by omega)
  have hqd : (0 : ℚ) < 2 ^ q * d := mul_pos (zpow_pos (by norm_num) q) (by exact_mod_cast hd)
  refine divToEven_shift_le ?_
  calc (2 * n : ℚ) < 2 * (2 ^ (leadingExponent n d + 1) * d) := by linarith
    _ ≤ 2 * (2 ^ q * 2 ^ (53 : Int) * d) := by gcongr
    _ ≤ 2 ^ q * ((2 * ((2 ^ 53 : Nat) : ℚ) + 1) * d) := by
      push_cast
      linarith

/-- At the last exponent the bound keeps the carry away. -/
theorem divToEven_le_of_lt_overflowBound {q : Int} (hq : q = 971) (h : n < overflowBound * d) :
    divToEven (n <<< (-q).toNat) (d <<< q.toNat) ≤ 2 ^ 53 - 1 := by
  have hlt : (n : ℚ) < overflowBound * d := by exact_mod_cast h
  have h971 : (2 : ℚ) ^ (971 : Int) = 2 ^ 970 * 2 := by
    rw [← pow_succ, ← zpow_natCast]
    rfl
  have h1024 : (2 : ℚ) ^ 1024 = 2 ^ 970 * 2 ^ 54 := by rw [← pow_add]
  have hbound : (2 : ℚ) ^ q * (2 * ((2 ^ 53 - 1 : Nat) : ℚ) + 1) = 2 * overflowBound := by
    rw [hq, h971, overflowBound_eq, h1024]
    generalize (2 : ℚ) ^ 970 = p
    push_cast
    ring
  refine divToEven_shift_le ?_
  rw [← mul_assoc, hbound, mul_assoc]
  linarith

theorem nearestBits_lt (hd : 0 < d) (h : n < overflowBound * d) :
    nearestBits n d < infinityBits := by
  have hinf : infinityBits = 2047 * 2 ^ 52 := by decide
  rw [nearestBits, hinf]
  by_cases hn : n = 0
  · rw [if_pos hn]
    decide
  · rw [if_neg hn, if_neg (Nat.not_le.mpr h)]
    have hpos : 0 < n := Nat.pos_of_ne_zero hn
    have hlead := leadingExponent_lt hpos hd h
    generalize hq : max (leadingExponent n d - 52) (-1074) = q
    change (q + 1074).toNat <<< 52 + divToEven (n <<< (-q).toNat) (d <<< q.toNat) < 2047 * 2 ^ 52
    rw [Nat.shiftLeft_eq (q + 1074).toNat]
    by_cases htop : q = 971
    · have hround := divToEven_le_of_lt_overflowBound htop h
      omega
    · have hround := divToEven_le_of_leadingExponent (q := q) hpos hd (by omega)
      omega

theorem nearestBits_of_overflowBound_le (hd : 0 < d) (h : overflowBound * d ≤ n) :
    nearestBits n d = infinityBits := by
  have hpos : 0 < n := (Nat.mul_pos (by decide +kernel) hd).trans_le h
  rw [nearestBits, if_neg hpos.ne', if_pos h]

/-! ## Infinity -/

theorem toNat_ofNat_add_sign (negative : Bool) {m : Nat} (h : m ≤ infinityBits) :
    (UInt64.ofNat (m + if negative then 1 <<< 63 else 0)).toNat = m + 2 ^ 63 * negative.toNat := by
  have hinf : infinityBits = 2047 * 2 ^ 52 := by decide
  have hsign : (if negative then 1 <<< 63 else 0) = 2 ^ 63 * negative.toNat := by
    cases negative with
    | false => rfl
    | true => rfl
  have hbit := negative.toNat_lt
  rw [UInt64.toNat_ofNat', hsign]
  omega

section

open Float.Model UnpackedFloat

variable {b : UInt64}

theorem unpackExponent_eq_iff :
    @unpackExponent Format.binary64 b.toBitVec = -1#11 ↔ b.toNat / 2 ^ 52 % 2 ^ 11 = 2047 := by
  rw [unpackExponent_def, ← BitVec.toNat_inj, BitVec.extractLsb'_toNat, Nat.shiftRight_eq_div_pow]
  rfl

theorem unpackMantissa_eq_iff :
    @unpackMantissa Format.binary64 b.toBitVec = 0#52 ↔ b.toNat % 2 ^ 52 = 0 := by
  rw [unpackMantissa_def, ← BitVec.toNat_inj, BitVec.extractLsb'_toNat, Nat.shiftRight_zero]
  rfl

/-- The patterns up to that of infinity are kept. Only those of NaN are not, which are behind. -/
theorem toBits_ofBits (h : b.toNat % 2 ^ 63 ≤ infinityBits) : (Float.ofBits b).toBits = b := by
  have hinf : infinityBits = 2047 * 2 ^ 52 := by decide
  have hnumber : @isNaNBits Format.binary64 b.toBitVec = false := by
    rw [isNaNBits, decide_eq_false_iff_not, unpackExponent_eq_iff, ne_eq, unpackMantissa_eq_iff]
    omega
  have hpack : pack Format.binary64 (unpack Format.binary64 b.toBitVec) = b.toBitVec := by
    rw [pack_unpack, if_neg (by rw [hnumber]; exact Bool.false_ne_true)]
  exact congrArg UInt64.ofBitVec hpack

theorem isInf_ofBits (h : b.toNat % 2 ^ 63 ≤ infinityBits) :
    (Float.ofBits b).isInf = true ↔ b.toNat % 2 ^ 63 = infinityBits := by
  have hinf : infinityBits = 2047 * 2 ^ 52 := by decide
  have hunpack : (Float.ofBits b).isInf
      = (UnpackedFloat.unpack Format.binary64 b.toBitVec).isInf :=
    congrArg (fun v : UInt64 ↦ (UnpackedFloat.unpack Format.binary64 v.toBitVec).isInf)
      (toBits_ofBits h)
  rw [hunpack, UnpackedFloat.unpack]
  by_cases htop : b.toNat / 2 ^ 52 % 2 ^ 11 = 2047
  · have hzero : b.toNat % 2 ^ 52 = 0 := by omega
    simp only [if_pos (unpackExponent_eq_iff.mpr htop), if_pos (unpackMantissa_eq_iff.mpr hzero)]
    exact iff_of_true rfl (by omega)
  · simp only [if_neg (mt unpackExponent_eq_iff.mp htop)]
    refine iff_of_false ?_ (by omega)
    split
    · split
      · exact Bool.false_ne_true
      · exact Bool.false_ne_true
    · exact Bool.false_ne_true

end

/-- **Overflow.** A quotient is rounded to infinity from the bound on, and only then. -/
theorem isInf_ofRatio (negative : Bool) (hd : 0 < d) :
    (ofRatio negative n d).isInf = true ↔ overflowBound * d ≤ n := by
  have hinf : infinityBits = 2047 * 2 ^ 52 := by decide
  have hle : nearestBits n d ≤ infinityBits := by
    rcases Nat.lt_or_ge n (overflowBound * d) with hlt | hge
    · exact (nearestBits_lt hd hlt).le
    · exact (nearestBits_of_overflowBound_le hd hge).le
  have hbits := toNat_ofNat_add_sign negative hle
  rw [ofRatio, isInf_ofBits (by omega)]
  constructor
  · intro heq
    by_contra hlt
    have := nearestBits_lt hd (Nat.not_le.mp hlt)
    omega
  · intro hge
    rw [nearestBits_of_overflowBound_le hd hge] at hbits ⊢
    omega

/-! ## Decimals -/

theorem digitCount_bounds (hn : 0 < n) :
    (10 : ℚ) ^ ((digitCount n : Int) - 1) ≤ n ∧ (n : ℚ) < 10 ^ (digitCount n : Int) := by
  have hcount : digitCount n = (Nat.toDigits 10 n).length := by rw [digitCount, if_neg hn.ne']
  have hpos : 0 < (Nat.toDigits 10 n).length := List.length_pos_iff.mpr Nat.toDigits_ne_nil
  have hlt : n < 10 ^ (Nat.toDigits 10 n).length :=
    (Nat.length_toDigits_le_iff (by decide) hpos).mp le_rfl
  have hle : 10 ^ ((Nat.toDigits 10 n).length - 1) ≤ n := by
    by_contra hsmall
    rcases Nat.eq_zero_or_pos ((Nat.toDigits 10 n).length - 1) with hone | hmany
    · rw [hone] at hsmall
      omega
    · have := (Nat.length_toDigits_le_iff (by decide) hmany).mpr (Nat.not_le.mp hsmall)
      omega
  rw [hcount, ← Int.natCast_pred_of_pos hpos, zpow_natCast, zpow_natCast]
  exact ⟨by exact_mod_cast hle, by exact_mod_cast hlt⟩

theorem decimal_bounds (hn : 0 < n) (exponent : Int) :
    (10 : ℚ) ^ (exponent + digitCount n - 1) ≤ n * 10 ^ exponent ∧
      (n : ℚ) * 10 ^ exponent < 10 ^ (exponent + digitCount n) := by
  obtain ⟨hle, hlt⟩ := digitCount_bounds hn
  have hpow : (0 : ℚ) < 10 ^ exponent := zpow_pos (by norm_num) _
  have hne : (10 : ℚ) ≠ 0 := by norm_num
  rw [Int.add_sub_assoc, zpow_add₀ hne, zpow_add₀ hne, mul_comm (n : ℚ)]
  exact ⟨mul_le_mul_of_nonneg_left hle hpow.le, mul_lt_mul_of_pos_left hlt hpow⟩

theorem decimalRatio_pos (digits : Nat) (exponent : Int) :
    0 < (decimalRatio digits exponent).2 := by
  simp only [decimalRatio]
  split
  · exact Nat.one_pos
  · split
    · exact Nat.one_pos
    · split
      · exact Nat.one_pos
      · exact Nat.pow_pos (by decide)

theorem overflowBound_bounds :
    (10 : ℚ) ^ (0 : Int) ≤ overflowBound ∧ (overflowBound : ℚ) ≤ 10 ^ (400 : Int) := by
  have hbounds : 1 ≤ overflowBound ∧ overflowBound ≤ 10 ^ 400 := by decide +kernel
  rw [zpow_zero, zpow_ofNat]
  exact ⟨by exact_mod_cast hbounds.1, by exact_mod_cast hbounds.2⟩

/-- Cutting exponents down does not move a decimal over the bound. -/
theorem overflowBound_le_decimalRatio_iff (digits : Nat) (exponent : Int) :
    overflowBound * (decimalRatio digits exponent).2 ≤ (decimalRatio digits exponent).1 ↔
      (overflowBound : ℚ) ≤ digits * 10 ^ exponent := by
  obtain ⟨hone, hhuge⟩ := overflowBound_bounds
  have hpos : 0 < overflowBound := by decide +kernel
  have hten : ∀ {j k : Int}, j ≤ k → (10 : ℚ) ^ j ≤ 10 ^ k := fun h ↦
    zpow_le_zpow_right₀ (by norm_num) h
  simp only [decimalRatio]
  by_cases hzero : digits = 0
  · rw [if_pos hzero, hzero, Nat.cast_zero, zero_mul]
    exact iff_of_false (by omega) (not_le.mpr (by exact_mod_cast hpos))
  · rw [if_neg hzero]
    obtain ⟨hle, hlt⟩ := decimal_bounds (Nat.pos_of_ne_zero hzero) exponent
    by_cases hlarge : 400 < exponent + digitCount digits
    · rw [if_pos hlarge]
      exact iff_of_true (Nat.mul_one _).le ((hhuge.trans (hten (by omega))).trans hle)
    · rw [if_neg hlarge]
      by_cases hsmall : exponent + digitCount digits < -400
      · rw [if_pos hsmall]
        refine iff_of_false (by omega) (not_le.mpr (hlt.trans_le ?_))
        exact (hten (by omega)).trans hone
      · -- What is left is not cut down.
        rw [if_neg hsmall]
        have hiff := mul_pow_le_mul_pow_iff (Nat.succ_pos 9) (-exponent) overflowBound digits
        rw [Int.neg_neg] at hiff
        refine hiff.trans ?_
        have hpow : (0 : ℚ) < 10 ^ exponent := zpow_pos (by norm_num) _
        rw [zpow_neg, inv_mul_le_iff₀ (by exact_mod_cast hpow), mul_comm (digits : ℚ)]
        push_cast
        rfl

end LineCommands.Binary64
