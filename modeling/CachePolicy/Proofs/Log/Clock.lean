import CachePolicy.Calendar.Moment

/-!
# Moments that a clock shows

A whole number of seconds below `2 ^ 53` is kept by a binary number, so its moment has a
date, and the date can be written in every format without a null character.
-/

namespace CachePolicy

/-! ## Whole numbers in binary -/

theorem floorLog2_one {n : Nat} (positive : n ≠ 0) : floorLog2 n 1 = n.log2 := by
  have estimate : (n.log2 : Int) - (Nat.log2 1 : Nat) = n.log2 := by
    rw [show Nat.log2 1 = 0 from rfl]
    omega
  have reached : scaledLe 2 1 (n.log2 : Int) n = true := by
    simpa [scaledLe] using Nat.log2_self_le positive
  simp only [floorLog2, estimate, reached, if_true]

theorem roundHalfEven_one (n : Nat) : roundHalfEven n 1 = n := by
  simp [roundHalfEven, Nat.mod_one]

namespace Binary64

theorem scaled_lt {n shift : Nat} (places : n.log2 + shift = 52) :
    n * Nat.pow 2 shift < Nat.pow 2 53 := by
  have below : n < Nat.pow 2 (n.log2 + 1) := Nat.lt_log2_self
  calc n * Nat.pow 2 shift < Nat.pow 2 (n.log2 + 1) * Nat.pow 2 shift :=
        Nat.mul_lt_mul_of_pos_right below (Nat.two_pow_pos shift)
    _ = Nat.pow 2 (n.log2 + 1 + shift) := (Nat.pow_add 2 (n.log2 + 1) shift).symm
    _ = Nat.pow 2 53 := by rw [show n.log2 + 1 + shift = 53 by omega]

theorem ofRatio_one {n shift : Nat} (positive : n ≠ 0) (places : n.log2 + shift = 52) :
    ofRatio false n 1 = .finite false (n * Nat.pow 2 shift) (-(shift : Int)) := by
  have unrounded : n * Nat.pow 2 shift ≠ Nat.pow 2 53 := Nat.ne_of_lt (scaled_lt places)
  have something : n * Nat.pow 2 shift ≠ 0 :=
    Nat.mul_ne_zero positive (Nat.ne_of_gt (Nat.two_pow_pos shift))
  -- The number is brought to 53 places, unless it has them already.
  cases shift with
  | zero =>
      have exponent : max (floorLog2 n 1 - 52) (-1074) = .ofNat 0 := by
        rw [floorLog2_one positive, show Int.ofNat 0 = 0 from rfl]
        omega
      have kept : roundHalfEven n (1 * Nat.pow 2 0) = n * Nat.pow 2 0 := by
        rw [show 1 * Nat.pow 2 0 = 1 from rfl, roundHalfEven_one, show Nat.pow 2 0 = 1 from rfl,
          Nat.mul_one]
      simp only [ofRatio, if_neg positive, exponent, kept, if_neg something, if_neg unrounded]
      rfl
  | succ k =>
      have exponent : max (floorLog2 n 1 - 52) (-1074) = .negSucc k := by
        rw [floorLog2_one positive, Int.negSucc_eq]
        omega
      have kept : roundHalfEven (n * Nat.pow 2 (k + 1)) 1 = n * Nat.pow 2 (k + 1) :=
        roundHalfEven_one _
      have inside : ¬ 971 < Int.negSucc k := by omega
      simp only [ofRatio, if_neg positive, exponent, kept, if_neg something, if_neg unrounded,
        if_neg inside]
      rfl

theorem floor?_ofInt {n : Nat} (small : n < Nat.pow 2 53) : (ofInt n).floor? = some (n : Int) := by
  have plain : ofInt (n : Int) = ofRatio false n 1 := by
    simp [ofInt, show ¬ (n : Int) < 0 by omega]
  rw [plain]
  by_cases zero : n = 0
  · subst zero
    rfl
  · have few : n.log2 < 53 := (Nat.log2_lt zero).mpr small
    obtain ⟨shift, places⟩ : ∃ shift, n.log2 + shift = 52 := ⟨52 - n.log2, by omega⟩
    rw [ofRatio_one zero places]
    cases shift with
    | zero => simp [floor?, quotient, signed]
    | succ k =>
        have power : (Nat.pow 2 (k + 1) : Int) ≠ 0 := by
          have : 0 < Nat.pow 2 (k + 1) := Nat.two_pow_pos (k + 1)
          omega
        show some (((n * Nat.pow 2 (k + 1) : Nat) : Int) / (Nat.pow 2 (k + 1) : Int)) =
          some (n : Int)
        rw [Int.natCast_mul, Int.mul_ediv_cancel _ power]

end Binary64

namespace Date

theorem ofOrdinal_year (n : Int) : ∃ k : Nat, k ≤ 400 ∧
    (ofOrdinal n).year = 400 * ((n - 1) / 146097) + k := by
  refine ⟨_, ?_, rfl⟩
  omega

end Date

namespace DateTime

theorem year_bounds {n : Nat} (small : n < Nat.pow 2 53) :
    0 ≤ (ofUnixSeconds n).date.year ∧ (ofUnixSeconds n).date.year < Nat.pow 2 31 := by
  have below : n < 9007199254740992 := small
  show _ ∧ _ < 2147483648
  obtain ⟨k, least, year⟩ := Date.ofOrdinal_year ((n : Int) / 86400 + 719163)
  have sameYear : (ofUnixSeconds n).date.year =
      400 * (((n : Int) / 86400 + 719163 - 1) / 146097) + k := year
  omega

theorem ofSeconds_eq {n : Nat} (small : n < Nat.pow 2 53) :
    ofSeconds n = .ok (ofUnixSeconds n) := by
  have below : n < 9007199254740992 := small
  obtain ⟨least, greatest⟩ : 0 ≤ (ofUnixSeconds n).date.year ∧
      (ofUnixSeconds n).date.year < 2147483648 := year_bounds small
  have seconds : ¬ 9223372036854775808 ≤ (n : Int) := by omega
  have years : ¬ ((ofUnixSeconds n).date.year - 1900 < -2147483648 ∨
      2147483648 ≤ (ofUnixSeconds n).date.year - 1900) := by omega
  have positive : ¬ (n : Int) < -9223372036854775808 := by omega
  simp [ofSeconds, seconds, positive, years]

theorem ofReal_ofInt {n : Nat} (small : n < Nat.pow 2 53) :
    ofReal (.ofInt n) = .ok (ofUnixSeconds n) := by
  have floor := Binary64.floor?_ofInt small
  cases x : Binary64.ofInt n with
  | nan => simp [x, Binary64.floor?] at floor
  | infinite negative => simp [x, Binary64.floor?] at floor
  | finite negative significand exponent =>
      rw [x] at floor
      simp only [ofReal, floor]
      exact ofSeconds_eq small

theorem formatted_ofUnixSeconds {n : Nat} (small : n < Nat.pow 2 53) {form : String}
    (clean : '\x00' ∉ form.toList) :
    (ofUnixSeconds n).formatted form = .ok ((ofUnixSeconds n).format form) := by
  have early : (ofUnixSeconds n).date.year < 2147483648 := (year_bounds small).2
  simp [formatted, clean, early]

end DateTime

end CachePolicy
