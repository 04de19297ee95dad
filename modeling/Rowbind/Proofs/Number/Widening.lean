import Mathlib.Data.Nat.Bits
import Mathlib.Tactic.Ring
import Rowbind.Number.Binary

/-!
# Widening and narrowing

A 32-bit number keeps everything when it is widened, so narrowing it again and widening it once more
gives the same 64 bits (`Binary32.widen_narrow_widen`).

Three facts carry this, for every format. The magnitude that bits are read as is one the format
**holds**, and what it holds is read back from the bits that it is packed into (`held_read`,
`read_pack`). Rounding depends on the number, not on how it is split into significand and exponent
(`round_shiftLeft`). And a magnitude that the 32-bit format holds is, split in another way, one that
the 64-bit format holds (`exists_held_binary64`).
-/

namespace Rowbind

/-! ## Rounding -/

/-- A quotient to the nearest is the same for numerator and denominator multiplied alike. -/
theorem Format.shiftToNearest_shiftLeft (n shift k : Nat) :
    shiftToNearest (n <<< k) (shift + k) = shiftToNearest n shift := by
  have hk : 0 < 2 ^ k := Nat.two_pow_pos k
  have hquotient : n * 2 ^ k / (2 ^ shift * 2 ^ k) = n / 2 ^ shift :=
    Nat.mul_div_mul_right n _ hk
  have hremainder : n * 2 ^ k % (2 ^ shift * 2 ^ k) = n % 2 ^ shift * 2 ^ k :=
    Nat.mul_mod_mul_right (2 ^ k) n (2 ^ shift)
  have hmore : 2 ^ shift * 2 ^ k < 2 * (n % 2 ^ shift * 2 ^ k) ↔
      2 ^ shift < 2 * (n % 2 ^ shift) := by
    rw [← Nat.mul_assoc]
    exact Nat.mul_lt_mul_right hk
  have htie : 2 ^ shift * 2 ^ k = 2 * (n % 2 ^ shift * 2 ^ k) ↔
      2 ^ shift = 2 * (n % 2 ^ shift) := by
    rw [← Nat.mul_assoc]
    exact Nat.mul_left_inj hk.ne'
  simp only [shiftToNearest, Nat.shiftLeft_eq, Nat.shiftRight_eq_div_pow, Nat.one_mul, Nat.pow_add,
    hquotient, hremainder, hmore, htie]

theorem Format.shiftToNearest_zero (n : Nat) : shiftToNearest n 0 = n := by
  simp [shiftToNearest, Nat.mod_one]

theorem log2_shiftLeft {n : Nat} (hn : n ≠ 0) (k : Nat) : (n <<< k).log2 = n.log2 + k := by
  have hshift : n <<< k ≠ 0 := by
    rw [Nat.shiftLeft_eq]
    exact Nat.mul_ne_zero hn (Nat.two_pow_pos k).ne'
  rw [Nat.log2_eq_iff hshift, Nat.shiftLeft_eq]
  constructor
  · rw [Nat.pow_add]
    exact Nat.mul_le_mul_right _ (Nat.log2_self_le hn)
  · rw [Nat.add_right_comm, Nat.pow_add]
    exact Nat.mul_lt_mul_of_pos_right Nat.lt_log2_self (Nat.two_pow_pos k)

/-- **Rounding depends on the number alone**, however it is split. -/
theorem Format.round_shiftLeft (f : Format) (m k : Nat) (e : Int) :
    f.round (m <<< k) (e - k) = f.round m e := by
  by_cases hm : m = 0
  · rw [hm, Nat.zero_shiftLeft, round, round, if_pos rfl, if_pos rfl]
  have hshift : m <<< k ≠ 0 := by
    rw [Nat.shiftLeft_eq]
    exact Nat.mul_ne_zero hm (Nat.two_pow_pos k).ne'
  have hstep : e - k + (m <<< k).log2 + 1 - f.precision = e + m.log2 + 1 - f.precision := by
    rw [log2_shiftLeft hm]
    omega
  simp only [round, if_neg hm, if_neg hshift, hstep]
  generalize max (e + m.log2 + 1 - f.precision) f.lowest = step
  congr 2
  by_cases hexact : step ≤ e - k
  · have hle : step ≤ e := by omega
    have hsplit : (e - step).toNat = k + (e - k - step).toNat := by omega
    rw [if_pos hexact, if_pos hle, hsplit, Nat.shiftLeft_add]
  · rw [if_neg hexact]
    by_cases hle : step ≤ e
    · -- what is shifted out had been shifted in
      have hsplit : k = (e - step).toNat + (step - (e - k)).toNat := by omega
      have hback := shiftToNearest_shiftLeft (m <<< (e - step).toNat) 0 (step - (e - k)).toNat
      rw [← Nat.shiftLeft_add, ← hsplit, Nat.zero_add, shiftToNearest_zero] at hback
      rw [if_pos hle, hback]
    · have hsplit : (step - (e - k)).toNat = (step - e).toNat + k := by omega
      rw [if_neg hle, hsplit, shiftToNearest_shiftLeft]

/-! ## What a format holds -/

/-- **Whether a format has a significand and more than one exponent.** -/
structure Format.Proper (f : Format) : Prop where
  precision : 1 < f.precision
  exponent : 1 < f.exponentBits

/-- **Whether a magnitude is split as a format splits it**: its step is one of the format's, and its
significand is of full length, but for the smallest step. -/
def Magnitude.Held (f : Format) : Magnitude → Prop
  | .finite m e => f.lowest ≤ e ∧ e + 1 < f.lowest + f.specialField ∧ m < 2 ^ f.precision ∧
      (e = f.lowest ∨ 2 ^ f.fractionBits ≤ m)
  | _ => True

namespace Format

variable {f : Format}

/-- The bits of a sign, an exponent field and a fraction. -/
def word (f : Format) (negative : Bool) (field fraction : Nat) : Nat :=
  (if negative then f.signBit else 0) + (field * 2 ^ f.fractionBits + fraction)

theorem Proper.precision_eq (hf : f.Proper) : f.precision = f.fractionBits + 1 := by
  have := hf.precision
  rw [fractionBits]
  omega

theorem Proper.pow_precision (hf : f.Proper) : 2 ^ f.precision = 2 ^ f.fractionBits * 2 := by
  rw [hf.precision_eq, Nat.pow_succ]

/-- The highest bit of a fraction. -/
theorem Proper.quietBit_lt (hf : f.Proper) : 2 ^ (f.fractionBits - 1) < 2 ^ f.fractionBits := by
  have := hf.precision
  have := hf.precision_eq
  exact Nat.pow_lt_pow_right (by decide) (by omega)

theorem specialField_eq (f : Format) : f.specialField = 2 ^ f.exponentBits - 1 := by
  rw [specialField, Nat.one_shiftLeft]

theorem Proper.two_lt_specialField (hf : f.Proper) : 2 < f.specialField := by
  have hpow : 2 ^ 2 ≤ 2 ^ f.exponentBits := Nat.pow_le_pow_right (by decide) hf.exponent
  rw [specialField_eq]
  omega

theorem signBit_eq (f : Format) : f.signBit = 2 ^ f.exponentBits * 2 ^ f.fractionBits := by
  rw [signBit, Nat.one_shiftLeft, Nat.add_comm, Nat.pow_add]

theorem infinity_eq (f : Format) : f.infinity = f.specialField * 2 ^ f.fractionBits := by
  rw [infinity, Nat.shiftLeft_eq]

/-- A field and a fraction lie below the sign. -/
theorem word_lt_signBit {field fraction : Nat} (hfield : field ≤ f.specialField)
    (hfraction : fraction < 2 ^ f.fractionBits) :
    field * 2 ^ f.fractionBits + fraction < f.signBit := by
  have hspecial : f.specialField + 1 = 2 ^ f.exponentBits := by
    have := Nat.two_pow_pos f.exponentBits
    rw [specialField_eq]
    omega
  calc field * 2 ^ f.fractionBits + fraction
      < field * 2 ^ f.fractionBits + 2 ^ f.fractionBits := Nat.add_lt_add_left hfraction _
    _ = (field + 1) * 2 ^ f.fractionBits := (Nat.succ_mul field _).symm
    _ ≤ (f.specialField + 1) * 2 ^ f.fractionBits :=
        Nat.mul_le_mul_right _ (Nat.succ_le_succ hfield)
    _ = f.signBit := by rw [hspecial, signBit_eq]

/-- **Bits are read part by part.** -/
theorem read_word (negative : Bool) {field fraction : Nat} (hfield : field ≤ f.specialField)
    (hfraction : fraction < 2 ^ f.fractionBits) :
    f.read (f.word negative field fraction) = (negative,
      if field = f.specialField then (if fraction = 0 then .infinite else .notANumber)
      else if field = 0 then .finite fraction f.lowest
      else .finite (fraction + 1 <<< f.fractionBits) (f.lowest + field - 1)) := by
  have hbelow := word_lt_signBit hfield hfraction
  have hsign : decide (f.signBit ≤ f.word negative field fraction) = negative := by
    cases negative with
    | false => simpa [word] using hbelow
    | true => simp [word]
  have hlt : field < 2 ^ f.exponentBits := by
    have := Nat.two_pow_pos f.exponentBits
    rw [specialField_eq] at hfield
    omega
  obtain ⟨above, hword⟩ : ∃ above, f.word negative field fraction =
      fraction + (field + 2 ^ f.exponentBits * above) * 2 ^ f.fractionBits := by
    refine ⟨if negative then 1 else 0, ?_⟩
    rw [word, signBit_eq]
    cases negative <;> simp only [if_true, if_false, Bool.false_eq_true] <;> ring
  have hlow : f.word negative field fraction % 2 ^ f.fractionBits = fraction := by
    rw [hword, Nat.add_mul_mod_self_right, Nat.mod_eq_of_lt hfraction]
  have hhigh : f.word negative field fraction / 2 ^ f.fractionBits % 2 ^ f.exponentBits =
      field := by
    rw [hword, Nat.add_mul_div_right _ _ (Nat.two_pow_pos _), Nat.div_eq_of_lt hfraction,
      Nat.zero_add, Nat.add_mul_mod_self_left, Nat.mod_eq_of_lt hlt]
  simp only [read, hsign, Nat.one_shiftLeft, Nat.shiftRight_eq_div_pow, hlow, hhigh]

/-- **The magnitude that bits are read as is one that the format holds.** -/
theorem held_read (hf : f.Proper) (bits : Nat) : (f.read bits).2.Held f := by
  have hspecial := hf.two_lt_specialField
  have hfraction : bits % 1 <<< f.fractionBits < 2 ^ f.fractionBits := by
    rw [Nat.one_shiftLeft]
    exact Nat.mod_lt _ (Nat.two_pow_pos _)
  have hfield : (bits >>> f.fractionBits) % 1 <<< f.exponentBits < 2 ^ f.exponentBits := by
    rw [Nat.one_shiftLeft]
    exact Nat.mod_lt _ (Nat.two_pow_pos _)
  simp only [read]
  generalize bits % 1 <<< f.fractionBits = fraction at *
  generalize (bits >>> f.fractionBits) % 1 <<< f.exponentBits = field at *
  split_ifs with hlast hzero hfirst
  · trivial
  · trivial
  · refine ⟨Int.le_refl _, by omega, ?_, .inl rfl⟩
    rw [hf.pow_precision]
    omega
  · rw [specialField_eq] at hlast
    rw [Magnitude.Held, hf.pow_precision, Nat.one_shiftLeft, specialField_eq]
    refine ⟨by omega, by omega, by omega, .inr (Nat.le_add_left _ _)⟩

/-- **A held magnitude is rounded to its own bits.** -/
theorem round_of_held (hf : f.Proper) {m : Nat} {e : Int} (h : (Magnitude.finite m e).Held f) :
    f.round m e = (e - f.lowest).toNat * 2 ^ f.fractionBits + m := by
  obtain ⟨hlow, hhigh, hshort, hlong⟩ := h
  by_cases hm : m = 0
  · have hzero : e = f.lowest := by
      have := Nat.two_pow_pos f.fractionBits
      omega
    rw [round, if_pos hm, hzero, hm, Int.sub_self, Int.toNat_zero, Nat.zero_mul]
  have hprecision := hf.precision_eq
  have hstep : max (e + m.log2 + 1 - f.precision) f.lowest = e := by
    have hle : m.log2 < f.precision := (Nat.log2_lt hm).mpr hshort
    rcases hlong with rfl | hlong
    · exact Int.max_eq_right (by omega)
    · have hge : f.fractionBits ≤ m.log2 := (Nat.le_log2 hm).mpr hlong
      rw [Int.max_eq_left (by omega)]
      omega
  have hbelow : (e - f.lowest).toNat * 2 ^ f.fractionBits + m ≤ f.infinity := by
    rw [hf.pow_precision] at hshort
    calc (e - f.lowest).toNat * 2 ^ f.fractionBits + m
        ≤ (e - f.lowest).toNat * 2 ^ f.fractionBits + 2 ^ f.fractionBits * 2 :=
          Nat.add_le_add_left hshort.le _
      _ = ((e - f.lowest).toNat + 2) * 2 ^ f.fractionBits := by ring
      _ ≤ f.specialField * 2 ^ f.fractionBits := Nat.mul_le_mul_right _ (by omega)
      _ = f.infinity := (infinity_eq f).symm
  simp only [round, if_neg hm, hstep, le_refl, if_true, Int.sub_self, Int.toNat_zero,
    Nat.shiftLeft_eq, Nat.pow_zero, Nat.mul_one]
  exact Nat.min_eq_left hbelow

/-- **What a format holds is read back from its bits.** -/
theorem read_pack (hf : f.Proper) (negative : Bool) {magnitude : Magnitude}
    (h : magnitude.Held f) : f.read (f.pack (negative, magnitude)) = (negative, magnitude) := by
  have hspecial := hf.two_lt_specialField
  have hfraction := Nat.two_pow_pos f.fractionBits
  cases magnitude with
  | infinite =>
    have hword : f.pack (negative, .infinite) = f.word negative f.specialField 0 := by
      rw [pack, word, infinity_eq, Nat.add_zero]
    rw [hword, read_word negative (Nat.le_refl _) hfraction, if_pos rfl, if_pos rfl]
  | notANumber =>
    have hword : f.pack (negative, .notANumber) =
        f.word negative f.specialField (2 ^ (f.fractionBits - 1)) := by
      rw [pack, word, quietNaN, infinity_eq, Nat.one_shiftLeft]
    rw [hword, read_word negative (Nat.le_refl _) hf.quietBit_lt, if_pos rfl,
      if_neg (Nat.two_pow_pos _).ne']
  | finite m e =>
    have hround := round_of_held hf h
    obtain ⟨hlow, hhigh, hshort, hlong⟩ := h
    rw [hf.pow_precision] at hshort
    have hpack : f.pack (negative, .finite m e) =
        (if negative then f.signBit else 0) +
          ((e - f.lowest).toNat * 2 ^ f.fractionBits + m) := by rw [pack, hround]
    by_cases hfull : 2 ^ f.fractionBits ≤ m
    · -- the leading one of the significand runs over into the field
      have hword : f.pack (negative, .finite m e) =
          f.word negative ((e - f.lowest).toNat + 1) (m - 2 ^ f.fractionBits) := by
        rw [hpack, word, Nat.succ_mul]
        omega
      rw [hword, read_word negative (by omega) (by omega), if_neg (by omega), if_neg (by omega),
        Nat.one_shiftLeft]
      congr 2 <;> omega
    · obtain rfl : e = f.lowest := by
        rcases hlong with he | hm
        · exact he
        · exact absurd hm hfull
      have hword : f.pack (negative, .finite m f.lowest) = f.word negative 0 m := by
        rw [hpack, word, Int.sub_self, Int.toNat_zero]
      rw [hword, read_word negative (by omega) (by omega), if_neg (by omega), if_pos rfl]

/-- Packed bits fit into as many as the format has. -/
theorem pack_lt (hf : f.Proper) (r : Bool × Magnitude) : f.pack r < 2 * f.signBit := by
  have hinfinity : f.infinity < f.signBit := by
    simpa [infinity_eq] using
      word_lt_signBit (f := f) (Nat.le_refl f.specialField) (Nat.two_pow_pos f.fractionBits)
  have hquietNaN : f.quietNaN < f.signBit := by
    rw [quietNaN, infinity_eq, Nat.one_shiftLeft]
    exact word_lt_signBit (Nat.le_refl _) hf.quietBit_lt
  have hround : ∀ m e, f.round m e ≤ f.infinity := by
    intro m e
    rw [round]
    split
    · exact Nat.zero_le _
    · exact Nat.min_le_right _ _
  obtain ⟨negative, magnitude⟩ := r
  have hsign : (if negative then f.signBit else 0) ≤ f.signBit := by
    split
    · exact Nat.le_refl _
    · exact Nat.zero_le _
  cases magnitude with
  | finite m e =>
    have := hround m e
    simp only [pack]
    omega
  | infinite => simp only [pack]; omega
  | notANumber => simp only [pack]; omega

end Format

/-! ## The two formats -/

theorem binary32_proper : binary32.Proper := ⟨by decide, by decide⟩

theorem binary64_proper : binary64.Proper := ⟨by decide, by decide⟩

/-- **What the 32-bit format holds, the 64-bit format holds**, split in another way that no rounding
can tell. -/
theorem exists_held_binary64 {magnitude : Magnitude} (h : magnitude.Held binary32) :
    ∃ wide : Magnitude, wide.Held binary64 ∧
      ∀ (f : Format) (negative : Bool), f.pack (negative, wide) = f.pack (negative, magnitude) := by
  cases magnitude with
  | infinite => exact ⟨.infinite, trivial, fun _ _ => rfl⟩
  | notANumber => exact ⟨.notANumber, trivial, fun _ _ => rfl⟩
  | finite m e =>
    by_cases hm : m = 0
    · subst hm
      exact ⟨.finite 0 binary64.lowest, ⟨by decide, by decide, by decide, .inl rfl⟩,
        fun f negative => by simp only [Format.pack, Format.round, if_true]⟩
    · obtain ⟨hlow, hhigh, hshort, -⟩ := h
      have hlowest : binary32.lowest = -149 := by decide
      have hspecial : binary32.specialField = 255 := by decide
      have hlowest' : binary64.lowest = -1074 := by decide
      have hspecial' : binary64.specialField = 2047 := by decide
      have hlog : m.log2 < 24 := (Nat.log2_lt hm).mpr hshort
      -- the significand is brought to its full length
      have hfull : (m <<< (52 - m.log2)).log2 = 52 := by
        rw [log2_shiftLeft hm]
        omega
      have hne : m <<< (52 - m.log2) ≠ 0 := by
        intro hzero
        rw [hzero] at hfull
        cases hfull
      refine ⟨.finite (m <<< (52 - m.log2)) (e - (52 - m.log2 : Nat)), ⟨?_, ?_, ?_, .inr ?_⟩,
        fun f negative => by simp only [Format.pack, Format.round_shiftLeft]⟩
      · omega
      · omega
      · exact (Nat.log2_lt hne).mp (by rw [hfull]; decide)
      · exact (Nat.le_log2 hne).mp (Nat.le_of_eq hfull.symm)

/-- **A 32-bit number that is widened is known**: narrowed and widened again, it has the same 64
bits. -/
theorem Binary32.widen_narrow_widen (x : Binary32) : x.widen.narrow.widen = x.widen := by
  obtain ⟨negative, magnitude, hread⟩ : ∃ negative magnitude,
      binary32.read x.bits.toNat = (negative, magnitude) := ⟨_, _, rfl⟩
  have hheld : magnitude.Held binary32 := by
    simpa [hread] using Format.held_read binary32_proper x.bits.toNat
  obtain ⟨wide, hwide, hpack⟩ := exists_held_binary64 hheld
  have hbits : x.widen.bits.toNat = binary64.pack (negative, wide) := by
    have hlt := Format.pack_lt binary64_proper (negative, wide)
    rw [widen, hread, ← hpack]
    exact UInt64.toNat_ofNat_of_lt hlt
  have hbits' : x.widen.narrow.bits.toNat = binary32.pack (negative, magnitude) := by
    have hlt := Format.pack_lt binary32_proper (negative, magnitude)
    rw [Binary64.narrow, hbits, Format.read_pack binary64_proper negative hwide, hpack]
    exact UInt32.toNat_ofNat_of_lt hlt
  rw [widen, hbits', Format.read_pack binary32_proper negative hheld, widen, hread]

end Rowbind
