import ZZ9000.Config.GenerateLemmas

/-!
This module contains the round trips of single values through the writer and the parser.
-/

namespace ZZCfg

theorem le_ofDigitChars (s : List Char) (value : Nat) : value ≤ Nat.ofDigitChars 10 s value := by
  induction s generalizing value with
  | nil => exact Nat.le_refl value
  | cons c s ih =>
    have := ih (10 * value + (c.toNat - '0'.toNat))
    unfold Nat.ofDigitChars at this ⊢
    rw [List.foldl_cons]
    omega

theorem not_outside_digits {c : Char} (h : c.isDigit = true) : ¬((c < '0' || '9' < c) = true) := by
  unfold Char.isDigit at h
  simp only [Bool.and_eq_true, decide_eq_true_eq] at h
  simp only [Bool.or_eq_true, decide_eq_true_eq, not_or]
  exact ⟨Nat.not_lt.mpr h.1, Nat.not_lt.mpr h.2⟩

theorem zzcfgParseUnsigned_go {limit : Nat} (value : Nat) {s : List Char}
    (hs : ∀ c ∈ s, c.isDigit = true) (hlimit : Nat.ofDigitChars 10 s value ≤ limit) :
    zzcfgParseUnsigned.go limit value s = some (Nat.ofDigitChars 10 s value) := by
  induction s generalizing value with
  | nil => rfl
  | cons c s ih =>
    have hstep : Nat.ofDigitChars 10 (c :: s) value =
        Nat.ofDigitChars 10 s (value * 10 + (c.toNat - '0'.toNat)) := by
      rw [Nat.mul_comm]
      rfl
    rw [hstep] at hlimit ⊢
    have hle := le_ofDigitChars s (value * 10 + (c.toNat - '0'.toNat))
    unfold zzcfgParseUnsigned.go
    rw [if_neg (not_outside_digits (hs c (by simp)))]
    dsimp only
    rw [if_neg (by omega)]
    exact ih _ (fun d hd => hs d (by simp [hd])) hlimit

theorem decimal_ne_nil (n : Nat) : decimal n ≠ [] := Nat.toDigits_ne_nil

theorem decimal_isDigit {n : Nat} {c : Char} (h : c ∈ decimal n) : c.isDigit = true :=
  Nat.isDigit_of_mem_toDigits (by decide) (by decide) h

theorem zzcfgParseUnsigned_decimal {limit n : Nat} (h : n ≤ limit) :
    zzcfgParseUnsigned limit (decimal n) = some (UInt16.ofNat n) := by
  have hvalue : Nat.ofDigitChars 10 (decimal n) 0 = n := Nat.ofDigitChars_ten_toDigits
  have hle : Nat.ofDigitChars 10 (decimal n) 0 ≤ limit := by omega
  have hgo := zzcfgParseUnsigned_go 0 (fun c hc => decimal_isDigit hc) hle
  rw [hvalue] at hgo
  unfold zzcfgParseUnsigned
  split
  . next hnil => exact absurd hnil (decimal_ne_nil n)
  . rw [hgo]
    rfl

theorem zzcfgParseU16_decimal (n : UInt16) : zzcfgParseU16 (decimal n.toNat) = some n := by
  have := n.toNat_lt
  unfold zzcfgParseU16
  rw [zzcfgParseUnsigned_decimal (by omega), UInt16.ofNat_toNat]

theorem zzcfgParseU12_decimal {n : UInt16} (h : n ≤ 4095) :
    zzcfgParseU12 (decimal (n &&& 4095).toNat) = some n := by
  have hn : n.toNat ≤ 4095 := h
  have hmask : n &&& 4095 = n := by
    apply UInt16.toNat.inj
    rw [UInt16.toNat_and]
    have := Nat.and_two_pow_sub_one_eq_mod n.toNat 12
    have h4095 : UInt16.toNat 4095 = 2 ^ 12 - 1 := rfl
    rw [h4095, this]
    omega
  unfold zzcfgParseU12
  rw [hmask, zzcfgParseUnsigned_decimal hn, UInt16.ofNat_toNat]

theorem zzcfgParsePhase_signed {n : Int16} {min max : Int} (hmin : min ≤ n.toInt)
    (hmax : n.toInt ≤ max) :
    zzcfgParsePhase (signedDecimal n.toInt) min max = some n := by
  have hlo := n.le_toInt
  have hhi := n.toInt_lt
  have hnat : (UInt16.ofNat n.toInt.natAbs).toNat = n.toInt.natAbs := by
    rw [UInt16.toNat_ofNat_of_lt']
    show n.toInt.natAbs < 65536
    omega
  have hparse : zzcfgParseU16 (decimal n.toInt.natAbs) = some (UInt16.ofNat n.toInt.natAbs) := by
    unfold zzcfgParseU16
    exact zzcfgParseUnsigned_decimal (by omega)
  unfold zzcfgParsePhase signedDecimal
  by_cases hneg : n.toInt < 0
  . rw [if_pos hneg]
    simp only [List.head?_cons, beq_self_eq_true, if_true, List.tail_cons]
    rw [hparse]
    dsimp only
    rw [hnat]
    have habs : -(n.toInt.natAbs : Int) = n.toInt := by omega
    rw [habs, if_neg, Int16.ofInt_toInt]
    simp only [Bool.or_eq_true, decide_eq_true_eq]
    omega
  . rw [if_neg hneg]
    have hhead : ((decimal n.toInt.natAbs).head? == some '-') = false := by
      cases hdec : decimal n.toInt.natAbs with
      | nil => rfl
      | cons c s =>
        have hc : c.isDigit = true := decimal_isDigit (n := n.toInt.natAbs) (by rw [hdec]; simp)
        simp only [List.head?_cons, beq_eq_false_iff_ne, ne_eq, Option.some.injEq]
        intro hc'
        subst hc'
        revert hc
        decide
    rw [hhead]
    simp only [Bool.false_eq_true, if_false]
    rw [hparse]
    dsimp only
    rw [hnat]
    have habs : (n.toInt.natAbs : Int) = n.toInt := by omega
    rw [habs, if_neg, Int16.ofInt_toInt]
    simp only [Bool.or_eq_true, decide_eq_true_eq]
    omega

theorem zzgammaParseValue_text {n : UInt16} (hmin : 20 ≤ n) (hmax : n ≤ 500) :
    zzgammaParseValue (decimal (n.toNat / 100) ++ '.' :: twoDigits (n.toNat % 100)) =
      some n.toNat := by
  have hall : ∀ g : Fin 501, 20 ≤ g.val →
      zzgammaParseValue (decimal (g.val / 100) ++ '.' :: twoDigits (g.val % 100)) =
        some g.val := by
    decide +kernel
  have hmin : 20 ≤ n.toNat := hmin
  have hmax : n.toNat ≤ 500 := hmax
  exact hall ⟨n.toNat, by omega⟩ hmin

theorem zzcfgParseSwitch_onOff (b : Bool) : zzcfgParseSwitch (onOff b) = some b := by
  cases b <;> decide

theorem zzcfgParseProfile_name {profile : UInt16} (h : profile.toNat < Vcap.profileCount) :
    ∃ p, zzcfgProfiles[profile.toNat]? = some p ∧ p.name ≠ [] ∧
      zzcfgParseProfile p.name = some profile := by
  have hall : ∀ i : Fin Vcap.profileCount, ∃ p, zzcfgProfiles[i.val]? = some p ∧ p.name ≠ [] ∧
      zzcfgParseProfile p.name = some (UInt16.ofNat i.val) := by
    intro i
    refine ⟨zzcfgProfiles.get i, List.getElem?_eq_getElem i.isLt, ?_⟩
    revert i
    decide +kernel
  have := hall ⟨profile.toNat, h⟩
  rwa [UInt16.ofNat_toNat] at this

end ZZCfg
