import Governance.Proofs.Amount.Showing
import Mathlib.Data.Nat.Dist

/-!
# Rounding shown amounts

An amount that is shown with few decimals should be worth the nearest multiple of the last one, a half being
rounded up (`IsNearest`). There is always one such multiple (`isNearest_iff`), and it is what is shown as long as it
fits 128 bits (`shownYocto_of_fits`). Near the largest amount it need not fit, and then the amount is shown a
unit lower (`shownYocto_of_large`). Main statement: this is so for ten numbers of decimals, for the amounts from
half a unit above the last multiple that fits (`shown_nearest_that_fits`).
-/

namespace Governance.Amount

open Governance.Text

variable {u y n places : Nat}

/-! ## The nearest multiple -/

/-- The multiple of a unit that is nearest to a number; of two that are equally near, the greater one. -/
structure IsNearest (u y n : Nat) : Prop where
  multiple : u ∣ n
  closest : ∀ m, u ∣ m → Nat.dist n y ≤ Nat.dist m y
  tieUp : ∀ m, u ∣ m → Nat.dist m y = Nat.dist n y → m ≤ n

/-- Different multiples of a unit are at least a unit apart. -/
theorem add_le_of_dvd_of_lt {m : Nat} (hn : u ∣ n) (hm : u ∣ m) (lt : n < m) : n + u ≤ m := by
  obtain ⟨i, rfl⟩ := hn
  obtain ⟨j, rfl⟩ := hm
  have next : i + 1 ≤ j := Nat.lt_of_mul_lt_mul_left lt
  calc u * i + u = u * (i + 1) := (Nat.mul_succ u i).symm
    _ ≤ u * j := Nat.mul_le_mul_left u next

/-- A multiple within half a unit is the nearest one. -/
theorem isNearest_of_within {half : Nat} (multiple : half + half ∣ n) (lower : n ≤ y + half)
    (upper : y + half < n + (half + half)) : IsNearest (half + half) y n := by
  refine ⟨multiple, fun m hm => ?_, fun m hm tie => ?_⟩
  · unfold Nat.dist
    rcases Nat.lt_trichotomy m n with lt | rfl | gt
    · have := add_le_of_dvd_of_lt hm multiple lt
      omega
    · exact Nat.le_refl _
    · have := add_le_of_dvd_of_lt multiple hm gt
      omega
  · refine Nat.le_of_not_lt fun gt => ?_
    have := add_le_of_dvd_of_lt multiple hm gt
    unfold Nat.dist at tie
    omega

theorem IsNearest.unique {m : Nat} (hn : IsNearest u y n) (hm : IsNearest u y m) : n = m := by
  have tie : Nat.dist n y = Nat.dist m y :=
    Nat.le_antisymm (hn.closest m hm.multiple) (hm.closest n hn.multiple)
  exact Nat.le_antisymm (hm.tieUp n hn.multiple tie) (hn.tieUp m hm.multiple tie.symm)

/-- The multiple of the unit nearest to a number of yoctoNEAR, a half being rounded up. -/
def nearest (y places : Nat) : Nat :=
  (y + unit places / 2) / unit places * unit places

theorem unit_dvd_nearest (y places : Nat) : unit places ∣ nearest y places :=
  Nat.dvd_mul_left _ _

theorem nearest_bounds (y places : Nat) :
    nearest y places ≤ y + unit places / 2 ∧ y + unit places / 2 < nearest y places + unit places := by
  have split := Nat.div_add_mod' (y + unit places / 2) (unit places)
  have small := Nat.mod_lt (y + unit places / 2) (unit_pos places)
  unfold nearest
  omega

theorem isNearest_iff (coarse : places < decimals) :
    IsNearest (unit places) y n ↔ n = nearest y places := by
  have even := unit_eq_half_add_half coarse
  have half : 5 * 10 ^ (decimals - places - 1) = unit places / 2 := by omega
  have is : IsNearest (unit places) y (nearest y places) := by
    have multiple := unit_dvd_nearest y places
    obtain ⟨lower, upper⟩ := nearest_bounds y places
    rw [half] at even
    rw [even] at multiple ⊢
    exact isNearest_of_within multiple lower (by rwa [← even])
  constructor
  · intro nearest
    exact nearest.unique is
  · rintro rfl
    exact is

/-! ## What is shown instead -/

/-- The greatest multiple of the unit that is the number of an amount. -/
def lastMultiple (places : Nat) : Nat :=
  (bound - 1) / unit places * unit places

theorem unit_dvd_lastMultiple (places : Nat) : unit places ∣ lastMultiple places :=
  Nat.dvd_mul_left _ _

theorem lastMultiple_bounds (places : Nat) :
    lastMultiple places < bound ∧ bound ≤ lastMultiple places + unit places := by
  have split := Nat.div_add_mod' (bound - 1) (unit places)
  have small := Nat.mod_lt (bound - 1) (unit_pos places)
  have positive : 0 < bound := by decide
  unfold lastMultiple
  omega

variable {a : Amount}

theorem shownYocto_of_lt (coarse : places < decimals) :
    shownYocto a places = min (a.yocto + unit places / 2) (bound - 1) / unit places * unit places := by
  rw [shownYocto, Nat.min_eq_left (Nat.le_of_lt coarse), roundedUp_of_lt coarse]

/-- The nearest multiple is shown if it fits. -/
theorem shownYocto_of_fits (coarse : places < decimals) (fits : nearest a.yocto places < bound) :
    shownYocto a places = nearest a.yocto places := by
  obtain ⟨lower, upper⟩ := nearest_bounds a.yocto places
  rw [shownYocto_of_lt coarse]
  exact div_mul_eq_of_dvd (unit_dvd_nearest _ _) (by omega) (by omega)

/-- If the nearest multiple does not fit, the last one that does is shown, which is one unit below. -/
theorem shownYocto_of_large (coarse : places < decimals) (large : bound ≤ nearest a.yocto places) :
    shownYocto a places = lastMultiple places ∧
      nearest a.yocto places = lastMultiple places + unit places := by
  obtain ⟨lower, _⟩ := nearest_bounds a.yocto places
  obtain ⟨last, next⟩ := lastMultiple_bounds places
  have fits : a.yocto < bound := a.bounded
  constructor
  · rw [shownYocto_of_lt coarse, Nat.min_eq_right (by omega)]
    rfl
  · have above := add_le_of_dvd_of_lt (unit_dvd_lastMultiple places) (unit_dvd_nearest a.yocto places)
      (Nat.lt_of_lt_of_le last large)
    refine Nat.le_antisymm (Nat.le_of_not_lt fun gt => ?_) above
    have beyond := add_le_of_dvd_of_lt (Nat.dvd_add (unit_dvd_lastMultiple places) (Nat.dvd_refl _))
      (unit_dvd_nearest a.yocto places) gt
    omega

/-- The nearest multiple does not fit from half a unit above the last one that does. -/
theorem bound_le_nearest_iff (coarse : places < decimals) :
    bound ≤ nearest y places ↔ lastMultiple places + unit places / 2 ≤ y := by
  have even := unit_eq_half_add_half coarse
  obtain ⟨lower, upper⟩ := nearest_bounds y places
  obtain ⟨last, next⟩ := lastMultiple_bounds places
  constructor
  · intro large
    have above := add_le_of_dvd_of_lt (unit_dvd_lastMultiple places) (unit_dvd_nearest y places)
      (Nat.lt_of_lt_of_le last large)
    omega
  · intro high
    have above := add_le_of_dvd_of_lt (unit_dvd_lastMultiple places) (unit_dvd_nearest y places)
      (by omega)
    omega

/-- With so many decimals, half a unit above the last multiple that fits there still are amounts. -/
def overhanging : List Nat :=
  [1, 4, 7, 9, 11, 15, 16, 17, 22, 23]

theorem mem_overhanging_iff (coarse : places < decimals) :
    places ∈ overhanging ↔ lastMultiple places + unit places / 2 < bound := by
  have each : ∀ places < decimals,
      (places ∈ overhanging ↔ lastMultiple places + unit places / 2 < bound) := by
    decide +kernel
  exact each places coarse

/-- **What is shown is the nearest multiple, if that fits.** With less than 24 decimals there is one multiple of the
last decimal that is nearest to an amount, a half being rounded up. What is shown of the amount is worth this
multiple exactly if it fits 128 bits, and otherwise the multiple before it. The latter is the case with 1, 4, 7, 9,
11, 15, 16, 17, 22 and 23 decimals, precisely for the amounts that are at least half a unit above the last multiple
that fits. -/
theorem shown_nearest_that_fits (y : Amount) {d : Nat} (coarse : d < 24) :
    ∃ n : ℕ, (∀ m, IsNearest (10 ^ (24 - d)) y.yocto m ↔ m = n) ∧
      (Worth (y.toNear d).toList n ↔ n < 2 ^ 128) ∧
      (2 ^ 128 ≤ n → Worth (y.toNear d).toList (n - 10 ^ (24 - d) : ℕ)) ∧
      (2 ^ 128 ≤ n ↔ d ∈ overhanging ∧ lastMultiple d + 10 ^ (24 - d) / 2 ≤ y.yocto) := by
  have few : d < decimals := coarse
  have worth := worth_toNear y d
  refine ⟨nearest y.yocto d, fun m => isNearest_iff few, ⟨?_, ?_⟩, ?_, ?_⟩
  · intro same
    rw [← Nat.cast_inj.1 (worth.unique same)]
    exact shownYocto_lt y d
  · intro fits
    rwa [shownYocto_of_fits few fits] at worth
  · intro large
    obtain ⟨last, next⟩ := shownYocto_of_large few large
    have below : nearest y.yocto d - 10 ^ (24 - d) = lastMultiple d := by
      rw [next]
      exact Nat.add_sub_cancel (lastMultiple d) (unit d)
    rwa [below, ← last]
  · constructor
    · intro large
      have high := (bound_le_nearest_iff few).1 large
      exact ⟨(mem_overhanging_iff few).2 (Nat.lt_of_le_of_lt high y.bounded), high⟩
    · rintro ⟨_, high⟩
      exact (bound_le_nearest_iff few).2 high

/-- Half a hundredth is rounded up. -/
theorem half_shown_rounded_up :
    let y : Amount := ⟨1005 * 10 ^ 21, by decide⟩
    2 < 24 ∧ IsNearest (10 ^ (24 - 2)) y.yocto (101 * 10 ^ 22) ∧ y.toNear 2 = "1.01" ∧
      Worth (y.toNear 2).toList (101 * 10 ^ 22 : ℕ) := by
  intro y
  have hundredth : IsNearest (10 ^ (24 - 2)) y.yocto (101 * 10 ^ 22) :=
    (isNearest_iff (show 2 < decimals by decide)).2 (by decide +kernel)
  obtain ⟨n, only, worth, _⟩ := shown_nearest_that_fits y (d := 2) (by decide)
  have rounded := (only _).1 hundredth
  refine ⟨by decide, hundredth, by decide +kernel, ?_⟩
  rw [rounded]
  exact worth.2 (by rw [← rounded]; decide)

/-- The largest amount is shown with four decimals as if it were cut off. The nearest multiple of the last decimal
is the next one. -/
theorem largest_shown_below_nearest :
    let y : Amount := ⟨2 ^ 128 - 1, by decide⟩
    let n : ℕ := 340282366920938463500000000000000000000
    4 < 24 ∧ IsNearest (10 ^ (24 - 4)) y.yocto n ∧ y.toNear 4 = "340282366920938.4634" ∧
      ¬ Worth (y.toNear 4).toList n := by
  intro y n
  have next : IsNearest (10 ^ (24 - 4)) y.yocto n :=
    (isNearest_iff (show 4 < decimals by decide)).2 (by decide +kernel)
  refine ⟨by decide, next, by decide +kernel, ?_⟩
  intro worth
  have same := Nat.cast_inj.1 ((worth_toNear y 4).unique worth)
  exact absurd same (by decide +kernel)

end Governance.Amount
