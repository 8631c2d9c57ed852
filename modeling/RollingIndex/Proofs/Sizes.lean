import Mathlib.Algebra.Order.Ring.Rat
import Mathlib.Tactic.Linarith
import RollingIndex.Proofs.Spellings
import RollingIndex.Report.Size

/-!
# What a size for people says

A size of at least `1024` bytes is written in the first unit in which it is below `1024`, or in the
last one, and rounded to hundredths of that unit afterwards. Up to `2 ^ 53` bytes a double holds the
number of bytes as it is (`roundedBytes_eq`), so nothing but this rounding is lost:

* **the number written is at least `1.00` and less than one half of a hundredth off**
  (`humanSize_shows`);
* **below the last unit it is less than `1024.00` exactly if the size is below `1023.995` units**;
  from there on the rounding reaches `1024.00`, and the unit stays (`humanSize_reaches_1024`).
-/

namespace RollingIndex

/-! ## More about rounding -/

/-- A common factor does not count. -/
theorem roundDiv_mul_right (num den : Nat) {k : Nat} (hk : 0 < k) :
    roundDiv (num * k) (den * k) = roundDiv num den := by
  have hhalf : ∀ a b : Nat, 2 * (a * k) < b * k ↔ 2 * a < b := fun a b => by
    rw [← Nat.mul_assoc, Nat.mul_lt_mul_right hk]
  have hhalf' : ∀ a b : Nat, b * k < 2 * (a * k) ↔ b < 2 * a := fun a b => by
    rw [← Nat.mul_assoc, Nat.mul_lt_mul_right hk]
  simp only [roundDiv, Nat.mul_div_mul_right _ _ hk, Nat.mul_mod_mul_right, hhalf, hhalf']

/-- What is at least a number is rounded to this number at least. -/
theorem le_roundDiv {num den low : Nat} (hden : 0 < den) (h : low * den ≤ num) :
    low ≤ roundDiv num den := by
  have hunder : 2 * num ≤ 2 * (roundDiv num den * den) + den := le_two_mul_roundDiv hden
  have hproduct : 2 * low * den ≤ (2 * roundDiv num den + 1) * den := by
    rw [Nat.mul_assoc, Nat.add_mul, Nat.mul_assoc]
    omega
  have hdouble : 2 * low ≤ 2 * roundDiv num den + 1 := Nat.le_of_mul_le_mul_right hproduct hden
  omega

/-- What is at most a number is rounded to this number at most. -/
theorem roundDiv_le {num den high : Nat} (hden : 0 < den) (h : num ≤ high * den) :
    roundDiv num den ≤ high := by
  have hover : 2 * (roundDiv num den * den) ≤ 2 * num + den := two_mul_roundDiv_le hden
  have hproduct : 2 * roundDiv num den * den ≤ (2 * high + 1) * den := by
    rw [Nat.mul_assoc, Nat.add_mul, Nat.mul_assoc]
    omega
  have hdouble : 2 * roundDiv num den ≤ 2 * high + 1 := Nat.le_of_mul_le_mul_right hproduct hden
  omega

/-- Rounding moves a quotient by one half at most. -/
theorem abs_roundDiv_sub_le (num : Nat) {den : Nat} (hden : 0 < den) :
    |(roundDiv num den : ℚ) * den - num| ≤ den / 2 := by
  have hover : (2 * (roundDiv num den * den) : ℚ) ≤ 2 * num + den := by
    exact_mod_cast two_mul_roundDiv_le hden
  have hunder : (2 * num : ℚ) ≤ 2 * (roundDiv num den * den) + den := by
    exact_mod_cast le_two_mul_roundDiv hden
  rw [abs_le]
  constructor <;> linarith

/-- A quotient halfway between two numbers goes to the even one. -/
theorem roundDiv_of_half {num den : Nat} (low : Nat) (hden : 0 < den)
    (h : 2 * num = 2 * (low * den) + den) : roundDiv num den = low + low % 2 := by
  have hlow : num / den = low :=
    Nat.div_eq_of_lt_le (by omega) (by rw [Nat.succ_mul]; omega)
  have hrest := Nat.div_add_mod num den
  rw [hlow, Nat.mul_comm] at hrest
  unfold roundDiv
  dsimp only
  rw [if_neg (by omega), if_neg (by omega), hlow]

/-- A quotient is rounded to a number below an even one exactly if it is more than one half
below. -/
theorem roundDiv_lt_iff (num : Nat) {den limit : Nat} (hden : 0 < den) (heven : limit % 2 = 0) :
    roundDiv num den < limit ↔ 2 * num + den < 2 * (limit * den) := by
  constructor
  · intro hlt
    have hle : 2 * num ≤ 2 * (roundDiv num den * den) + den := le_two_mul_roundDiv hden
    have hnext := Nat.mul_le_mul_right den (Nat.succ_le_of_lt hlt)
    rw [Nat.succ_mul] at hnext
    -- only halfway between the number before the limit and the limit is left to exclude
    refine Nat.lt_of_le_of_ne (by omega) fun heq => ?_
    have hlast : roundDiv num den * den + den = limit * den := by omega
    have hsucc : roundDiv num den + 1 = limit := by
      rw [← Nat.succ_mul] at hlast
      exact Nat.eq_of_mul_eq_mul_right hden hlast
    have htie : roundDiv num den = roundDiv num den + roundDiv num den % 2 :=
      roundDiv_of_half _ hden (by omega)
    omega
  · intro hlt
    have hle : 2 * (roundDiv num den * den) ≤ 2 * num + den := two_mul_roundDiv_le hden
    have hproduct : roundDiv num den * den < limit * den := by omega
    exact Nat.lt_of_mul_lt_mul_right hproduct

/-! ## Numbers of bytes as doubles -/

theorem Double.floorLog2_one {n : Nat} (h : 0 < n) : Double.floorLog2 n 1 = n.log2 := by
  have hlog : Nat.log2 1 = 0 := by decide
  have hle : powerOfTwo n.log2 ≤ n := Nat.log2_self_le (Nat.ne_of_gt h)
  simp [floorLog2, scaleDown, hlog, hle]

/-- **Up to `2 ^ 53` a double holds a number as it is.** -/
theorem roundedBytes_eq {bytes : Nat} (hlow : 0 < bytes) (hhigh : bytes < 2 ^ 53) :
    ∃ den, 0 < den ∧ roundedBytes bytes = (bytes * den, den) := by
  have hlog : bytes.log2 < 53 := (Nat.log2_lt (Nat.ne_of_gt hlow)).mpr hhigh
  -- the mantissa takes what is left of 53 bits
  obtain ⟨spare, hspare⟩ : ∃ spare, bytes.log2 + spare = 52 := ⟨52 - bytes.log2, by omega⟩
  have hexponent : max Double.leastExponent (Double.floorLog2 bytes 1 - 52) = -(spare : Int) := by
    rw [Double.floorLog2_one hlow, Double.leastExponent]
    omega
  have hmantissa : bytes * powerOfTwo spare < powerOfTwo 53 := by
    have hbits : bytes < 2 ^ (bytes.log2 + 1) := Nat.lt_log2_self
    calc bytes * 2 ^ spare < 2 ^ (bytes.log2 + 1) * 2 ^ spare :=
          Nat.mul_lt_mul_of_pos_right hbits (Nat.two_pow_pos spare)
      _ = 2 ^ 53 := by rw [← Nat.pow_add]; congr 1; omega
  have hscaled : Double.scaleDown bytes 1 (-(spare : Int)) = (bytes * powerOfTwo spare, 1) := by
    rw [Double.scaleDown]
    split
    · have hzero : spare = 0 := by omega
      subst hzero
      simp [powerOfTwo]
    · simp
  have hround : roundDiv (bytes * powerOfTwo spare) 1 = bytes * powerOfTwo spare := by
    simpa using roundDiv_mul_self (bytes * powerOfTwo spare) Nat.one_pos
  have hdouble : Double.ofRatio? false bytes 1 =
      some ⟨false, bytes * powerOfTwo spare, -(spare : Int)⟩ := by
    rw [Double.ofRatio?, if_neg (Nat.ne_of_gt hlow)]
    simp only [hexponent, hscaled, hround, if_neg (Nat.ne_of_lt hmantissa)]
    rw [if_neg (by rw [Double.greatestExponent]; omega)]
  refine ⟨powerOfTwo spare, powerOfTwo_pos spare, ?_⟩
  rw [roundedBytes, hdouble]
  dsimp only
  rw [Double.toRatio]
  split
  · rename_i hpositive
    have hzero : spare = 0 := by
      dsimp only at hpositive
      omega
    subst hzero
    simp [powerOfTwo]
  · simp

/-! ## The unit -/

/-- The units above the byte and what they are in bytes. -/
def unitSizes : List (String × Nat) :=
  [("KB", 1024), ("MB", 1024 ^ 2), ("GB", 1024 ^ 3), ("TB", 1024 ^ 4)]

/-- The unit chosen is the first one in which the quotient is below `1024`, or the last. -/
theorem fitUnit_spec (num : Nat) (more : List String) :
    ∀ (den : Nat) (unit : String), ∃ k name, (unit :: more)[k]? = some name ∧
      fitUnit num den unit more = (1024 ^ k * den, name) ∧
      (k ≠ 0 → 1024 ^ k * den ≤ num) ∧ (k < more.length → num < 1024 ^ (k + 1) * den) := by
  induction more with
  | nil => exact fun den unit => ⟨0, unit, rfl, by simp [fitUnit], nofun, nofun⟩
  | cons next more ih =>
    intro den unit
    rw [fitUnit]
    split
    · rename_i hlarge
      obtain ⟨k, name, hname, hfit, hle, hlt⟩ := ih (1024 * den) next
      have hpow : ∀ j, 1024 ^ j * (1024 * den) = 1024 ^ (j + 1) * den := fun j => by
        rw [Nat.pow_succ, Nat.mul_assoc]
      rw [hpow] at hfit hle hlt
      refine ⟨k + 1, name, by simpa using hname, hfit, fun _ => ?_, fun hk => ?_⟩
      · by_cases hk : k = 0
        · subst hk
          simpa using hlarge
        · exact hle hk
      · exact hlt (by simpa using hk)
    · rename_i hsmall
      exact ⟨0, unit, rfl, by simp, nofun, fun _ => by simpa using Nat.lt_of_not_le hsmall⟩

/-- **The hundredths written** are those of the size in the unit chosen, rounded. -/
theorem scaledSize_spec {bytes : Nat} (hlow : 1024 ≤ bytes) (hhigh : bytes < 2 ^ 53) :
    ∃ unit size, (unit, size) ∈ unitSizes ∧ 0 < size ∧
      scaledSize bytes = (roundDiv (100 * bytes) size, unit) ∧ size ≤ bytes ∧
      (unit ≠ "TB" → bytes < 1024 * size) := by
  obtain ⟨den, hden, hbytes⟩ := roundedBytes_eq (by omega) hhigh
  obtain ⟨k, unit, hunit, hfit, hle, hlt⟩ := fitUnit_spec (bytes * den) largerUnits (1024 * den) "KB"
  have hpow : ∀ j, 1024 ^ j * (1024 * den) = 1024 ^ (j + 1) * den := fun j => by
    rw [Nat.pow_succ, Nat.mul_assoc]
  rw [hpow] at hfit hle hlt
  have hscaled : scaledSize bytes = (roundDiv (100 * bytes) (1024 ^ (k + 1)), unit) := by
    simp only [scaledSize, hbytes, hfit]
    rw [← Nat.mul_assoc, roundDiv_mul_right _ _ hden]
  have hle' : 1024 ^ (k + 1) ≤ bytes := by
    by_cases hk : k = 0
    · subst hk
      simpa using hlow
    · exact Nat.le_of_mul_le_mul_right (hle hk) hden
  have hlt' : k < largerUnits.length → bytes < 1024 * 1024 ^ (k + 1) := fun hk => by
    rw [Nat.mul_comm, ← Nat.pow_succ]
    exact Nat.lt_of_mul_lt_mul_right (hlt hk)
  obtain ⟨hk, -⟩ := List.getElem?_eq_some_iff.mp hunit
  have hmem : (unit, 1024 ^ (k + 1)) ∈ unitSizes ∧ (unit ≠ "TB" → k < largerUnits.length) := by
    obtain rfl | rfl | rfl | rfl : k = 0 ∨ k = 1 ∨ k = 2 ∨ k = 3 := by
      have hcount : ("KB" :: largerUnits).length = 4 := rfl
      omega
    all_goals
      obtain rfl := Option.some.inj hunit
      simp [unitSizes, largerUnits]
  exact ⟨unit, 1024 ^ (k + 1), hmem.1, Nat.pow_pos (by decide), hscaled, hle',
    fun hlast => hlt' (hmem.2 hlast)⟩

/-! ## The text -/

/-- The text is a number with two decimal places, so many hundredths in all, and a unit. -/
def ShowsHundredths (text : String) (hundredths : Nat) (unit : String) : Prop :=
  ∃ whole places : List Char, whole ≠ [] ∧ places.length = 2 ∧
    readDigits? (whole ++ places) = some hundredths ∧
    text.toList = whole ++ '.' :: places ++ ' ' :: unit.toList

/-- From one whole on, hundredths are written as the digits of their number with a point in front of
the last two. -/
theorem showsHundredths_text {hundredths : Nat} (h : 100 ≤ hundredths) (unit : String) :
    ShowsHundredths (hundredthsText hundredths ++ " " ++ unit) hundredths unit := by
  have htens : hundredths / 10 / 10 = hundredths / 100 := Nat.div_div_eq_div_mul ..
  have hplace : hundredths / 10 % 10 = hundredths % 100 / 10 := by omega
  refine ⟨Nat.toDigits 10 (hundredths / 100),
    [Nat.digitChar (hundredths % 100 / 10), Nat.digitChar (hundredths % 10)],
    Nat.toDigits_ne_nil, rfl, ?_, ?_⟩
  · refine readDigits?_eq_some_iff.mpr ⟨0, ?_⟩
    rw [List.replicate_zero, List.nil_append,
      Nat.toDigits_of_base_le (n := hundredths) (by decide) (by omega),
      Nat.toDigits_of_base_le (n := hundredths / 10) (by decide) (by omega), htens, hplace]
    simp
  · rw [hundredthsText]
    simp only [Nat.toString_eq_ofList_toDigits, String.toList_append, String.toList_ofList]
    rw [Nat.toDigits_of_lt_base (n := hundredths % 100 / 10) (by omega),
      Nat.toDigits_of_lt_base (n := hundredths % 10) (by omega)]
    simp

/-- **What a size for people says.** From `1024` up to `2 ^ 53` bytes the text is a number with two
decimal places and one of the four units. The number is at least `1.00`, and as a quantity of the
unit it is off by `0.005` of the unit at most. Below the last unit it is `1024.00` at most, and less
exactly if the size is less than `1023.995` of the unit. -/
theorem humanSize_shows {bytes : Nat} (hlow : 1024 ≤ bytes) (hhigh : bytes < 2 ^ 53) :
    ∃ hundredths unit size, (unit, size) ∈ unitSizes ∧
      ShowsHundredths (humanSize bytes) hundredths unit ∧ 100 ≤ hundredths ∧
      |(hundredths / 100 : ℚ) * size - bytes| ≤ 0.005 * size ∧
      (unit ≠ "TB" → hundredths ≤ 102400 ∧
        (hundredths < 102400 ↔ (bytes : ℚ) < 1023.995 * size)) := by
  obtain ⟨unit, size, hunit, hsize, hscaled, hle, hlt⟩ := scaledSize_spec hlow hhigh
  have hone : 100 ≤ roundDiv (100 * bytes) size :=
    le_roundDiv hsize (Nat.mul_le_mul_left 100 hle)
  have htext : humanSize bytes = hundredthsText (roundDiv (100 * bytes) size) ++ " " ++ unit := by
    rw [humanSize, if_neg (by omega), hscaled]
  refine ⟨roundDiv (100 * bytes) size, unit, size, hunit, htext ▸ showsHundredths_text hone unit,
    hone, ?_, fun hlast => ⟨?_, ?_⟩⟩
  · have herror := abs_roundDiv_sub_le (100 * bytes) hsize
    push_cast at herror
    rw [abs_le] at herror ⊢
    constructor <;> linarith
  · have hfits : bytes < 1024 * size := hlt hlast
    exact roundDiv_le hsize (by omega)
  · rw [roundDiv_lt_iff _ hsize rfl, ← @Nat.cast_lt ℚ]
    push_cast
    constructor <;> intro h <;> linarith

/-- Six bytes below a megabyte the number still is below `1024.00`. -/
theorem humanSize_shows_below :
    1024 ≤ 1048570 ∧ 1048570 < 2 ^ 53 ∧ humanSize 1048570 = "1023.99 KB" ∧
      ∃ hundredths unit size, (unit, size) ∈ unitSizes ∧
        ShowsHundredths (humanSize 1048570) hundredths unit ∧ 100 ≤ hundredths ∧
        |(hundredths / 100 : ℚ) * size - (1048570 : Nat)| ≤ 0.005 * size ∧
        (unit ≠ "TB" → hundredths ≤ 102400 ∧
          (hundredths < 102400 ↔ ((1048570 : Nat) : ℚ) < 1023.995 * size)) :=
  ⟨by decide, by decide, rfl, humanSize_shows (by decide) (by decide)⟩

/-- The unit is chosen before the number is rounded: one byte below a megabyte, a gigabyte and a
terabyte the text says `1024.00` of the unit below. -/
theorem humanSize_reaches_1024 :
    ¬ (∀ bytes hundredths unit, 1024 ≤ bytes → bytes < 2 ^ 53 →
        ShowsHundredths (humanSize bytes) hundredths unit → unit ≠ "TB" → hundredths < 102400) ∧
      humanSize (1024 ^ 2 - 1) = "1024.00 KB" ∧ humanSize (1024 ^ 3 - 1) = "1024.00 MB" ∧
      humanSize (1024 ^ 4 - 1) = "1024.00 GB" := by
  have htext : humanSize (1024 ^ 2 - 1) = "1024.00 KB" := rfl
  refine ⟨fun h => ?_, htext, rfl, rfl⟩
  have hshows : ShowsHundredths (humanSize (1024 ^ 2 - 1)) 102400 "KB" := by
    rw [htext]
    exact ⟨['1', '0', '2', '4'], ['0', '0'], by decide, rfl, by decide, by decide⟩
  exact Nat.lt_irrefl _ (h _ _ _ (by decide) (by decide) hshows (by decide))

end RollingIndex
