/-
**Percentages and differences — what grows with a part and with a total.**

The rules compare `100 * part / total` with a limit, and what is used of a total where less of it is free.

* `PyFloat.rank_ofRat`, `PyFloat.rank_div`, `PyFloat.rank_complement`: the operations on numbers keep or
  reverse their order;
* `percentOf_returns`, `percentOf_rank`: a percentage of the same total, of a smaller or larger part;
* `differenceFloat_int`, `differenceFloat_float`, `usage_grows`: `total - free` grows as `free` shrinks, and the
  usage with it.
-/

import CosMonitor.Collector.Gauges

namespace CosMonitor

/-! ### Percentages -/

namespace PyFloat

variable {first second total part other : PyFloat}

theorem rank_ofRat {value larger : ℚ} (atMost : value ≤ larger) :
    (ofRat value).rank ≤ (ofRat larger).rank := by
  unfold ofRat
  by_cases inRange : |value| < limit
  · rw [if_pos inRange]
    by_cases largerIn : |larger| < limit
    · rw [if_pos largerIn]
      exact WithBot.coe_le_coe.mpr (WithTop.coe_le_coe.mpr (double_mono atMost))
    · have positive : ¬ larger < 0 := fun negative => by
        rw [abs_of_neg negative] at largerIn
        rw [abs_lt] at inRange
        linarith
      rw [if_neg largerIn, decide_eq_false positive]
      exact WithBot.coe_le_coe.mpr le_top
  · rw [if_neg inRange]
    by_cases negative : value < 0
    · rw [decide_eq_true negative]
      exact bot_le
    · have outside : ¬ |larger| < limit := fun largerIn => by
        rw [abs_of_nonneg (not_lt.mp negative)] at inRange
        rw [abs_lt] at largerIn
        linarith
      have positive : ¬ larger < 0 := fun below => negative (atMost.trans_lt below)
      rw [if_neg outside, decide_eq_false negative, decide_eq_false positive]

theorem ofRat_ne_nan (value : ℚ) : ofRat value ≠ nan := by
  unfold ofRat
  split
  · simp
  · simp

theorem rank_le_top (isFirst : first ≠ nan) : first.rank ≤ (infinite false).rank := by
  rcases first with value | (_ | _) | _
  · exact WithBot.coe_le_coe.mpr le_top
  · exact le_rfl
  · exact bot_le
  · exact absurd rfl isFirst

theorem rank_le_iff (isFirst : first ≠ nan) (isSecond : second ≠ nan) :
    first.rank ≤ second.rank ↔ first.le second = true := by
  have below := lt_eq_rank isSecond isFirst
  have isLe : first.le second = !second.lt first := by
    rcases first with value | _ | _
    · rcases second with other | _ | _
      · rfl
      · rfl
      · exact absurd rfl isSecond
    · rcases second with other | _ | _
      · rfl
      · rfl
      · exact absurd rfl isSecond
    · exact absurd rfl isFirst
  rw [isLe, below, ← decide_not, decide_eq_true_eq, not_lt]

theorem rank_div (isFirst : first ≠ nan) (isSecond : second ≠ nan) (atMost : first.rank ≤ second.rank)
    (notNegative : total.lt (finite 0) = false) (ofFirst : first.div total = .ok part)
    (ofSecond : second.div total = .ok other) (isPart : part ≠ nan) (isOther : other ≠ nan) :
    part.rank ≤ other.rank := by
  rcases total with divisor | negative | _
  · have least : 0 ≤ divisor := by simpa [lt] using notNegative
    by_cases zero : divisor = 0
    · simp [div, zero] at ofFirst
    have positive : ¬ divisor < 0 := not_lt.mpr least
    rcases first with value | (_ | _) | _
    · rcases second with larger | (_ | _) | _
      · simp only [div, zero, if_false, Except.ok.injEq] at ofFirst ofSecond
        subst ofFirst ofSecond
        refine rank_ofRat (div_le_div_of_nonneg_right ?_ least)
        exact WithTop.coe_le_coe.mp (WithBot.coe_le_coe.mp atMost)
      · simp only [div, zero, if_false, Except.ok.injEq, positive, decide_false, bne_self_eq_false]
          at ofSecond
        subst ofSecond
        exact rank_le_top isPart
      · exact absurd atMost (by simp [rank])
      · exact absurd rfl isSecond
    · rcases second with larger | (_ | _) | _
      · have below := (rank_le_iff isFirst isSecond).mp atMost
        simp [le, lt] at below
      · rw [ofFirst] at ofSecond
        rw [Except.ok.inj ofSecond]
      · have below := (rank_le_iff isFirst isSecond).mp atMost
        simp [le, lt] at below
      · exact absurd rfl isSecond
    · simp only [div, zero, if_false, Except.ok.injEq, positive, decide_false] at ofFirst
      subst ofFirst
      exact bot_le
    · exact absurd rfl isFirst
  · rcases first with value | _ | _
    · rcases second with larger | _ | _
      · rw [div] at ofFirst ofSecond
        rw [← Except.ok.inj ofFirst, ← Except.ok.inj ofSecond]
      · simp only [div, Except.ok.injEq] at ofSecond
        exact absurd ofSecond.symm isOther
      · exact absurd rfl isSecond
    · simp only [div, Except.ok.injEq] at ofFirst
      exact absurd ofFirst.symm isPart
    · exact absurd rfl isFirst
  · rcases first with value | _ | _
    · simp only [div, Except.ok.injEq] at ofFirst
      exact absurd ofFirst.symm isPart
    · simp only [div, Except.ok.injEq] at ofFirst
      exact absurd ofFirst.symm isPart
    · exact absurd rfl isFirst

theorem rank_percent (isFirst : first ≠ nan) (isSecond : second ≠ nan)
    (atMost : first.rank ≤ second.rank) : first.percent.rank ≤ second.percent.rank := by
  rcases first with value | (_ | _) | _
  · rcases second with larger | (_ | _) | _
    · refine rank_ofRat (mul_le_mul_of_nonneg_right ?_ (by norm_num))
      exact WithTop.coe_le_coe.mp (WithBot.coe_le_coe.mp atMost)
    · exact rank_le_top (ofRat_ne_nan (value * 100))
    · exact absurd atMost (by simp [rank])
    · exact absurd rfl isSecond
  · rcases second with larger | (_ | _) | _
    · have below := (rank_le_iff isFirst isSecond).mp atMost
      simp [le, lt] at below
    · exact le_rfl
    · have below := (rank_le_iff isFirst isSecond).mp atMost
      simp [le, lt] at below
    · exact absurd rfl isSecond
  · exact bot_le
  · exact absurd rfl isFirst

theorem rank_complement (isFirst : first ≠ nan) (isSecond : second ≠ nan)
    (atMost : first.rank ≤ second.rank) : second.complement.rank ≤ first.complement.rank := by
  rcases first with value | (_ | _) | _
  · rcases second with larger | (_ | _) | _
    · refine rank_ofRat (sub_le_sub_left ?_ 100)
      exact WithTop.coe_le_coe.mp (WithBot.coe_le_coe.mp atMost)
    · exact bot_le
    · exact absurd atMost (by simp [rank])
    · exact absurd rfl isSecond
  · rcases second with larger | (_ | _) | _
    · have below := (rank_le_iff isFirst isSecond).mp atMost
      simp [le, lt] at below
    · exact le_rfl
    · have below := (rank_le_iff isFirst isSecond).mp atMost
      simp [le, lt] at below
    · exact absurd rfl isSecond
  · refine rank_le_top ?_
    rcases second with larger | _ | _
    · exact ofRat_ne_nan (100 - larger)
    · simp [complement]
    · exact absurd rfl isSecond
  · exact absurd rfl isFirst

end PyFloat

section Percentages

variable {part other percentage another : PyFloat} {total : Except PyError PyFloat}

theorem percentOf_eq_ok : percentOf (.ok part) total = .ok percentage ↔
    ∃ whole share, total = .ok whole ∧ part.div whole = .ok share ∧ share.percent = percentage := by
  unfold percentOf
  rw [Result.ok_bind, Result.bind_eq_ok]
  simp only [Result.bind_eq_ok, Result.pure_eq_ok]
  constructor
  · rintro ⟨whole, isWhole, share, isShare, same⟩
    exact ⟨whole, share, isWhole, isShare, same⟩
  · rintro ⟨whole, share, isWhole, isShare, same⟩
    exact ⟨whole, isWhole, share, isShare, same⟩

theorem share_ne_nan {share : PyFloat} (isNumber : share.percent ≠ .nan) : share ≠ .nan := by
  rintro rfl
  exact isNumber rfl

theorem percentOf_returns (divided : percentOf (.ok part) total = .ok percentage)
    (isNumber : percentage ≠ .nan) (isOther : other ≠ .nan)
    (finite : (∃ value, other = .finite value) ∨ ∃ whole, total = .ok (.finite whole)) :
    ∃ another, percentOf (.ok other) total = .ok another ∧ another ≠ .nan := by
  obtain ⟨whole, share, isWhole, isShare, rfl⟩ := percentOf_eq_ok.mp divided
  rcases whole with divisor | negative | _
  · by_cases zero : divisor = 0
    · simp [PyFloat.div, zero] at isShare
    · rcases other with value | sign | _
      · refine ⟨(PyFloat.ofRat (value / divisor)).percent,
          percentOf_eq_ok.mpr ⟨_, _, isWhole, ?_, rfl⟩, ?_⟩
        · simp only [PyFloat.div, zero, if_false]
        · rcases made : PyFloat.ofRat (value / divisor) with quotient | _ | _
          · exact PyFloat.ofRat_ne_nan (quotient * 100)
          · simp [PyFloat.percent]
          · exact absurd made (PyFloat.ofRat_ne_nan _)
      · refine ⟨.infinite (sign != decide (divisor < 0)),
          percentOf_eq_ok.mpr ⟨_, .infinite (sign != decide (divisor < 0)), isWhole, ?_, rfl⟩, by simp⟩
        simp only [PyFloat.div, zero, if_false]
      · exact absurd rfl isOther
  · obtain ⟨value, rfl⟩ : ∃ value, other = .finite value := by
      refine finite.resolve_right ?_
      rintro ⟨number, isFinite⟩
      rw [isWhole] at isFinite
      cases isFinite
    exact ⟨_, percentOf_eq_ok.mpr ⟨_, _, isWhole, rfl, rfl⟩, PyFloat.ofRat_ne_nan (0 * 100)⟩
  · refine absurd ?_ (share_ne_nan isNumber)
    rcases part with _ | _ | _
    · exact (Except.ok.inj isShare).symm
    · exact (Except.ok.inj isShare).symm
    · exact (Except.ok.inj isShare).symm

theorem percentOf_rank (isPart : part ≠ .nan) (isOther : other ≠ .nan)
    (atMost : part.rank ≤ other.rank)
    (notNegative : ∀ whole, total = .ok whole → whole.lt (.finite 0) = false)
    (ofPart : percentOf (.ok part) total = .ok percentage)
    (ofOther : percentOf (.ok other) total = .ok another) (isNumber : percentage ≠ .nan)
    (isAnother : another ≠ .nan) : percentage.rank ≤ another.rank := by
  obtain ⟨whole, share, isWhole, isShare, rfl⟩ := percentOf_eq_ok.mp ofPart
  obtain ⟨same, quotient, isSame, isQuotient, rfl⟩ := percentOf_eq_ok.mp ofOther
  obtain rfl := Except.ok.inj (isWhole.symm.trans isSame)
  have less := PyFloat.rank_div isPart isOther atMost (notNegative whole isWhole) isShare isQuotient
    (share_ne_nan isNumber) (share_ne_nan isAnother)
  exact PyFloat.rank_percent (share_ne_nan isNumber) (share_ne_nan isAnother) less

end Percentages

/-! ### Differences -/

section Differences

variable {total free : Json} {difference : PyFloat}

theorem finite_of_pyFloat {value : Json} {number : PyFloat} (isNumber : value.pyFloat = .ok number)
    (notText : ∀ text, value ≠ .str text) : ∃ found, number = .finite found := by
  cases value with
  | bool value => exact ⟨_, (Except.ok.inj isNumber).symm⟩
  | int value =>
      rw [Json.pyFloat] at isNumber
      split at isNumber
      · exact ⟨_, (Except.ok.inj isNumber).symm⟩
      · cases isNumber
  | float value => exact ⟨_, (Except.ok.inj isNumber).symm⟩
  | str text => exact absurd rfl (notText text)
  | null => cases isNumber
  | arr items => cases isNumber
  | obj fields => cases isNumber

theorem finite_sub (whole part : ℚ) :
    (PyFloat.finite whole).sub (.finite part) = .ofRat (whole - part) := by
  rw [sub_eq_add_neg]
  rfl

theorem floatSub_eq_ok {whole : ℚ} (notText : ∀ text, free ≠ .str text)
    (found : (do return (PyFloat.finite whole).sub (← free.pyFloat) : Except PyError PyFloat) =
      .ok difference) : ∃ part, free.pyFloat = .ok (.finite part) ∧ difference = .ofRat (whole - part) := by
  obtain ⟨number, isFree, same⟩ := Result.bind_eq_ok.mp found
  obtain ⟨part, rfl⟩ := finite_of_pyFloat isFree notText
  exact ⟨part, isFree, by rw [← Result.pure_eq_ok.mp same, finite_sub]⟩

theorem subFloat_eq_ok {part : ℚ} (notText : ∀ text, total ≠ .str text)
    (found : (do return (← total.pyFloat).sub (.finite part) : Except PyError PyFloat) =
      .ok difference) : ∃ whole, total.pyFloat = .ok (.finite whole) ∧
        difference = .ofRat (whole - part) := by
  obtain ⟨number, isTotal, same⟩ := Result.bind_eq_ok.mp found
  obtain ⟨whole, rfl⟩ := finite_of_pyFloat isTotal notText
  exact ⟨whole, isTotal, by rw [← Result.pure_eq_ok.mp same, finite_sub]⟩

theorem differenceFloat_number (found : differenceFloat total free = .ok difference) :
    difference ≠ .nan ∧ ∀ text, total ≠ .str text := by
  have ofInt : ∀ value : Int, (Json.int value).pyFloat = .ok difference → difference ≠ .nan := by
    intro value isNumber
    obtain ⟨_, rfl⟩ := finite_of_pyFloat isNumber (by simp)
    simp
  have fromFloat : ∀ (whole : ℚ) (free : Json), (∀ text, free ≠ .str text) →
      (do return (PyFloat.finite whole).sub (← free.pyFloat) : Except PyError PyFloat) = .ok difference →
        difference ≠ .nan := by
    intro whole free notText found
    obtain ⟨_, _, rfl⟩ := floatSub_eq_ok notText found
    exact PyFloat.ofRat_ne_nan _
  have ofFloat : ∀ (total : Json) (part : ℚ), (∀ text, total ≠ .str text) →
      (do return (← total.pyFloat).sub (.finite part) : Except PyError PyFloat) = .ok difference →
        difference ≠ .nan := by
    intro total part notText found
    obtain ⟨_, _, rfl⟩ := subFloat_eq_ok notText found
    exact PyFloat.ofRat_ne_nan _
  cases total with
  | float whole =>
      refine ⟨?_, by simp⟩
      cases free with
      | float part | int part | bool part => exact fromFloat whole _ (by simp) found
      | _ => cases found
  | int whole | bool whole =>
      refine ⟨?_, by simp⟩
      cases free with
      | float part => exact ofFloat _ part (by simp) found
      | int part | bool part => exact ofInt _ found
      | _ => cases found
  | _ => cases found

/-- A total that is not negative, where it is a number. -/
def NotNegative (total : Json) : Prop :=
  ∀ number, total.pyFloat = .ok number → number.lt (.finite 0) = false

/-- **A difference of integers grows** as what is subtracted shrinks. -/
theorem differenceFloat_int {total less more : Int} (least : 0 ≤ less) (atMost : less ≤ more)
    (inRange : |(total : ℚ)| < PyFloat.limit)
    (found : differenceFloat (.int total) (.int more) = .ok difference) :
    ∃ other, differenceFloat (.int total) (.int less) = .ok other ∧ difference.rank ≤ other.rank := by
  have isDifference : (Json.int (total - more)).pyFloat = .ok difference := found
  rw [Json.pyFloat] at isDifference
  split at isDifference
  · rename_i moreIn
    obtain rfl := Except.ok.inj isDifference
    have notLess : ((total - more : Int) : ℚ) ≤ ((total - less : Int) : ℚ) := by exact_mod_cast (by omega)
    have notMore : ((total - less : Int) : ℚ) ≤ (total : ℚ) := by exact_mod_cast (by omega)
    have lessIn : |((total - less : Int) : ℚ)| < PyFloat.limit := by
      rw [abs_lt] at moreIn inRange ⊢
      exact ⟨moreIn.1.trans_le notLess, notMore.trans_lt inRange.2⟩
    refine ⟨.finite (PyFloat.double ((total - less : Int) : ℚ)), ?_, ?_⟩
    · show (Json.int (total - less)).pyFloat = _
      rw [Json.pyFloat, if_pos lessIn]
    · exact WithBot.coe_le_coe.mpr (WithTop.coe_le_coe.mpr (PyFloat.double_mono notLess))
  · cases isDifference

/-- **A difference from a float grows** as what is subtracted shrinks. -/
theorem differenceFloat_float {total less more : ℚ} (atMost : less ≤ more)
    (found : differenceFloat (.float total) (.float more) = .ok difference) :
    ∃ other, differenceFloat (.float total) (.float less) = .ok other ∧ difference.rank ≤ other.rank := by
  have notText : ∀ text, Json.float more ≠ .str text := by simp
  obtain ⟨_, same, rfl⟩ := floatSub_eq_ok notText found
  obtain rfl := PyFloat.finite.inj (Except.ok.inj same)
  refine ⟨.ofRat (total - less), ?_, PyFloat.rank_ofRat (sub_le_sub_left atMost total)⟩
  rw [← finite_sub]
  rfl

theorem usage_grows {total free fresh : Json} {value : PyFloat} (notNegative : NotNegative total)
    (grows : ∀ difference, differenceFloat total free = .ok difference →
      ∃ other, differenceFloat total fresh = .ok other ∧ difference.rank ≤ other.rank)
    (divided : percentOf (differenceFloat total free) total.pyFloat = .ok value)
    (isNumber : value ≠ .nan) :
    ∃ other, percentOf (differenceFloat total fresh) total.pyFloat = .ok other ∧
      value.rank ≤ other.rank := by
  obtain ⟨difference, isDifference, _⟩ := Result.bind_eq_ok.mp divided
  obtain ⟨next, isNext, atLeast⟩ := grows difference isDifference
  rw [isDifference] at divided
  obtain ⟨number, _, isTotal, _⟩ := percentOf_eq_ok.mp divided
  obtain ⟨isDifferent, notText⟩ := differenceFloat_number isDifference
  obtain ⟨whole, rfl⟩ := finite_of_pyFloat isTotal notText
  have isNumberNext := (differenceFloat_number isNext).1
  obtain ⟨other, dividedOther, otherNumber⟩ := percentOf_returns divided isNumber isNumberNext
    (.inr ⟨whole, isTotal⟩)
  refine ⟨other, by rw [isNext, dividedOther], ?_⟩
  exact percentOf_rank isDifferent isNumberNext atLeast notNegative divided dividedOther isNumber
    otherNumber

end Differences

end CosMonitor
