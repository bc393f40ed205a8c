import Mathlib.Algebra.Group.Nat.Defs
import ConfigFanout.Timestamp.Parser

-- The text of a point in time stands for that point: what is written with all its digits and a
-- `Z` for UTC is read back part by part, each number up to the sign that follows it.
namespace ConfigFanout

namespace Text

theorem isBlank_of_isDigit {c : Char} (h : c.isDigit = true) : isBlank c = false := by
  rw [Char.isDigit, Bool.and_eq_true, decide_eq_true_eq, decide_eq_true_eq] at h
  have hlow : 48 ≤ c.toNat := h.1
  have hhigh : c.toNat ≤ 57 := h.2
  refine List.any_eq_false.mpr fun run mem => ?_
  simp only [Bool.and_eq_true, decide_eq_true_eq]
  have hrun : run.2 < 48 ∨ 57 < run.1 := by
    revert run
    decide
  omega

theorem skipBlanks_cons {c : Char} (h : isBlank c = false) (rest : List Char) :
    skipBlanks (c :: rest) = c :: rest := by
  rw [skipBlanks, List.dropWhile_cons, h, if_neg Bool.false_ne_true]

end Text

namespace Timestamp

/-! ## Numbers -/

section

variable {width most n : Nat} {stop : Char} {rest : List Char}

theorem isDigit_of_mem_padded {c : Char} (mem : c ∈ padded width n) : c.isDigit = true := by
  rcases List.mem_append.mp mem with hzero | hdigit
  · rw [List.eq_of_mem_replicate hzero]
    rfl
  · exact Nat.isDigit_of_mem_toDigits (by decide) (by decide) hdigit

theorem padded_eq_cons (width n : Nat) :
    ∃ c digits, padded width n = c :: digits ∧ c.isDigit = true := by
  cases hpadded : padded width n with
  | nil =>
    have hnil := (List.append_eq_nil_iff.mp hpadded).2
    exact absurd (congrArg List.length hnil) (Nat.ne_of_gt Nat.length_toDigits_pos)
  | cons c digits =>
    exact ⟨c, digits, rfl, isDigit_of_mem_padded (hpadded ▸ List.mem_cons_self)⟩

theorem length_padded_le (hwidth : width ≤ most) (hpos : 0 < most) (hn : n < 10 ^ most) :
    (padded width n).length ≤ most := by
  have hdigits := (Nat.length_toDigits_le_iff (b := 10) (by decide) hpos).mpr hn
  rw [padded, List.length_append, List.length_replicate]
  omega

theorem number_padded (width n : Nat) : number (padded width n) = n := by
  have hnumber : ∀ digits : List Char, number digits = Nat.ofDigitChars 10 digits 0 := by
    intro digits
    rw [number, Nat.ofDigitChars_eq_foldl]
    congr 1
    funext n c
    rw [Nat.mul_comm]
    rfl
  have hzeros : ∀ k, Nat.ofDigitChars 10 (List.replicate k '0') 0 = 0 := by
    intro k
    rw [Nat.ofDigitChars_eq_foldl]
    induction k with
    | zero => rfl
    | succ k ih => exact ih
  rw [hnumber, padded, Nat.ofDigitChars_eq_foldl, List.foldl_append, ← Nat.ofDigitChars_eq_foldl,
    ← Nat.ofDigitChars_eq_foldl, hzeros, Nat.ofDigitChars_toDigits (by decide) (by decide)]

/-- A number ends where no digit follows. -/
theorem parseDigits_padded (hlength : (padded width n).length ≤ most)
    (hstop : stop.isDigit = false) :
    parseDigits most (padded width n ++ stop :: rest) = .ok (n, stop :: rest) := by
  have hall : (padded width n ++ stop :: rest).takeWhile Char.isDigit = padded width n := by
    rw [List.takeWhile_append_of_pos fun c mem => isDigit_of_mem_padded mem, List.takeWhile_cons,
      hstop, if_neg Bool.false_ne_true, List.append_nil]
  obtain ⟨c, digits, hpadded, hdigit⟩ := padded_eq_cons width n
  have hnumber := number_padded width n
  rw [hpadded] at hall hlength hnumber ⊢
  rw [List.cons_append] at hall ⊢
  simp only [parseDigits, hdigit, if_true, hall, List.take_of_length_le hlength, hnumber]
  rw [← List.cons_append, List.drop_left]

/-- Two digits are a number within limits. -/
theorem parsePart_padded {least greatest : Nat} (hleast : least ≤ n) (hgreatest : n ≤ greatest)
    (hn : n < 100) (hstop : stop.isDigit = false) :
    parsePart least greatest (padded 2 n ++ stop :: rest) = .ok (n, stop :: rest) := by
  have hskip : Text.skipBlanks (padded 2 n ++ stop :: rest) = padded 2 n ++ stop :: rest := by
    obtain ⟨c, digits, hpadded, hdigit⟩ := padded_eq_cons 2 n
    rw [hpadded, List.cons_append, Text.skipBlanks_cons (Text.isBlank_of_isDigit hdigit)]
  have hdigits : parseDigits 2 (padded 2 n ++ stop :: rest) = .ok (n, stop :: rest) :=
    parseDigits_padded (length_padded_le (Nat.le_refl 2) (by decide) hn) hstop
  rw [parsePart, hskip, hdigits]
  exact if_pos ⟨hleast, hgreatest⟩

theorem afterSign_cons {sign : Char} (h : Text.isBlank sign = false) (rest : List Char) :
    afterSign sign (sign :: rest) = .ok rest := by
  simp only [afterSign, Text.skipBlanks_cons h, if_true]

theorem afterDate_cons (rest : List Char) : afterDate ('T' :: rest) = .ok rest := rfl

end

/-! ## Years -/

/-- A year that clocks show has its sign and digits. -/
theorem parseYear_yearText {year : Int} (hfirst : CalendarDate.firstYear ≤ year)
    (hlast : year ≤ CalendarDate.lastYear) (rest : List Char) :
    parseYear (yearText year ++ '-' :: rest) = .ok (year, '-' :: rest) := by
  have hlow : -262143 ≤ year := hfirst
  have hhigh : year ≤ 262142 := hlast
  have hlimits : -Int.pow 2 31 ≤ year ∧ year < Int.pow 2 31 := by
    have hpow : Int.pow 2 31 = 2147483648 := by decide
    omega
  have hstop : '-'.isDigit = false := by decide
  -- With a sign there may be any number of digits.
  have hsigned : parseDigits (padded 4 year.natAbs ++ '-' :: rest).length
      (padded 4 year.natAbs ++ '-' :: rest) = .ok (year.natAbs, '-' :: rest) :=
    parseDigits_padded (by simp) hstop
  by_cases negative : year < 0
  · have htext : yearText year = '-' :: padded 4 year.natAbs := if_pos negative
    have hyear : -(year.natAbs : Int) = year := by omega
    rw [parseYear, htext, List.cons_append, Text.skipBlanks_cons (by decide)]
    simp only [hsigned, Except.map, hyear, bind, Except.bind, if_pos hlimits]
    rfl
  · have hyear : (year.natAbs : Int) = year := by omega
    by_cases long : 9999 < year
    · have htext : yearText year = '+' :: padded 4 year.natAbs := by
        rw [yearText, if_neg negative, if_pos long]
      rw [parseYear, htext, List.cons_append, Text.skipBlanks_cons (by decide)]
      simp only [hsigned, Except.map, hyear, bind, Except.bind, if_pos hlimits]
      rfl
    · have htext : yearText year = padded 4 year.natAbs := by
        rw [yearText, if_neg negative, if_neg long]
      have hdigits : parseDigits 4 (padded 4 year.natAbs ++ '-' :: rest) =
          .ok (year.natAbs, '-' :: rest) :=
        parseDigits_padded (length_padded_le (Nat.le_refl 4) (by decide) (by omega)) hstop
      obtain ⟨c, digits, hpadded, hdigit⟩ := padded_eq_cons 4 year.natAbs
      have hminus : c ≠ '-' := fun heq => absurd (heq ▸ hdigit) (by decide)
      have hplus : c ≠ '+' := fun heq => absurd (heq ▸ hdigit) (by decide)
      rw [hpadded, List.cons_append] at hdigits
      rw [parseYear, htext, hpadded, List.cons_append,
        Text.skipBlanks_cons (Text.isBlank_of_isDigit hdigit)]
      simp only [bind, Except.bind]
      split
      · next heq => exact absurd (List.cons.inj heq).1 hminus
      · next heq => exact absurd (List.cons.inj heq).1 hplus
      · simp only [hdigits, Except.map, hyear, if_pos hlimits]
        rfl

/-! ## Points in time -/

/-- A clock that shows UTC shows the point in time that it is. -/
theorem toUtc_zero (time : Timestamp) : time.toUtc 0 = some time := by
  have hhour := time.hour.isLt
  have hminute := time.minute.isLt
  have hearly : ¬ ((time.hour : Int) * 60 + time.minute - 0 < 0) := by omega
  have hlate : ¬ (1440 ≤ (time.hour : Int) * 60 + time.minute - 0) := by omega
  have hofDay : (((time.hour : Int) * 60 + time.minute - 0) % 1440).toNat =
      time.hour * 60 + time.minute := by omega
  simp only [toUtc, hearly, hlate, if_false, time.isShown, dite_true, hofDay, Option.some.injEq]
  have hhours : (time.hour * 60 + time.minute : Nat) / 60 = time.hour := by omega
  have hminutes : (time.hour * 60 + time.minute : Nat) % 60 = time.minute := by omega
  simp only [hhours, hminutes, Fin.eta]

theorem ofClock_zero (time : Timestamp) :
    ofClock time.date.year time.date.month time.date.day time.hour time.minute time.second
      time.nanosecond 0 = .ok time := by
  have hparts : (time.hour : Nat) < 24 ∧ (time.minute : Nat) < 60 ∧ (time.second : Nat) < 61 ∧
      (time.nanosecond : Nat) < 1000000000 :=
    ⟨time.hour.isLt, time.minute.isLt, time.second.isLt, time.nanosecond.isLt⟩
  have hshown : time.date.isWithinLimits = true ∧ (0 : Int).natAbs < 1440 :=
    ⟨time.isShown, by decide⟩
  simp only [ofClock, CalendarDate.ofParts?_eq_some, dif_pos hparts, dif_pos hshown, Fin.eta,
    toUtc_zero]

/-- The point in time without the fraction of a second. -/
def wholeSecond (time : Timestamp) : Timestamp :=
  { time with nanosecond := noFraction }

@[simp] theorem render_wholeSecond (time : Timestamp) : time.wholeSecond.render = time.render :=
  rfl

/-- What is written of a point in time is read as that point, to the second. -/
theorem parse_render (time : Timestamp) : parse time.render = .ok time.wholeSecond := by
  obtain ⟨hmonth, hmonth', hday, hday'⟩ := time.date.isDay
  have hdays : daysInMonth time.date.year time.date.month ≤ 31 := by
    unfold daysInMonth
    split <;> (try split) <;> omega
  have hhour := time.hour.isLt
  have hminute := time.minute.isLt
  have hsecond := time.second.isLt
  obtain ⟨hfirst, hlast⟩ : CalendarDate.firstYear ≤ time.date.year ∧
      time.date.year ≤ CalendarDate.lastYear := by
    simpa [CalendarDate.isWithinLimits] using time.isShown
  have hdash : Text.isBlank '-' = false := by decide
  have hcolon : Text.isBlank ':' = false := by decide
  have hmonths : ∀ rest, parsePart 1 12 (padded 2 time.date.month ++ '-' :: rest) =
      .ok (time.date.month, '-' :: rest) :=
    fun _ => parsePart_padded hmonth hmonth' (by omega) (by decide)
  have hdates : ∀ rest, parsePart 1 31 (padded 2 time.date.day ++ 'T' :: rest) =
      .ok (time.date.day, 'T' :: rest) :=
    fun _ => parsePart_padded hday (by omega) (by omega) (by decide)
  have hhours : ∀ rest, parsePart 0 23 (padded 2 time.hour ++ ':' :: rest) =
      .ok (time.hour, ':' :: rest) :=
    fun _ => parsePart_padded (Nat.zero_le _) (by omega) (by omega) (by decide)
  have hminutes : ∀ rest, parsePart 0 59 (padded 2 time.minute ++ ':' :: rest) =
      .ok (time.minute, ':' :: rest) :=
    fun _ => parsePart_padded (Nat.zero_le _) (by omega) (by omega) (by decide)
  have hseconds : ∀ rest, parsePart 0 60 (padded 2 time.second ++ 'Z' :: rest) =
      .ok (time.second, 'Z' :: rest) :=
    fun _ => parsePart_padded (Nat.zero_le _) (by omega) (by omega) (by decide)
  unfold parse render
  rw [String.toList_ofList]
  simp only [List.append_assoc, List.cons_append, bind, Except.bind,
    parseYear_yearText hfirst hlast, afterSign_cons hdash, hmonths, hdates, afterDate_cons, hhours,
    afterSign_cons hcolon, hminutes, hseconds]
  exact ofClock_zero time.wholeSecond

end Timestamp

end ConfigFanout
