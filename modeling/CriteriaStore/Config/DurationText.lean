import CriteriaStore.Config.Duration
import CriteriaStore.Decimal.Reading
import CriteriaStore.Text.Blank
/-!
# Durations as text

A duration is written as amounts of units from years down to nanoseconds, as in `1h 30m`; amounts of zero are
left out, and no time at all is `0s`.

Reading is more lenient: amounts stand in any order and number, blanks may stand around and inside numbers, units
have long and short names, and a number may have a fraction that is a whole number of grains. Every number, every
product with a unit and the total must fit a 64-bit word.

* `total_divide` and `Duration.total_amounts` say that the written amounts add up to the duration.
* `Amount.length_lt_of_read?` says that reading an amount uses up some text, so that reading all of them ends.
-/

namespace CriteriaStore

namespace TimeUnit

/-- The unit with a name. -/
def ofName? : String → Option TimeUnit
  | "ns" | "nsec" | "nanos" => some nanosecond
  | "us" | "usec" | "µs" => some microsecond
  | "ms" | "msec" | "millis" => some millisecond
  | "s" | "sec" | "secs" | "second" | "seconds" => some second
  | "m" | "min" | "mins" | "minute" | "minutes" => some minute
  | "h" | "hr" | "hrs" | "hour" | "hours" => some hour
  | "d" | "day" | "days" => some day
  | "w" | "wk" | "wks" | "week" | "weeks" => some week
  | "M" | "month" | "months" => some month
  | "y" | "yr" | "yrs" | "year" | "years" => some year
  | _ => none

/-- The name with which a number of units is written. -/
def label (n : Nat) : TimeUnit → String
  | nanosecond => "ns"
  | microsecond => "us"
  | millisecond => "ms"
  | second => "s"
  | minute => "m"
  | hour => "h"
  | day => if n = 1 then "day" else "days"
  | week => if n = 1 then "week" else "weeks"
  | month => if n = 1 then "month" else "months"
  | year => if n = 1 then "year" else "years"

/-- The units in which durations are written, longest first. -/
def written : List TimeUnit :=
  [year, month, day, hour, minute, second, millisecond, microsecond, nanosecond]

/-- The greedy division of a number of nanoseconds into units. -/
def divide : List TimeUnit → Nat → List (Nat × TimeUnit)
  | [], _ => []
  | u :: us, n => (n / u.nanoseconds, u) :: divide us (n % u.nanoseconds)

/-- How many nanoseconds a number of units lasts. -/
def lasting (a : Nat × TimeUnit) : Nat := a.1 * a.2.nanoseconds

/-- How many nanoseconds amounts last together. -/
def total : List (Nat × TimeUnit) → Nat
  | [] => 0
  | a :: rest => lasting a + total rest

/-- A division that goes down to nanoseconds loses nothing. -/
theorem total_divide {us : List TimeUnit} (n : Nat) (h : us.getLast? = some nanosecond) :
    total (divide us n) = n := by
  induction us generalizing n with
  | nil => simp at h
  | cons u us ih =>
    cases us with
    | nil =>
      simp only [List.getLast?_singleton, Option.some.injEq] at h
      simp [divide, total, lasting, h, nanoseconds]
    | cons v vs =>
      rw [List.getLast?_cons_cons] at h
      have := ih (n % u.nanoseconds) h
      rw [divide, total, this]
      exact Nat.div_add_mod' n u.nanoseconds

end TimeUnit

/-- A number of units, possibly with a fraction: its digits as a number, and how many they are. -/
structure Amount where
  whole : Nat
  fraction : Option (Nat × Nat)
  unit : TimeUnit
  deriving Repr, DecidableEq

namespace Amount

/-- A number, when it fits a word. -/
def word? (n : Nat) : Option Nat := if n < UInt64.size then some n else none

/-- What a number consists of: digits, and blanks between them. -/
def isNumeral (c : Char) : Bool := c.isDigit || Text.isBlank c

/-- What a unit's name consists of. -/
def isLetter (c : Char) : Bool := c.isAlpha || c == 'µ'

/-- The digits among the characters of a number. -/
def digits (cs : List Char) : List Char := cs.filter Char.isDigit

/-- A fraction with its point, if one stands here, and what follows it. -/
def splitFraction? : List Char → Option (Option (Nat × Nat) × List Char)
  | '.' :: cs =>
    let ds := digits (cs.takeWhile isNumeral)
    match word? (Decimal.natOfDigits ds), word? (Nat.pow 10 ds.length) with
    | some n, some _ => if ds.isEmpty then none else some (some (n, ds.length), cs.dropWhile isNumeral)
    | _, _ => none
  | cs => some (none, cs)

/-- An amount that starts here, and what follows it. -/
def read? : List Char → Option (Amount × List Char)
  | [] => none
  | c :: cs =>
    if c.isDigit then
      match word? (Decimal.natOfDigits (digits (c :: cs.takeWhile isNumeral))),
        splitFraction? (cs.dropWhile isNumeral) with
      | some whole, some (fraction, rest) =>
        match TimeUnit.ofName? (String.ofList (rest.takeWhile isLetter)) with
        | some unit => some (⟨whole, fraction, unit⟩, rest.dropWhile isLetter)
        | none => none
      | _, _ => none
    else none

theorem length_dropWhile_le {α : Type} (p : α → Bool) (l : List α) :
    (l.dropWhile p).length ≤ l.length :=
  (List.dropWhile_sublist p).length_le

theorem length_splitFraction? {cs rest : List Char} {f : Option (Nat × Nat)}
    (h : splitFraction? cs = some (f, rest)) : rest.length ≤ cs.length := by
  unfold splitFraction? at h
  split at h
  · rename_i tail
    dsimp only at h
    split at h
    · split at h
      · simp at h
      · simp only [Option.some.injEq, Prod.mk.injEq] at h
        rw [← h.2]
        exact Nat.le_succ_of_le (length_dropWhile_le _ tail)
    · simp at h
  · simp only [Option.some.injEq, Prod.mk.injEq] at h
    exact Nat.le_of_eq (congrArg List.length h.2.symm)

/-- Reading an amount leaves a shorter text. -/
theorem length_lt_of_read? {cs rest : List Char} {a : Amount} (h : read? cs = some (a, rest)) :
    rest.length < cs.length := by
  unfold read? at h
  split at h
  · simp at h
  · rename_i c tail
    split at h
    · split at h
      · rename_i whole fraction middle _ hm
        split at h
        · simp only [Option.some.injEq, Prod.mk.injEq] at h
          rw [← h.2]
          exact Nat.lt_succ_of_le (Nat.le_trans (length_dropWhile_le _ middle)
            (Nat.le_trans (length_splitFraction? hm) (length_dropWhile_le _ tail)))
        · simp at h
      · simp at h
    · simp at h

/-- The amounts of a text, blanks between them skipped. -/
def readAll? (cs : List Char) : Option (List Amount) :=
  match hs : cs.dropWhile Text.isBlank with
  | [] => some []
  | start :: more =>
    match h : read? (start :: more) with
    | some (a, rest) =>
      have : rest.length < cs.length :=
        Nat.lt_of_lt_of_le (length_lt_of_read? h) (hs ▸ length_dropWhile_le Text.isBlank cs)
      (readAll? rest).map (a :: ·)
    | none => none
termination_by cs.length

end Amount

namespace Duration

/-- A duration with the whole part of an amount more. -/
def addWhole? (d : Duration) (a : Amount) : Option Duration :=
  (Amount.word? (a.whole * a.unit.grains a.unit.grain)).bind fun n => d.add? n a.unit.grain

/-- A duration with the fraction of an amount more, which must be a number of whole grains. -/
def addFraction? (d : Duration) (a : Amount) : Option Duration :=
  match a.fraction with
  | none => some d
  | some (n, places) =>
    match a.unit.fractionGrain? with
    | none => none
    | some g => (Amount.word? (n * a.unit.grains g)).bind fun n =>
      if n % Nat.pow 10 places = 0 then d.add? (n / Nat.pow 10 places) g else none

/-- A duration with an amount more. -/
def addAmount? (d : Duration) (a : Amount) : Option Duration := (d.addWhole? a).bind (addFraction? · a)

/-- The duration of a text. A zero may stand without a unit; otherwise there is at least one amount. -/
def read? (s : String) : Option Duration :=
  if s = "0" then some zero
  else
    match Amount.readAll? s.toList with
    | some (a :: as) => (a :: as).foldlM addAmount? zero
    | _ => none

/-- The amounts with which a duration is written. -/
def amounts (d : Duration) : List (Nat × TimeUnit) :=
  (TimeUnit.divide TimeUnit.written d.nanoseconds).filter fun (n, _) => n ≠ 0

theorem total_filter_ne_zero (l : List (Nat × TimeUnit)) :
    TimeUnit.total (l.filter fun (n, _) => n ≠ 0) = TimeUnit.total l := by
  induction l with
  | nil => rfl
  | cons a rest ih =>
    obtain ⟨n, u⟩ := a
    by_cases h : n = 0
    · simpa [TimeUnit.total, TimeUnit.lasting, h] using ih
    · simpa [TimeUnit.total, h] using ih

/-- The written amounts add up to the duration. -/
theorem total_amounts (d : Duration) : TimeUnit.total d.amounts = d.nanoseconds :=
  (total_filter_ne_zero _).trans (TimeUnit.total_divide _ rfl)

/-- The text of a duration. -/
def render (d : Duration) : String :=
  if d.amounts.isEmpty then "0s"
  else String.intercalate " " (d.amounts.map fun (n, u) => toString n ++ u.label n)

end Duration

end CriteriaStore
