import Mathlib.Logic.ExistsUnique
import Outliner.Proofs.Calendar.DaySpans
import Outliner.Query.DayTest

/-!
Contract: an instant is before, inside or after a day, and the signs ask which of these.

Owns: that the test of a sign is the test of one ordering, and how the tests of one day, and
those of two days, depend on each other.

Main statement: `days_tile`.

Does not own: where the days of a zone start (`Proofs.Calendar.DaySpans`).
-/

namespace Outliner.Query

open Outliner.Calendar

namespace Comparison

/-- Every ordering satisfies exactly one of the signs that are no alternatives of others. -/
theorem existsUnique_accepts (order : Ordering) :
    ∃! sign : Comparison, sign ∈ [less, equal, greater] ∧ sign.accepts order = true := by
  cases order with
  | lt => exact ⟨less, by decide, by rintro (_ | _ | _ | _ | _ | _) <;> decide⟩
  | eq => exact ⟨equal, by decide, by rintro (_ | _ | _ | _ | _ | _) <;> decide⟩
  | gt => exact ⟨greater, by decide, by rintro (_ | _ | _ | _ | _ | _) <;> decide⟩

theorem accepts_lessOrEqual (order : Ordering) :
    lessOrEqual.accepts order = (less.accepts order || equal.accepts order) := by
  cases order <;> rfl

theorem accepts_greaterOrEqual (order : Ordering) :
    greaterOrEqual.accepts order = (greater.accepts order || equal.accepts order) := by
  cases order <;> rfl

theorem accepts_notEqual (order : Ordering) :
    notEqual.accepts order = !equal.accepts order := by
  cases order <;> rfl

end Comparison

namespace DayTest

variable {zone : Zone} {test : DayTest} {today day earlier later : Date}
  {start stop instant : Instant}

/-- How an instant lies to a span: before it, inside it or after it. -/
def spanOrder (start stop instant : Instant) : Ordering :=
  if instant < start then .lt else if instant < stop then .eq else .gt

theorem spanOrder_of_before (before : instant < start) : spanOrder start stop instant = .lt :=
  if_pos before

theorem spanOrder_of_inside (started : start ≤ instant) (before : instant < stop) :
    spanOrder start stop instant = .eq := by
  rw [spanOrder, if_neg (Instant.not_lt.mpr started), if_pos before]

theorem spanOrder_of_after (started : start ≤ instant) (ended : stop ≤ instant) :
    spanOrder start stop instant = .gt := by
  rw [spanOrder, if_neg (Instant.not_lt.mpr started), if_neg (Instant.not_lt.mpr ended)]

/-- The test of a sign against a span asks how the instant lies to the span. -/
theorem holdsOfSpan_eq_accepts (ordered : start < stop) (sign : Comparison) (instant : Instant) :
    holdsOfSpan sign start stop instant = sign.accepts (spanOrder start stop instant) := by
  have notBefore : start ≤ instant ↔ ¬ instant < start := Iff.rfl
  have notInside : stop ≤ instant ↔ ¬ instant < stop := Iff.rfl
  by_cases isBefore : instant < start
  · have isInside : instant < stop := Instant.lt_trans isBefore ordered
    rw [spanOrder_of_before isBefore]
    cases sign <;> simp [holdsOfSpan, Comparison.accepts, notBefore, notInside, isBefore, isInside]
  · by_cases isInside : instant < stop
    · rw [spanOrder_of_inside isBefore isInside]
      cases sign <;>
        simp [holdsOfSpan, Comparison.accepts, notBefore, notInside, isBefore, isInside]
    · rw [spanOrder_of_after isBefore isInside]
      cases sign <;>
        simp [holdsOfSpan, Comparison.accepts, notBefore, notInside, isBefore, isInside]

/-- The test of a sign against a day asks how the instant lies to the day. -/
theorem holds_eq_accepts (orderly : zone.Orderly) (resolves : test.day.resolve today = some day)
    (instant : Instant) :
    test.holds zone today instant =
      test.sign.accepts (spanOrder (zone.startOfDay day) (zone.endOfDay day) instant) := by
  rw [holds, resolves]
  exact holdsOfSpan_eq_accepts (orderly.startOfDay_lt_endOfDay day) test.sign instant

/-- An instant that lies inside a day or before it lies before every later day. -/
theorem spanOrder_of_later (orderly : zone.Orderly) (before : earlier < later)
    (notAfter : spanOrder (zone.startOfDay earlier) (zone.endOfDay earlier) instant ≠ .gt) :
    spanOrder (zone.startOfDay later) (zone.endOfDay later) instant = .lt := by
  have ordered := orderly.startOfDay_lt_endOfDay earlier
  apply spanOrder_of_before
  by_cases ended : zone.endOfDay earlier ≤ instant
  · have started := Instant.le_of_lt (Instant.lt_of_lt_of_le ordered ended)
    exact absurd (spanOrder_of_after started ended) notAfter
  · exact Instant.lt_of_lt_of_le (Instant.not_le.mp ended) (orderly.endOfDay_le_startOfDay before)

/-- An instant that lies inside a day or after it lies after every earlier day. -/
theorem spanOrder_of_earlier (orderly : zone.Orderly) (before : earlier < later)
    (notBefore : spanOrder (zone.startOfDay later) (zone.endOfDay later) instant ≠ .lt) :
    spanOrder (zone.startOfDay earlier) (zone.endOfDay earlier) instant = .gt := by
  cases order : spanOrder (zone.startOfDay earlier) (zone.endOfDay earlier) instant with
  | gt => rfl
  | lt => exact absurd (spanOrder_of_later orderly before (by rw [order]; nofun)) notBefore
  | eq => exact absurd (spanOrder_of_later orderly before (by rw [order]; nofun)) notBefore

/-- The start of a day lies to another day as the days lie to each other. -/
theorem spanOrder_startOfDay (orderly : zone.Orderly) (day other : Date) :
    spanOrder (zone.startOfDay day) (zone.endOfDay day) (zone.startOfDay other) =
      compare other.dayNumber day.dayNumber := by
  rcases Int.lt_trichotomy other.dayNumber day.dayNumber with before | same | behind
  · rw [spanOrder_of_before (orderly.startOfDay_lt before), Int.compare_eq_lt.mpr before]
  · obtain rfl := Date.eq_of_dayNumber same
    rw [spanOrder_of_inside (Instant.le_refl _) (orderly.startOfDay_lt_endOfDay other),
      Int.compare_eq_eq.mpr rfl]
  · rw [spanOrder_of_after (Instant.le_of_lt (orderly.startOfDay_lt behind))
      (orderly.endOfDay_le_startOfDay behind), Int.compare_eq_gt.mpr behind]

/-- In every zone the days tile time: none is empty, and each ends where the next one starts.
So an instant passes exactly one of the tests for before, inside and after a day, the other
tests join or negate these, and of two days an instant that does not lie after the earlier one
lies before the later one. -/
theorem days_tile {name : String} (isNamed : (name, zone) ∈ Zone.named) :
    (∀ day, zone.startOfDay day < zone.endOfDay day ∧
      ∀ next, day.next? = some next → zone.endOfDay day = zone.startOfDay next) ∧
    (∀ (ref : DayRef) today day instant, ref.resolve today = some day →
      let passes := fun sign => (DayTest.mk sign ref).holds zone today instant
      (∃! sign : Comparison, sign ∈ [.less, .equal, .greater] ∧ passes sign = true) ∧
      passes .lessOrEqual = (passes .less || passes .equal) ∧
      passes .greaterOrEqual = (passes .greater || passes .equal) ∧
      passes .notEqual = !passes .equal) ∧
    (∀ (first second : DayRef) today earlier later instant,
      first.resolve today = some earlier → second.resolve today = some later → earlier < later →
      let passesFirst := fun sign => (DayTest.mk sign first).holds zone today instant
      let passesSecond := fun sign => (DayTest.mk sign second).holds zone today instant
      (passesFirst .lessOrEqual = true → passesSecond .less = true) ∧
      (passesSecond .greaterOrEqual = true → passesFirst .greater = true) ∧
      ¬ (passesFirst .equal = true ∧ passesSecond .equal = true)) := by
  have orderly := named_orderly isNamed
  refine ⟨fun day => ⟨orderly.startOfDay_lt_endOfDay day, fun _ => Zone.endOfDay_of_next?⟩, ?_, ?_⟩
  · intro ref today day instant resolves passes
    have isOrder : ∀ sign, passes sign =
        sign.accepts (spanOrder (zone.startOfDay day) (zone.endOfDay day) instant) :=
      fun sign => holds_eq_accepts orderly resolves instant
    simp only [isOrder]
    exact ⟨Comparison.existsUnique_accepts _, Comparison.accepts_lessOrEqual _,
      Comparison.accepts_greaterOrEqual _, Comparison.accepts_notEqual _⟩
  · intro first second today earlier later instant isFirst isSecond before passesFirst passesSecond
    have orderFirst : ∀ sign, passesFirst sign =
        sign.accepts (spanOrder (zone.startOfDay earlier) (zone.endOfDay earlier) instant) :=
      fun sign => holds_eq_accepts orderly isFirst instant
    have orderSecond : ∀ sign, passesSecond sign =
        sign.accepts (spanOrder (zone.startOfDay later) (zone.endOfDay later) instant) :=
      fun sign => holds_eq_accepts orderly isSecond instant
    simp only [orderFirst, orderSecond]
    refine ⟨fun notAfter => ?_, fun notBefore => ?_, fun both => ?_⟩
    · rw [spanOrder_of_later orderly before (by simpa [Comparison.accepts] using notAfter)]
      rfl
    · rw [spanOrder_of_earlier orderly before (by simpa [Comparison.accepts] using notBefore)]
      rfl
    · have inside := beq_iff_eq.mp both.1
      have later := spanOrder_of_later orderly before (by rw [inside]; nofun)
      rw [later] at both
      exact absurd both.2 (by decide)

/-- The days around a midnight that the clock skips. An instant that is not after the Saturday
is before the Sunday, and the last second of the Saturday passes exactly one test of the
Sunday. -/
theorem days_tile_skipped :
    let zone := Zone.brazilian
    let saturday : Date := ⟨20015, by decide⟩
    let sunday : Date := ⟨20016, by decide⟩
    let noon : Instant := ⟨1729350000, 0, by decide⟩
    let last : Instant := ⟨1729393199, 0, by decide⟩
    ("BRT3BRST,M10.3.0/0,M2.3.0/0", zone) ∈ Zone.named ∧ zone.SkipsMidnight sunday ∧
      saturday.next? = some sunday ∧ zone.endOfDay saturday = zone.startOfDay sunday ∧
      DayRef.resolve sunday (.fromToday (-1)) = some saturday ∧
      DayRef.resolve sunday (.on sunday) = some sunday ∧ saturday < sunday ∧
      (DayTest.mk .lessOrEqual (.fromToday (-1))).holds zone sunday noon = true ∧
      (DayTest.mk .less (.on sunday)).holds zone sunday noon = true ∧
      ∃! sign : Comparison, sign ∈ [.less, .equal, .greater] ∧
        (DayTest.mk sign (.on sunday)).holds zone sunday last = true := by
  intro zone saturday sunday noon last
  have isNamed : ("BRT3BRST,M10.3.0/0,M2.3.0/0", zone) ∈ Zone.named := by simp [Zone.named, zone]
  have skips : zone.SkipsMidnight sunday := by decide +kernel
  have isNext : saturday.next? = some sunday := by decide +kernel
  have isSaturday : DayRef.resolve sunday (.fromToday (-1)) = some saturday := by decide +kernel
  have before : saturday < sunday := by decide
  have notAfter : (DayTest.mk .lessOrEqual (.fromToday (-1))).holds zone sunday noon = true := by
    decide +kernel
  obtain ⟨spans, one, two⟩ := days_tile isNamed
  exact ⟨isNamed, skips, isNext, (spans saturday).2 sunday isNext, isSaturday, rfl, before,
    notAfter, (two _ _ sunday saturday sunday noon isSaturday rfl before).1 notAfter,
    (one (.on sunday) sunday sunday last rfl).1⟩

end DayTest

end Outliner.Query
