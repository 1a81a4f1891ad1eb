import Outliner.Proofs.Calendar.WallTimes
import Outliner.Proofs.Calendar.WrittenDays
import Outliner.Proofs.History
import Outliner.Proofs.Query.DayOrder
import Outliner.Proofs.Query.SingleFilter
import Outliner.Search.Match

/-!
Contract: attributes that hold a date, or a date and a local time, compared with a day.

Owns: that dates are compared in the order of the calendar, and that a local time belongs to the
day it is written with, except one that the clock skips.

Main statements: `dates_compare`, `local_time_in_day`.

Does not own: reading the values (`Proofs.Calendar.WrittenDays`) and the spans of the days
(`Proofs.Calendar.DaySpans`, `Proofs.Calendar.WallTimes`).
-/

namespace Outliner

open Outliner.Calendar Outliner.Query Outliner.Search Outliner.Text Outliner.Numeral

/-! ## Days as values of a query -/

namespace Calendar.Date

variable {date : Date}

theorem HasPlainYear.isInner (plain : date.HasPlainYear) : date.IsInner := by
  obtain ⟨notBefore, notAfter⟩ := plain
  have lower := yearStart_yearOf_le date.dayNumber
  have upper := lt_yearStart_succ_yearOf date.dayNumber
  change yearStart date.year ≤ date.dayNumber at lower
  change date.dayNumber < yearStart (date.year + 1) at upper
  simp only [IsInner, yearStart, firstDay, lastDay] at *
  omega

end Calendar.Date

namespace Search

variable {zone : Zone} {document : Document} {slot : Nat} {node : Node} {key value : String}
  {sign : Comparison} {date day : Date} {instant : Instant}

/-- A query for an attribute compares the instant that its value stands for with a day. -/
theorem exists_day_query (sign : Comparison) (orderly : zone.Orderly)
    (found : document.node? slot = some node) (isKey : IsKeyBefore sign key.toList)
    (has : node.attribute? key = some value)
    (reads : readAttributeInstant zone value.toList = some instant) (plain : day.HasPlainYear)
    (today : Date) :
    ∃ expr, Expr.parse ("@" ++ key ++ sign.spelling ++ String.ofList day.write) = .ok expr ∧
      matchesSlot ⟨document, zone, today⟩ expr slot =
        sign.accepts (DayTest.spanOrder (zone.startOfDay day) (zone.endOfDay day) instant) := by
  have isText : (String.ofList day.write).toList = day.write := String.toList_ofList
  have notEmpty : String.ofList day.write ≠ "" := by
    intro isEmpty
    rw [isEmpty, plain.write_eq] at isText
    simp at isText
  have isDay : ValueTest.ofText sign (String.ofList day.write) = .day ⟨sign, .on day⟩ := by
    unfold ValueTest.ofText
    rw [isText, DayRef.read_write plain]
  have hasForm : (DayRef.on day).HasForm := plain
  refine ⟨.leaf (.attr key (some (.day ⟨sign, .on day⟩))), ?_, ?_⟩
  · rw [parse_attribute_iff isKey (isText.symm ▸ isPlain_day hasForm)
      (isText.symm ▸ endsBefore_day hasForm sign), isDay]
    exact ⟨notEmpty, rfl⟩
  · rw [matchesSlot_leaf found, leafHolds, has, Option.any_some, valueHolds]
    dsimp only
    rw [reads]
    exact DayTest.holds_eq_accepts orderly rfl instant

/-! ## Dates -/

/-- In every zone, an attribute that holds a date passes the query for a sign and another date
exactly if the dates compare so in the calendar. -/
theorem dates_compare {name : String} (isNamed : (name, zone) ∈ Zone.named)
    (found : document.node? slot = some node) (isKey : IsKeyBefore sign key.toList)
    (datePlain : date.HasPlainYear) (dayPlain : day.HasPlainYear)
    (has : node.attribute? key = some (String.ofList date.write)) (today : Date) :
    ∃ expr, Expr.parse ("@" ++ key ++ sign.spelling ++ String.ofList day.write) = .ok expr ∧
      (matchesSlot ⟨document, zone, today⟩ expr slot = true ↔
        sign.test date.dayNumber day.dayNumber = true) := by
  have orderly := named_orderly isNamed
  have reads : readAttributeInstant zone (String.ofList date.write).toList =
      some (zone.startOfDay date) := by
    rw [String.toList_ofList, readAttributeInstant_write datePlain]
  obtain ⟨expr, parsed, compares⟩ :=
    exists_day_query sign orderly found isKey has reads dayPlain today
  refine ⟨expr, parsed, ?_⟩
  rw [compares, DayTest.spanOrder_startOfDay orderly]
  rfl

/-- The day on which the clock goes forward is before the day after it, though it is an hour
short. -/
theorem dates_compare_short :
    let zone := Zone.northAmericanEastern
    let sunday : Date := ⟨19792, by decide⟩
    let monday : Date := ⟨19793, by decide⟩
    let record := (Record.plain (.ofNat 1) "a" .last .last).bindAttribute "due" "2024-03-10"
    let document := Operation.run [.addRoot record]
    ("EST5EDT,M3.2.0,M11.1.0", zone) ∈ Zone.named ∧
      IsKeyBefore .lessOrEqual "due".toList ∧ sunday.HasPlainYear ∧ monday.HasPlainYear ∧
      (∃ node, document.node? 0 = some node ∧
        node.attribute? "due" = some (String.ofList sunday.write)) ∧
      ∃ expr, Expr.parse "@due<=2024-03-11" = .ok expr ∧
        matchesSlot ⟨document, zone, sunday⟩ expr 0 = true := by
  intro zone sunday monday record document
  have isNamed : ("EST5EDT,M3.2.0,M11.1.0", zone) ∈ Zone.named := by simp [Zone.named, zone]
  have isKey : IsKeyBefore .lessOrEqual "due".toList := by decide +kernel
  have sundayPlain : sunday.HasPlainYear := by decide +kernel
  have mondayPlain : monday.HasPlainYear := by decide +kernel
  have isText : "@" ++ "due" ++ Comparison.lessOrEqual.spelling ++ String.ofList monday.write =
      "@due<=2024-03-11" := by decide +kernel
  have isAttribute : (document.node? 0).bind (Node.attribute? · "due") =
      some (String.ofList sunday.write) := by decide +kernel
  obtain ⟨node, found, has⟩ := Option.bind_eq_some_iff.mp isAttribute
  obtain ⟨expr, parsed, compares⟩ :=
    dates_compare isNamed found isKey sundayPlain mondayPlain has sunday
  rw [isText] at parsed
  exact ⟨isNamed, isKey, sundayPlain, mondayPlain, ⟨node, found, has⟩, expr, parsed,
    compares.mpr (by decide)⟩

/-! ## Local times -/

/-- A reading of a day lies in that day, or before it if the clock skips the reading but not the
midnight of the day. -/
theorem spanOrder_reading (regular : zone.Regular) (plain : date.HasPlainYear) (time : ClockTime)
    (kept : ∀ next, date.next? = some next → zone.SkipsMidnight next →
      zone.instantOf (time.on date) < Instant.midnight next) :
    DayTest.spanOrder (zone.startOfDay date) (zone.endOfDay date) (zone.instantOf (time.on date)) =
      if zone.offsetOfReading? (time.on date).seconds = none ∧ ¬ zone.SkipsMidnight date then .lt
      else .eq := by
  have inner := plain.isInner
  have isDay : (time.on date).seconds / secondsPerDay = date.dayNumber := by
    have upper := time.secondOfDay_lt
    simp only [ClockTime.on, secondsPerDay] at *
    omega
  -- A reading that is lost is over before its day starts; every other one is covered by the day.
  by_cases lost : zone.offsetOfReading? (time.on date).seconds = none ∧ ¬ zone.SkipsMidnight date
  · rw [if_pos lost]
    exact DayTest.spanOrder_of_before (regular.lies_before_day inner isDay lost.1 lost.2)
  · have notLast : date < Date.last := by
      unfold Date.IsInner at inner
      change date.dayNumber < lastDay
      omega
    obtain ⟨next, isNext, -⟩ := Zone.exists_next? notLast
    obtain ⟨started, notEnded⟩ := regular.lies_in_day inner isNext isDay
      (fun skips => Decidable.of_not_not fun shown => lost ⟨skips, shown⟩) (kept next isNext)
    rw [if_neg lost]
    apply DayTest.spanOrder_of_inside started
    rwa [Zone.endOfDay_of_next? isNext]

/-- In every zone, an attribute that holds a date and a local time, with or without seconds,
belongs to the date it is written with: of the queries with that date, it passes those whose sign
allows equality. A time that the clock skips is taken as universal time and so lies before the
date, unless the midnight of the date is skipped with it. Where the clock skips the next midnight,
only times before that midnight in universal time are meant. -/
theorem local_time_in_day {name : String} (isNamed : (name, zone) ∈ Zone.named)
    (found : document.node? slot = some node) (isKey : IsKeyBefore sign key.toList)
    (plain : date.HasPlainYear) (between : TimeMark) (time : ClockTime)
    (has : node.attribute? key = some (String.ofList (writeReading date between time)))
    (kept : ∀ next, date.next? = some next → zone.SkipsMidnight next →
      zone.instantOf (time.on date) < Instant.midnight next) (today : Date) :
    let lost := zone.offsetOfReading? (time.on date).seconds = none ∧ ¬ zone.SkipsMidnight date
    ∃ expr, Expr.parse ("@" ++ key ++ sign.spelling ++ String.ofList date.write) = .ok expr ∧
      (¬ lost → matchesSlot ⟨document, zone, today⟩ expr slot = sign.accepts .eq) ∧
      (lost → matchesSlot ⟨document, zone, today⟩ expr slot = sign.accepts .lt) := by
  intro lost
  have reads : readAttributeInstant zone (String.ofList (writeReading date between time)).toList =
      some (zone.instantOf (time.on date)) := by
    rw [String.toList_ofList, readAttributeInstant_reading plain]
  obtain ⟨expr, parsed, compares⟩ :=
    exists_day_query sign (named_orderly isNamed) found isKey has reads plain today
  rw [spanOrder_reading (Zone.named_regular isNamed) plain time kept] at compares
  refine ⟨expr, parsed, fun notLost => ?_, fun isLost => ?_⟩
  · rw [compares, if_neg notLost]
  · rw [compares, if_pos isLost]

/-- The evening before a midnight that the clock skips belongs to its day up to nine o'clock. -/
theorem local_time_in_day_evening :
    let zone := Zone.brazilian
    let saturday : Date := ⟨20015, by decide⟩
    let time : ClockTime := ⟨20, 59, some 59, by decide⟩
    let record := (Record.plain (.ofNat 1) "a" .last .last).bindAttribute "due"
      "2024-10-19 20:59:59"
    let document := Operation.run [.addRoot record]
    ("BRT3BRST,M10.3.0/0,M2.3.0/0", zone) ∈ Zone.named ∧ IsKeyBefore .equal "due".toList ∧
      saturday.HasPlainYear ∧
      (∃ node, document.node? 0 = some node ∧
        node.attribute? "due" = some (String.ofList (writeReading saturday .blank time))) ∧
      (∀ next, saturday.next? = some next → zone.SkipsMidnight next ∧
        zone.instantOf (time.on saturday) < Instant.midnight next) ∧
      zone.offsetOfReading? (time.on saturday).seconds ≠ none ∧
      ∃ expr, Expr.parse "@due=2024-10-19" = .ok expr ∧
        matchesSlot ⟨document, zone, saturday⟩ expr 0 = true := by
  intro zone saturday time record document
  have isNamed : ("BRT3BRST,M10.3.0/0,M2.3.0/0", zone) ∈ Zone.named := by
    simp [Zone.named, zone]
  have isKey : IsKeyBefore .equal "due".toList := by decide +kernel
  have plain : saturday.HasPlainYear := by decide +kernel
  have isText : "@" ++ "due" ++ Comparison.equal.spelling ++ String.ofList saturday.write =
      "@due=2024-10-19" := by decide +kernel
  have isAttribute : (document.node? 0).bind (Node.attribute? · "due") =
      some (String.ofList (writeReading saturday .blank time)) := by decide +kernel
  obtain ⟨node, found, has⟩ := Option.bind_eq_some_iff.mp isAttribute
  have kept : ∀ next, saturday.next? = some next → zone.SkipsMidnight next ∧
      zone.instantOf (time.on saturday) < Instant.midnight next := by
    intro next isNext
    have isSunday : saturday.next? = some ⟨20016, by decide⟩ := by decide +kernel
    obtain rfl := Option.some.inj (isSunday.symm.trans isNext)
    decide +kernel
  have shown : zone.offsetOfReading? (time.on saturday).seconds ≠ none := by decide +kernel
  obtain ⟨expr, parsed, belongs, -⟩ := local_time_in_day isNamed found isKey plain .blank time has
    (fun next isNext _ => (kept next isNext).2) saturday
  rw [isText] at parsed
  exact ⟨isNamed, isKey, plain, ⟨node, found, has⟩, kept, shown, expr, parsed,
    belongs fun lost => shown lost.1⟩

/-- A time that the clock skips, when it goes forward at two o'clock, fails the query for its own
date and passes the query for the time before it. The last hours before a midnight that the clock
skips fail the query for their own date and pass the query for the time behind it. -/
theorem local_time_skipped :
    (let zone := Zone.northAmericanEastern
      let sunday : Date := ⟨19792, by decide⟩
      let record := (Record.plain (.ofNat 1) "a" .last .last).bindAttribute "due" "2024-03-10T02:30"
      let document := Operation.run [.addRoot record]
      ("EST5EDT,M3.2.0,M11.1.0", zone) ∈ Zone.named ∧ Date.ofCivil? 2024 3 10 = some sunday ∧
        String.ofList (writeReading sunday .letter ⟨2, 30, none, by decide⟩) = "2024-03-10T02:30" ∧
        ∃ node equal less, document.node? 0 = some node ∧
          node.attribute? "due" = some "2024-03-10T02:30" ∧
          Expr.parse "@due=2024-03-10" = .ok equal ∧ Expr.parse "@due<2024-03-10" = .ok less ∧
          matchesSlot ⟨document, zone, sunday⟩ equal 0 = false ∧
          matchesSlot ⟨document, zone, sunday⟩ less 0 = true) ∧
    (let zone := Zone.brazilian
      let saturday : Date := ⟨20015, by decide⟩
      let record := (Record.plain (.ofNat 1) "a" .last .last).bindAttribute "due" "2024-10-19T22:00"
      let document := Operation.run [.addRoot record]
      ("BRT3BRST,M10.3.0/0,M2.3.0/0", zone) ∈ Zone.named ∧
        Date.ofCivil? 2024 10 19 = some saturday ∧
        String.ofList (writeReading saturday .letter ⟨22, 0, none, by decide⟩) =
          "2024-10-19T22:00" ∧
        ∃ node equal greater, document.node? 0 = some node ∧
          node.attribute? "due" = some "2024-10-19T22:00" ∧
          Expr.parse "@due=2024-10-19" = .ok equal ∧
          Expr.parse "@due>2024-10-19" = .ok greater ∧
          matchesSlot ⟨document, zone, saturday⟩ equal 0 = false ∧
          matchesSlot ⟨document, zone, saturday⟩ greater 0 = true) := by
  constructor
  · intro zone sunday record document
    have isNamed : ("EST5EDT,M3.2.0,M11.1.0", zone) ∈ Zone.named := by simp [Zone.named, zone]
    have plain : sunday.HasPlainYear := by decide +kernel
    have isAttribute : (document.node? 0).bind (Node.attribute? · "due") =
        some "2024-03-10T02:30" := by decide +kernel
    obtain ⟨node, found, has⟩ := Option.bind_eq_some_iff.mp isAttribute
    have reads : readAttributeInstant zone "2024-03-10T02:30".toList =
        some ⟨1710037800, 0, by decide⟩ := by decide +kernel
    have before : DayTest.spanOrder (zone.startOfDay sunday) (zone.endOfDay sunday)
        ⟨1710037800, 0, by decide⟩ = .lt := by decide +kernel
    obtain ⟨equal, parsed, fails⟩ := exists_day_query .equal
      (named_orderly isNamed) found (by decide +kernel) has reads plain sunday
    obtain ⟨less, parsedLess, passes⟩ := exists_day_query .less
      (named_orderly isNamed) found (by decide +kernel) has reads plain sunday
    have isText : String.ofList sunday.write = "2024-03-10" := by decide +kernel
    rw [isText] at parsed parsedLess
    rw [before] at fails passes
    exact ⟨isNamed, by decide +kernel, by decide +kernel, node, equal, less, found, has, parsed,
      parsedLess, fails, passes⟩
  · intro zone saturday record document
    have isNamed : ("BRT3BRST,M10.3.0/0,M2.3.0/0", zone) ∈ Zone.named := by
      simp [Zone.named, zone]
    have plain : saturday.HasPlainYear := by decide +kernel
    have isAttribute : (document.node? 0).bind (Node.attribute? · "due") =
        some "2024-10-19T22:00" := by decide +kernel
    obtain ⟨node, found, has⟩ := Option.bind_eq_some_iff.mp isAttribute
    have reads : readAttributeInstant zone "2024-10-19T22:00".toList =
        some ⟨1729386000, 0, by decide⟩ := by decide +kernel
    have behind : DayTest.spanOrder (zone.startOfDay saturday) (zone.endOfDay saturday)
        ⟨1729386000, 0, by decide⟩ = .gt := by decide +kernel
    obtain ⟨equal, parsed, fails⟩ := exists_day_query .equal
      (named_orderly isNamed) found (by decide +kernel) has reads plain saturday
    obtain ⟨greater, parsedGreater, passes⟩ := exists_day_query .greater
      (named_orderly isNamed) found (by decide +kernel) has reads plain saturday
    have isText : String.ofList saturday.write = "2024-10-19" := by decide +kernel
    rw [isText] at parsed parsedGreater
    rw [behind] at fails passes
    exact ⟨isNamed, by decide +kernel, by decide +kernel, node, equal, greater, found, has, parsed,
      parsedGreater, fails, passes⟩

end Search

end Outliner
