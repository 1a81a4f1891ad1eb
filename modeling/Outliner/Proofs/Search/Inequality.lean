import Outliner.Proofs.Document.Alike
import Outliner.Proofs.History
import Outliner.Proofs.Query.DayOrder
import Outliner.Proofs.Query.SingleFilter
import Outliner.Search.Match

/-!
Contract: the filters for inequality and for equality with the same value.

Owns: that of the two, a node matches exactly one where its value and the value of the query are
compared, and neither where they are not: for an attribute that the node does not have, and for a
day that the calendar does not reach from today.

Main statement: `Reachable.inequality_complements`.

Does not own: what is read of such a query (`Proofs.Query.SingleFilter`).
-/

namespace Outliner

open Outliner.Calendar Outliner.Query Outliner.Search

/-! ## Tests of values -/

namespace Query

theorem Comparison.test_notEqual {α : Type} [Ord α] (left right : α) :
    Comparison.notEqual.test left right = !Comparison.equal.test left right :=
  Comparison.accepts_notEqual _

/-- On a day that exists the two tests are opposite. -/
theorem DayTest.holds_notEqual {ref : DayRef} {today : Date}
    (reached : ref.resolve today ≠ none) (zone : Zone) (instant : Instant) :
    (DayTest.mk .notEqual ref).holds zone today instant =
      !(DayTest.mk .equal ref).holds zone today instant := by
  obtain ⟨day, resolves⟩ := Option.ne_none_iff_exists'.mp reached
  unfold holds
  rw [resolves]
  rfl

/-- A day out of range is met by no comparator. -/
theorem DayTest.holds_of_unreached {test : DayTest} {today : Date}
    (unreached : test.day.resolve today = none) (zone : Zone) (instant : Instant) :
    test.holds zone today instant = false := by
  unfold holds
  rw [unreached]

end Query

namespace Search

variable {scene : Scene} {slot : Nat} {node : Node} {subject : FilterSubject} {value : String}
  {equal different : Expr}

/-- A text names a day by its distance from today, and the calendar does not reach that day. -/
def Unreached (today : Date) (value : String) : Prop :=
  ∃ ref, DayRef.read value.toList = some ref ∧ ref.resolve today = none

/-- The test for inequality is the opposite of the test for equality, unless the values are not
compared; then neither passes. -/
def OppositeUnless (notCompared : Prop) (different equal : Bool) : Prop :=
  (¬ notCompared → different = !equal) ∧ (notCompared → different = false ∧ equal = false)

theorem day_complements {ref : DayRef} (isDay : DayRef.read value.toList = some ref)
    (zone : Zone) (today : Date) (instant : Instant) :
    OppositeUnless (Unreached today value) ((DayTest.mk .notEqual ref).holds zone today instant)
      ((DayTest.mk .equal ref).holds zone today instant) := by
  constructor
  · intro reached
    exact DayTest.holds_notEqual (fun unreached => reached ⟨ref, isDay, unreached⟩) zone instant
  · rintro ⟨other, isOther, unreached⟩
    obtain rfl := Option.some.inj (isDay.symm.trans isOther)
    exact ⟨DayTest.holds_of_unreached unreached zone instant,
      DayTest.holds_of_unreached unreached zone instant⟩

/-- The values of attributes are compared, unless one is an instant and the other a day that the
calendar does not reach. -/
theorem value_complements (scene : Scene) (actual value : String) :
    OppositeUnless
      (Unreached scene.today value ∧
        ∃ instant, readAttributeInstant scene.zone actual.toList = some instant)
      (valueHolds scene actual (.ofText .notEqual value))
      (valueHolds scene actual (.ofText .equal value)) := by
  unfold ValueTest.ofText
  cases isDay : DayRef.read value.toList with
  | none =>
      refine ⟨fun _ => Comparison.test_notEqual actual value, ?_⟩
      rintro ⟨⟨ref, isRef, -⟩, -⟩
      rw [isDay] at isRef
      cases isRef
  | some ref =>
      unfold valueHolds
      dsimp only
      cases readAttributeInstant scene.zone actual.toList with
      | none =>
          refine ⟨fun _ => rfl, ?_⟩
          rintro ⟨-, instant, isInstant⟩
          cases isInstant
      | some instant =>
          obtain ⟨opposite, neither⟩ := day_complements isDay scene.zone scene.today instant
          exact ⟨fun compared => opposite fun unreached => compared ⟨unreached, instant, rfl⟩,
            fun notCompared => neither notCompared.1⟩

/-! ## Filters -/

/-- The filters on numbers are opposite, for any leaf that compares a count. -/
theorem count_complements {leaf : Comparison → Nat → Leaf} {actual : Nat}
    (found : scene.document.node? slot = some node)
    (isCount : ∀ written : WrittenFilter, written.subject = subject →
      written.shape = .leaf (readCountFilter leaf written))
    (holds : ∀ sign count, leafHolds scene slot node (leaf sign count) = sign.test actual count)
    (takes : ∀ sign, subject.Takes sign) (plain : IsPlain value.toList)
    (isEqual : Expr.parse (subject.label ++ "=" ++ value) = .ok equal)
    (isDifferent : Expr.parse (subject.label ++ "!=" ++ value) = .ok different) :
    matchesSlot scene different slot = !matchesSlot scene equal slot := by
  obtain ⟨count, reads, rfl⟩ := exists_count_of_parse isCount (takes .equal) plain
    (Comparison.equal_endsBefore _) isEqual
  obtain ⟨other, readsOther, rfl⟩ := exists_count_of_parse isCount (takes .notEqual) plain
    (Comparison.notEqual_endsBefore _) isDifferent
  obtain rfl := Option.some.inj (reads.symm.trans readsOther)
  rw [matchesSlot_leaf found, matchesSlot_leaf found, holds, holds]
  exact Comparison.test_notEqual actual count

/-- The filters on the times of a node are opposite unless the day is out of range. -/
theorem time_complements {field : TimeField} {instant : Instant}
    (found : scene.document.node? slot = some node)
    (isTime : ∀ written : WrittenFilter, written.subject = subject →
      written.shape = .leaf (readTimeFilter field written))
    (holds : ∀ test, leafHolds scene slot node (.time field test) =
      test.holds scene.zone scene.today instant)
    (takes : ∀ sign, subject.Takes sign) (plain : IsPlain value.toList)
    (isEqual : Expr.parse (subject.label ++ "=" ++ value) = .ok equal)
    (isDifferent : Expr.parse (subject.label ++ "!=" ++ value) = .ok different) :
    OppositeUnless (Unreached scene.today value) (matchesSlot scene different slot)
      (matchesSlot scene equal slot) := by
  obtain ⟨day, reads, rfl⟩ := exists_day_of_parse isTime (takes .equal) plain
    (Comparison.equal_endsBefore _) isEqual
  obtain ⟨other, readsOther, rfl⟩ := exists_day_of_parse isTime (takes .notEqual) plain
    (Comparison.notEqual_endsBefore _) isDifferent
  obtain rfl := Option.some.inj (reads.symm.trans readsOther)
  rw [matchesSlot_leaf found, matchesSlot_leaf found, holds, holds]
  exact day_complements reads scene.zone scene.today instant

/-- The filters on an attribute are opposite unless the attribute is missing, or is an instant
that is compared with a day out of range. -/
theorem attribute_complements {key : String} (found : scene.document.node? slot = some node)
    (isKey : IsKeyBefore .equal key.toList) (plain : IsPlain value.toList)
    (isEqual : Expr.parse ("@" ++ key ++ "=" ++ value) = .ok equal)
    (isDifferent : Expr.parse ("@" ++ key ++ "!=" ++ value) = .ok different) :
    OppositeUnless
      (node.attribute? key = none ∨ Unreached scene.today value ∧ ∃ actual instant,
        node.attribute? key = some actual ∧
          readAttributeInstant scene.zone actual.toList = some instant)
      (matchesSlot scene different slot) (matchesSlot scene equal slot) := by
  have isKeyDifferent : IsKeyBefore .notEqual key.toList := ⟨isKey.1, isKey.2.1, nofun⟩
  obtain ⟨-, rfl⟩ :=
    (parse_attribute_iff isKey plain (Comparison.equal_endsBefore _)).mp isEqual
  obtain ⟨-, rfl⟩ :=
    (parse_attribute_iff isKeyDifferent plain (Comparison.notEqual_endsBefore _)).mp isDifferent
  rw [matchesSlot_leaf found, matchesSlot_leaf found, leafHolds, leafHolds]
  cases has : node.attribute? key with
  | none => exact ⟨fun compared => absurd (.inl rfl) compared, fun _ => ⟨rfl, rfl⟩⟩
  | some actual =>
      obtain ⟨opposite, neither⟩ := value_complements scene actual value
      rw [Option.any_some, Option.any_some]
      constructor
      · intro compared
        apply opposite
        rintro ⟨unreached, instant, isInstant⟩
        exact compared (.inr ⟨unreached, actual, instant, rfl, isInstant⟩)
      · rintro (noValue | ⟨unreached, other, instant, isOther, isInstant⟩)
        · cases noValue
        · obtain rfl := Option.some.inj isOther
          exact neither ⟨unreached, instant, isInstant⟩

end Search

/-- In every reachable document and at every instant, a node matches a filter for inequality with a
value exactly if it does not match the filter for equality with that value, for depths and counts
of children always, for instants unless the value is a day that the calendar does not reach from
today, and for attributes if the node has the attribute, unless its value is an instant and that of
the query such a day. In the other cases it matches neither. -/
theorem Reachable.inequality_complements {document : Document} (reached : Reachable document)
    {slot : Nat} {node : Node} (found : document.node? slot = some node) (zone : Zone)
    (now : Instant) {value : String} (plain : IsPlain value.toList) :
    let scene := Scene.ofNow document zone now
    let parses := fun label sign expr => Expr.parse (label ++ sign ++ value) = .ok expr
    (∀ subject ∈ [FilterSubject.depth, .children], ∀ equal different,
      parses subject.label "=" equal → parses subject.label "!=" different →
        matchesSlot scene different slot = !matchesSlot scene equal slot) ∧
    (∀ subject ∈ [FilterSubject.created, .modified], ∀ equal different,
      parses subject.label "=" equal → parses subject.label "!=" different →
        OppositeUnless (Unreached scene.today value) (matchesSlot scene different slot)
          (matchesSlot scene equal slot)) ∧
    (∀ key, IsKeyBefore .equal key.toList → ∀ equal different,
      parses ("@" ++ key) "=" equal → parses ("@" ++ key) "!=" different →
        OppositeUnless
          (node.attribute? key = none ∨ Unreached scene.today value ∧ ∃ actual instant,
            node.attribute? key = some actual ∧
              readAttributeInstant zone actual.toList = some instant)
          (matchesSlot scene different slot) (matchesSlot scene equal slot)) := by
  intro scene parses
  have found : scene.document.node? slot = some node := found
  obtain ⟨depth, atDepth⟩ := reached.owned.rooted slot ⟨node, found⟩
  have isDepth (sign : Comparison) (count : Nat) :
      leafHolds scene slot node (.depth sign count) = sign.test depth count := by
    have atDepth : scene.document.depth? slot = some depth := atDepth.depth?_eq
    rw [leafHolds, atDepth, Option.any_some]
  refine ⟨?_, ?_, fun key isKey equal different => attribute_complements found isKey plain⟩
  · intro subject isSubject equal different
    simp only [List.mem_cons, List.not_mem_nil, or_false] at isSubject
    rcases isSubject with rfl | rfl
    · exact count_complements found (fun written is => by rw [WrittenFilter.shape, is]) isDepth
        (fun _ => trivial) plain
    · exact count_complements found (fun written is => by rw [WrittenFilter.shape, is])
        (fun _ _ => by rw [leafHolds]) (fun _ => trivial) plain
  · intro subject isSubject equal different
    simp only [List.mem_cons, List.not_mem_nil, or_false] at isSubject
    rcases isSubject with rfl | rfl
    · exact time_complements found (fun written is => by rw [WrittenFilter.shape, is])
        (fun _ => by rw [leafHolds]) (fun _ => trivial) plain
    · exact time_complements found (fun written is => by rw [WrittenFilter.shape, is])
        (fun _ => by rw [leafHolds]) (fun _ => trivial) plain

/-- A value that is no instant differs from yesterday, and so does an instant far ahead. -/
theorem inequality_complements_yesterday :
    let record := (Record.plain (.ofNat 1) "a" .last .last).bindAttribute "due" "soon"
    let document := Operation.run [.addRoot record]
    let now : Instant := ⟨1710072000, 0, by decide⟩
    let scene := Scene.ofNow document .universal now
    Reachable document ∧ IsPlain "-1d".toList ∧ IsKeyBefore .equal "due".toList ∧
      (document.node? 0).bind (Node.attribute? · "due") = some "soon" ∧
      ¬ Unreached scene.today "-1d" ∧
      (∃ different, Expr.parse "c:!=-1d" = .ok different ∧ matchesSlot scene different 0 = true) ∧
      ∃ different, Expr.parse "@due!=-1d" = .ok different ∧
        matchesSlot scene different 0 = true := by
  intro record document now scene
  have reached : Reachable document := .run fun _ _ => trivial
  have plain : IsPlain "-1d".toList := by decide +kernel
  have isKey : IsKeyBefore .equal "due".toList := by decide +kernel
  have isAttribute : (document.node? 0).bind (Node.attribute? · "due") = some "soon" := by
    decide +kernel
  obtain ⟨node, found, has⟩ := Option.bind_eq_some_iff.mp isAttribute
  have isYesterday : DayRef.read "-1d".toList = some (.fromToday (-1)) := by decide +kernel
  have reachedDay : ¬ Unreached scene.today "-1d" := by
    rintro ⟨ref, isRef, unreached⟩
    obtain rfl := Option.some.inj (isYesterday.symm.trans isRef)
    revert unreached
    decide +kernel
  obtain ⟨-, times, attributes⟩ := reached.inequality_complements found .universal now plain
  have created : ∃ equal, Expr.parse "c:=-1d" = .ok equal ∧ matchesSlot scene equal 0 = false :=
    exists_of_map_eq_ok (by decide +kernel)
  have due : ∃ equal, Expr.parse "@due=-1d" = .ok equal ∧ matchesSlot scene equal 0 = false :=
    exists_of_map_eq_ok (by decide +kernel)
  obtain ⟨equalCreated, isEqualCreated, failsCreated⟩ := created
  obtain ⟨equalDue, isEqualDue, failsDue⟩ := due
  obtain ⟨created, isCreated⟩ : ∃ created, Expr.parse "c:!=-1d" = .ok created :=
    exists_of_isOk (by decide +kernel)
  obtain ⟨due, isDue⟩ : ∃ due, Expr.parse "@due!=-1d" = .ok due :=
    exists_of_isOk (by decide +kernel)
  have compared : ¬ (node.attribute? "due" = none ∨ Unreached scene.today "-1d" ∧
      ∃ actual instant, node.attribute? "due" = some actual ∧
        readAttributeInstant .universal actual.toList = some instant) := by
    rw [has]
    rintro (noValue | ⟨unreached, -⟩)
    · cases noValue
    · exact reachedDay unreached
  have opposite := (times .created List.mem_cons_self _ _ isEqualCreated isCreated).1 reachedDay
  rw [failsCreated] at opposite
  have oppositeDue := (attributes "due" isKey _ _ isEqualDue isDue).1 compared
  rw [failsDue] at oppositeDue
  exact ⟨reached, plain, isKey, isAttribute, reachedDay, ⟨created, isCreated, opposite⟩, due,
    isDue, oppositeDue⟩

/-- A day that the calendar does not reach is neither the day on which a node was created nor
another one. -/
theorem inequality_unreached :
    let document := Operation.run [.addRoot (Record.plain (.ofNat 1) "a" .last .last)]
    let now : Instant := ⟨1710072000, 0, by decide⟩
    let scene := Scene.ofNow document .universal now
    Reachable document ∧ (document.node? 0).isSome = true ∧
      IsPlain "+999999999999d".toList ∧ ∃ equal different,
        Expr.parse "c:=+999999999999d" = .ok equal ∧
        Expr.parse "c:!=+999999999999d" = .ok different ∧
        matchesSlot scene equal 0 = false ∧ matchesSlot scene different 0 = false := by
  intro document now scene
  have reached : Reachable document := .run fun _ _ => trivial
  have equal : ∃ equal, Expr.parse "c:=+999999999999d" = .ok equal ∧
      matchesSlot scene equal 0 = false := exists_of_map_eq_ok (by decide +kernel)
  have different : ∃ different, Expr.parse "c:!=+999999999999d" = .ok different ∧
      matchesSlot scene different 0 = false := exists_of_map_eq_ok (by decide +kernel)
  obtain ⟨equal, isEqual, fails⟩ := equal
  obtain ⟨different, isDifferent, failsToo⟩ := different
  exact ⟨reached, by decide +kernel, by decide +kernel, equal, different, isEqual, isDifferent,
    fails, failsToo⟩

end Outliner
