import Mathlib.Data.Set.Card
import Outliner.Proofs.Store.FreeChain

/-!
Contract: an arena is a finite map from slots to values and a stack of freed slots.

Owns: the type `SlotTable` of such maps, the actions on an arena and on a table, and the
relation `Tabulates` between the two. A table has no chain: it keeps the freed slots as
a list, and so there is nothing in it that could be broken.

Main statements: `Tabulates.perform`, the step, `Tabulates.runAll`, the run, and
`Arena.refines_slotTable`.

Does not own: what keeps the chain intact (`Proofs.Store.FreeChain`).
-/

namespace Outliner.Store

variable {α σ : Type}

/-- A map from slots to values. The slots below `extent` have been in use, and of these
the `freed` ones are not, the slot freed last coming first. -/
structure SlotTable (α : Type) where
  values : Nat → Option α
  freed : List Nat
  extent : Nat

inductive Action (α : Type) where
  | insert (value : α)
  | erase (slot : Nat)
  | modify (slot : Nat) (change : α → α)
  | mapValues (change : α → α)

/-- What an action answers: the slot that is taken, or the value that is found. -/
inductive Answer (α : Type) where
  | slot (slot : Nat)
  | value (value : Option α)
  | done
deriving DecidableEq, Repr

/-- The answers of some actions in a row, and what is left after them. -/
def runAll (perform : σ → Action α → Answer α × σ) (store : σ) :
    List (Action α) → List (Answer α) × σ
  | [] => ([], store)
  | action :: rest =>
    let (answer, next) := perform store action
    let (answers, last) := runAll perform next rest
    (answer :: answers, last)

namespace SlotTable

def empty : SlotTable α := ⟨fun _ => none, [], 0⟩

/-- The slot freed last, or a new one if none is free. -/
def nextSlot (table : SlotTable α) : Nat :=
  table.freed.headD table.extent

def insert (table : SlotTable α) (value : α) : Nat × SlotTable α :=
  (table.nextSlot,
    { values := Function.update table.values table.nextSlot (some value),
      freed := table.freed.tail,
      extent := if table.freed = [] then table.extent + 1 else table.extent })

def erase? (table : SlotTable α) (slot : Nat) : Option (α × SlotTable α) :=
  (table.values slot).map fun value =>
    (value, { table with
      values := Function.update table.values slot none, freed := slot :: table.freed })

def modify (table : SlotTable α) (slot : Nat) (change : α → α) : SlotTable α :=
  { table with values := Function.update table.values slot ((table.values slot).map change) }

def mapValues (table : SlotTable α) (change : α → α) : SlotTable α :=
  { table with values := fun slot => (table.values slot).map change }

def perform (table : SlotTable α) : Action α → Answer α × SlotTable α
  | .insert value =>
    let (slot, rest) := table.insert value
    (.slot slot, rest)
  | .erase slot =>
    match table.erase? slot with
    | some (value, rest) => (.value (some value), rest)
    | none => (.value none, table)
  | .modify slot change => (.value (table.values slot), table.modify slot change)
  | .mapValues change => (.done, table.mapValues change)

end SlotTable

namespace Arena

def perform (arena : Arena α) : Action α → Answer α × Arena α
  | .insert value =>
    let (slot, rest) := arena.insert value
    (.slot slot, rest)
  | .erase slot =>
    match arena.erase? slot with
    | some (value, rest) => (.value (some value), rest)
    | none => (.value none, arena)
  | .modify slot change => (.value (arena.get? slot), arena.modify slot change)
  | .mapValues change => (.done, arena.mapValues change)

/-- The chain consists of the slots that have been in use and hold no value. -/
theorem ChainedAs.mem_iff {arena : Arena α} {free : List Nat} {slot : Nat}
    (chained : arena.ChainedAs free) :
    slot ∈ free ↔ slot < arena.entries.size ∧ arena.get? slot = none := by
  constructor
  · intro member
    obtain ⟨next, vacant⟩ := chained.chain.vacant_of_mem member
    refine ⟨(Array.getElem?_eq_some_iff.mp vacant).1, ?_⟩
    rw [get?, vacant]
    rfl
  · rintro ⟨inside, unbound⟩
    have stored := Array.getElem?_eq_getElem inside
    cases entry : arena.entries[slot] with
    | vacant next => exact chained.complete slot next (entry ▸ stored)
    | occupied value =>
        rw [get?, stored, entry] at unbound
        cases unbound

end Arena

/-- The table says what the arena holds, and its freed slots are the chain of the arena. -/
structure Tabulates (arena : Arena α) (table : SlotTable α) : Prop where
  get? : ∀ slot, arena.get? slot = table.values slot
  chained : arena.ChainedAs table.freed
  counted : arena.len = arena.entries.countP Arena.isOccupied
  size : arena.entries.size = table.extent

theorem tabulates_empty : Tabulates (.empty : Arena α) .empty where
  get? := Arena.get?_empty
  chained := ⟨rfl, List.nodup_nil, by simp [Arena.empty]⟩
  counted := rfl
  size := rfl

namespace Tabulates

variable {arena : Arena α} {table : SlotTable α}

theorem sound (tabulates : Tabulates arena table) : arena.Sound :=
  ⟨⟨_, tabulates.chained⟩, tabulates.counted⟩

/-! ## One action -/

theorem insert_slot (tabulates : Tabulates arena table) (value : α) :
    (arena.insert value).1 = table.nextSlot := by
  rw [tabulates.chained.insert_slot, tabulates.size, SlotTable.nextSlot]

/-- Insertions into the store and into the table agree. -/
theorem insert (tabulates : Tabulates arena table) (value : α) :
    Tabulates (arena.insert value).2 (table.insert value).2 where
  get? slot := by
    rw [tabulates.sound.get?_insert, tabulates.insert_slot, tabulates.get?]
    exact (Function.update_apply table.values _ _ slot).symm
  chained := tabulates.chained.insert value
  counted := tabulates.chained.counted_insert tabulates.counted value
  size := by rw [tabulates.chained.size_insert, tabulates.size, SlotTable.insert]

/-- What the store erases, the table erases. -/
theorem erase? {rest : Arena α} {slot : Nat} {value : α} (tabulates : Tabulates arena table)
    (erased : arena.erase? slot = some (value, rest)) :
    ∃ less, table.erase? slot = some (value, less) ∧ Tabulates rest less := by
  obtain ⟨found, isStored, equal⟩ := Option.map_eq_some_iff.mp erased
  obtain ⟨rfl, isRest⟩ := Prod.mk.inj equal
  refine ⟨_, by rw [SlotTable.erase?, ← tabulates.get?, isStored, Option.map_some], ?_, ?_, ?_, ?_⟩
  · intro other
    rw [Arena.get?_erase erased, tabulates.get?]
    exact (Function.update_apply table.values slot none other).symm
  · exact tabulates.chained.erase? erased
  · exact Arena.counted_erase? tabulates.counted erased
  · rw [← isRest, ← tabulates.size]
    exact Array.size_setIfInBounds

theorem erase?_eq_none_iff (tabulates : Tabulates arena table) {slot : Nat} :
    arena.erase? slot = none ↔ table.values slot = none := by
  rw [Arena.erase?, Option.map_eq_none_iff, tabulates.get?]

/-- Erasing at an unbound slot returns nothing and changes nothing. -/
theorem perform_erase_of_unbound (tabulates : Tabulates arena table) {slot : Nat}
    (unbound : table.values slot = none) : arena.perform (.erase slot) = (.value none, arena) := by
  simp only [Arena.perform, tabulates.erase?_eq_none_iff.mpr unbound]

theorem modify (tabulates : Tabulates arena table) (slot : Nat) (change : α → α) :
    Tabulates (arena.modify slot change) (table.modify slot change) where
  get? other := by
    simp only [Arena.get?_modify, SlotTable.modify, Function.update_apply, tabulates.get?]
    split
    · rename_i same
      rw [same]
    · rfl
  chained := tabulates.chained.of_same_vacancies rfl (Arena.map_nextOf?_modify arena slot change)
  counted := Arena.counted_of_same_vacancies tabulates.counted rfl
    (Arena.map_nextOf?_modify arena slot change)
  size := Array.size_modify.trans tabulates.size

theorem mapValues (tabulates : Tabulates arena table) (change : α → α) :
    Tabulates (arena.mapValues change) (table.mapValues change) where
  get? slot := by rw [Arena.get?_mapValues, tabulates.get?, SlotTable.mapValues]
  chained := tabulates.chained.of_same_vacancies rfl (Arena.map_nextOf?_mapValues arena change)
  counted := Arena.counted_of_same_vacancies tabulates.counted rfl
    (Arena.map_nextOf?_mapValues arena change)
  size := Array.size_map.trans tabulates.size

/-- An arena and its table give the same answer to an action, and it leaves an arena and
its table. -/
theorem perform (tabulates : Tabulates arena table) (action : Action α) :
    (arena.perform action).1 = (table.perform action).1 ∧
      Tabulates (arena.perform action).2 (table.perform action).2 := by
  cases action with
  | insert value =>
      exact ⟨congrArg Answer.slot (tabulates.insert_slot value), tabulates.insert value⟩
  | erase slot =>
      cases erased : arena.erase? slot with
      | none =>
          have unbound : table.erase? slot = none := by
            rw [SlotTable.erase?, tabulates.erase?_eq_none_iff.mp erased, Option.map_none]
          simp only [Arena.perform, SlotTable.perform, erased, unbound, true_and]
          exact tabulates
      | some pair =>
          obtain ⟨less, isLess, left⟩ := tabulates.erase? erased
          simp only [Arena.perform, SlotTable.perform, erased, isLess, true_and]
          exact left
  | modify slot change =>
      exact ⟨congrArg Answer.value (tabulates.get? slot), tabulates.modify slot change⟩
  | mapValues change => exact ⟨rfl, tabulates.mapValues change⟩

/-! ## Any number of actions -/

/-- Runs of the same actions return the same results and keep the refinement. -/
theorem runAll (tabulates : Tabulates arena table) (actions : List (Action α)) :
    (Store.runAll Arena.perform arena actions).1 =
        (Store.runAll SlotTable.perform table actions).1 ∧
      Tabulates (Store.runAll Arena.perform arena actions).2
        (Store.runAll SlotTable.perform table actions).2 := by
  induction actions generalizing arena table with
  | nil => exact ⟨rfl, tabulates⟩
  | cons action rest inductionHypothesis =>
      obtain ⟨sameAnswer, next⟩ := tabulates.perform action
      obtain ⟨sameAnswers, last⟩ := inductionHypothesis next
      simp only [Store.runAll]
      exact ⟨congrArg₂ List.cons sameAnswer sameAnswers, last⟩

/-! ## What the arena says -/

theorem mem_toList_iff (tabulates : Tabulates arena table) {slot : Nat} {value : α} :
    (slot, value) ∈ arena.toList ↔ table.values slot = some value := by
  rw [Arena.mem_toList, tabulates.get?]

/-- The counter of the store is the number of bound slots. -/
theorem ncard_bound (tabulates : Tabulates arena table) :
    {slot | table.values slot ≠ none}.ncard = arena.len := by
  have listed : {slot | table.values slot ≠ none} =
      ((arena.toList.map Prod.fst).toFinset : Set Nat) := by
    ext slot
    simp only [Set.mem_ofPred_eq, List.coe_toFinset, List.mem_map, Prod.exists, exists_and_right,
      exists_eq_right, tabulates.mem_toList_iff, Option.ne_none_iff_exists']
  have once : (arena.toList.map Prod.fst).Nodup :=
    (Arena.toList_ascending arena).imp Nat.ne_of_lt
  rw [listed, Set.ncard_coe_finset, List.toFinset_card_of_nodup once, List.length_map,
    Arena.length_toList tabulates.sound]

/-- While fewer than 2^32 - 1 entries are there, the slot of an insertion passes its check. -/
theorem checkedSlot_insert (tabulates : Tabulates arena table)
    (room : arena.entries.size < slotLimit) (value : α) :
    checkedSlot (arena.insert value).1 = .ok (arena.insert value).1 := by
  apply if_pos
  rw [tabulates.chained.insert_slot]
  cases isFreed : table.freed with
  | nil => exact room
  | cons slot rest =>
      have inside := (tabulates.chained.mem_iff.mp (isFreed ▸ List.mem_cons_self)).1
      exact Nat.lt_trans inside room

end Tabulates

/-! ## Histories -/

/-- After any actions on the empty arena, it has answered as a map with a stack of freed
slots does, and it says what the map says. The chain from `next` visits every vacant slot
once, the slot freed last coming first, and ends behind all entries. The counter is the
number of bound slots, which are listed in strictly ascending order. An insertion finds
the chain intact and takes the slot freed last, or else a new one, which a slot number has
room for. A removal from a slot that is not bound answers so and changes nothing. -/
theorem Arena.refines_slotTable (actions : List (Action α)) :
    let answers := (runAll Arena.perform (.empty : Arena α) actions).1
    let arena := (runAll Arena.perform (.empty : Arena α) actions).2
    let table := (runAll SlotTable.perform .empty actions).2
    answers = (runAll SlotTable.perform .empty actions).1 ∧
    (Chain arena.entries arena.next table.freed ∧ table.freed.Nodup ∧
      ∀ slot, slot ∈ table.freed ↔ slot < arena.entries.size ∧ arena.get? slot = none) ∧
    arena.len = {slot | table.values slot ≠ none}.ncard ∧
    (arena.vacancy ≠ .broken ∧ ∀ value,
      (arena.insert value).1 = table.freed.headD arena.entries.size ∧
      table.values (arena.insert value).1 = none ∧
      (arena.entries.size < slotLimit →
        checkedSlot (arena.insert value).1 = .ok (arena.insert value).1)) ∧
    (∀ slot, arena.get? slot = table.values slot ∧
      arena.contains slot = (table.values slot).isSome) ∧
    ((arena.toList.map Prod.fst).Pairwise (· < ·) ∧
      ∀ slot value, (slot, value) ∈ arena.toList ↔ table.values slot = some value) ∧
    (∀ change slot, (arena.mapValues change).get? slot = (table.values slot).map change) ∧
    ∀ slot, table.values slot = none → arena.perform (.erase slot) = (.value none, arena) := by
  intro answers arena table
  obtain ⟨sameAnswers, tabulates⟩ := tabulates_empty.runAll actions
  refine ⟨sameAnswers, ⟨tabulates.chained.chain, tabulates.chained.nodup,
    fun slot => tabulates.chained.mem_iff⟩, tabulates.ncard_bound.symm,
    ⟨tabulates.sound.vacancy_ne_broken, fun value => ⟨tabulates.chained.insert_slot value, ?_,
      fun room => tabulates.checkedSlot_insert room value⟩⟩, ?_,
    ⟨arena.toList_ascending, fun slot value => tabulates.mem_toList_iff⟩, ?_, ?_⟩
  · rw [← tabulates.get?]
    exact tabulates.sound.get?_insert_slot value
  · intro slot
    exact ⟨tabulates.get? slot, congrArg Option.isSome (tabulates.get? slot)⟩
  · intro change slot
    exact (tabulates.mapValues change).get? slot
  · intro slot unbound
    exact tabulates.perform_erase_of_unbound unbound

/-- Of three slots two are freed, and the one freed last is taken again. A removal from
the other one then changes nothing, and the next insertion takes it. -/
theorem refines_slotTable_reused :
    let actions : List (Action String) := [.insert "a", .insert "b", .insert "c", .erase 1,
      .erase 0, .erase 7, .insert "d", .modify 2 (· ++ "+"), .mapValues (· ++ "*")]
    let arena := (runAll Arena.perform .empty actions).2
    let table := (runAll SlotTable.perform .empty actions).2
    arena.entries.size < slotLimit ∧ (arena.insert "e").1 = 1 ∧
      checkedSlot (arena.insert "e").1 = .ok (arena.insert "e").1 ∧
      table.values 1 = none ∧ arena.perform (.erase 1) = (.value none, arena) ∧
      table.freed = [1] ∧ arena.len = {slot | table.values slot ≠ none}.ncard ∧
      arena.toList = [(0, "d*"), (2, "c+*")] ∧
      (runAll SlotTable.perform .empty actions).1 = [.slot 0, .slot 1, .slot 2,
        .value (some "b"), .value (some "a"), .value none, .slot 0, .value (some "c"), .done] := by
  intro actions arena table
  obtain ⟨sameAnswers, -, counted, ⟨-, inserted⟩, -, -, -, unchanged⟩ :=
    Arena.refines_slotTable actions
  have room : arena.entries.size < slotLimit := by decide +kernel
  have unbound : table.values 1 = none := by decide +kernel
  obtain ⟨-, -, checked⟩ := inserted "e"
  exact ⟨room, by decide +kernel, checked room, unbound, unchanged 1 unbound, by decide +kernel,
    counted, by decide +kernel, sameAnswers.symm.trans (by decide +kernel)⟩

end Outliner.Store
