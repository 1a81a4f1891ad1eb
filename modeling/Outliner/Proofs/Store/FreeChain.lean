import Mathlib.Data.List.Nodup
import Outliner.Store.Arena

/-!
Contract: arenas whose chain of vacant slots is intact.

Owns: the relation `Chain` between a slot and the vacant slots that follow it, the
invariant `Arena.Sound`, that every operation keeps it, and what it gives: an
insertion takes a vacant slot, and the counter is the number of values.

Does not own: what the values are.
-/

namespace Outliner.Store.Arena

variable {α : Type}

/-- The vacant slots from a slot on, each naming the next one, where the last names
the slot after all entries. -/
def Chain (entries : Array (Entry α)) : Nat → List Nat → Prop
  | start, [] => start = entries.size
  | start, slot :: rest =>
      start = slot ∧ ∃ next, entries[slot]? = some (.vacant next) ∧ Chain entries next rest

/-- The slots of a list are all vacant slots, each once, in the order of the chain. -/
structure ChainedAs (arena : Arena α) (free : List Nat) : Prop where
  chain : Chain arena.entries arena.next free
  nodup : free.Nodup
  complete : ∀ slot next, arena.entries[slot]? = some (.vacant next) → slot ∈ free

def isOccupied (entry : Entry α) : Bool :=
  (valueOf? entry).isSome

/-- The chain visits every vacant slot once, and the counter is the number of values. -/
structure Sound (arena : Arena α) : Prop where
  chained : ∃ free, arena.ChainedAs free
  counted : arena.len = arena.entries.countP isOccupied

/-! ## Entries and values -/

theorem entry_of_get? {arena : Arena α} {slot : Nat} {value : α}
    (found : arena.get? slot = some value) : arena.entries[slot]? = some (.occupied value) := by
  obtain ⟨entry, stored, holds⟩ := Option.bind_eq_some_iff.mp found
  cases entry with
  | vacant next => cases holds
  | occupied other =>
      cases holds
      exact stored

theorem lt_size_of_get? {arena : Arena α} {slot : Nat} {value : α}
    (found : arena.get? slot = some value) : slot < arena.entries.size :=
  (Array.getElem?_eq_some_iff.mp (entry_of_get? found)).1

/-! ## Chains -/

/-- Every slot on the chain is vacant. -/
theorem Chain.vacant_of_mem {entries : Array (Entry α)} {start slot : Nat} {free : List Nat}
    (chain : Chain entries start free) (member : slot ∈ free) :
    ∃ next, entries[slot]? = some (.vacant next) := by
  induction free generalizing start with
  | nil => cases member
  | cons head rest inductionHypothesis =>
      obtain ⟨-, next, vacant, follows⟩ := chain
      rcases List.mem_cons.mp member with rfl | inRest
      · exact ⟨next, vacant⟩
      · exact inductionHypothesis follows inRest

/-- A chain only reads the vacant entries of its own slots. -/
theorem Chain.mono {left right : Array (Entry α)} {start : Nat} {free : List Nat}
    (chain : Chain left start free) (size : right.size = left.size)
    (kept : ∀ slot ∈ free, ∀ next, left[slot]? = some (.vacant next) →
      right[slot]? = some (.vacant next)) : Chain right start free := by
  induction free generalizing start with
  | nil => exact chain.trans size.symm
  | cons head rest inductionHypothesis =>
      obtain ⟨starts, next, vacant, follows⟩ := chain
      refine ⟨starts, next, kept head List.mem_cons_self next vacant, ?_⟩
      apply inductionHypothesis follows
      intro slot member
      exact kept slot (List.mem_cons_of_mem head member)

/-- What the chain offers to the next insertion. -/
theorem ChainedAs.vacancy_eq {arena : Arena α} {free : List Nat} (chained : arena.ChainedAs free) :
    (free = [] ∧ arena.vacancy = .fresh ∧ arena.next = arena.entries.size) ∨
      ∃ next rest, free = arena.next :: rest ∧ arena.vacancy = .freed next ∧
        arena.entries[arena.next]? = some (.vacant next) ∧ Chain arena.entries next rest := by
  have chain := chained.chain
  cases free with
  | nil =>
      left
      refine ⟨rfl, ?_, chain⟩
      rw [vacancy, Array.getElem?_eq_none (Nat.le_of_eq chain.symm)]
      exact if_pos chain
  | cons slot rest =>
      right
      obtain ⟨rfl, next, vacant, follows⟩ := chain
      refine ⟨next, rest, rfl, ?_, vacant, follows⟩
      rw [vacancy, vacant]

/-- The head of a sound chain is a vacant slot or the end of the entries. -/
theorem Sound.vacancy_ne_broken {arena : Arena α} (sound : arena.Sound) :
    arena.vacancy ≠ .broken := by
  obtain ⟨free, chained⟩ := sound.chained
  rcases chained.vacancy_eq with ⟨-, fresh, -⟩ | ⟨next, rest, -, freed, -⟩
  · rw [fresh]
    exact Vacancy.noConfusion
  · rw [freed]
    exact Vacancy.noConfusion

/-! ## Operations -/

theorem empty_sound : (empty : Arena α).Sound where
  chained := ⟨[], ⟨rfl, List.nodup_nil, by simp [empty]⟩⟩
  counted := rfl

/-- The slot that an insertion takes was vacant. -/
theorem Sound.get?_insert_slot {arena : Arena α} (sound : arena.Sound) (value : α) :
    arena.get? (arena.insert value).1 = none := by
  obtain ⟨free, chained⟩ := sound.chained
  rcases chained.vacancy_eq with ⟨-, fresh, atEnd⟩ | ⟨next, rest, -, freed, vacant, -⟩
  · simp [insert, fresh, get?, atEnd]
  · simp [insert, freed, get?, vacant, valueOf?]

/-- An insertion binds its own slot and no other. -/
theorem Sound.get?_insert {arena : Arena α} (sound : arena.Sound) (value : α) (slot : Nat) :
    (arena.insert value).2.get? slot =
      if slot = (arena.insert value).1 then some value else arena.get? slot :=
  Arena.get?_insert sound.vacancy_ne_broken value slot

/-- An insertion takes the first slot of the chain, or else the one after all entries. -/
theorem ChainedAs.insert_slot {arena : Arena α} {free : List Nat} (chained : arena.ChainedAs free)
    (value : α) : (arena.insert value).1 = free.headD arena.entries.size := by
  rcases chained.vacancy_eq with ⟨rfl, fresh, atEnd⟩ | ⟨next, rest, rfl, freed, -⟩
  · simp only [Arena.insert, fresh, atEnd, List.headD_nil]
  · simp only [Arena.insert, freed, List.headD_cons]

/-- The arena grows only if no slot is free. -/
theorem ChainedAs.size_insert {arena : Arena α} {free : List Nat} (chained : arena.ChainedAs free)
    (value : α) : (arena.insert value).2.entries.size =
      if free = [] then arena.entries.size + 1 else arena.entries.size := by
  rcases chained.vacancy_eq with ⟨rfl, fresh, -⟩ | ⟨next, rest, rfl, freed, -⟩
  · simp [Arena.insert, fresh]
  · simp [Arena.insert, freed]

/-- An insertion takes the head off the chain. -/
theorem ChainedAs.insert {arena : Arena α} {free : List Nat} (chained : arena.ChainedAs free)
    (value : α) : (arena.insert value).2.ChainedAs free.tail := by
  rcases chained.vacancy_eq with ⟨rfl, fresh, atEnd⟩ | ⟨next, rest, rfl, freed, vacant, follows⟩
  · simp only [Arena.insert, fresh]
    refine ⟨?_, List.nodup_nil, ?_⟩
    · simp [Chain]
    · intro slot next isVacant
      rw [Array.getElem?_push] at isVacant
      split at isVacant
      · cases isVacant
      · exact chained.complete slot next isVacant
  · obtain ⟨notInRest, restNodup⟩ := List.nodup_cons.mp chained.nodup
    obtain ⟨inside, -⟩ := Array.getElem?_eq_some_iff.mp vacant
    simp only [Arena.insert, freed, List.tail_cons]
    refine ⟨follows.mono (by simp) ?_, restNodup, ?_⟩
    · intro slot member next isVacant
      have different : arena.next ≠ slot := fun equal => notInRest (equal ▸ member)
      rw [Array.getElem?_setIfInBounds, if_neg different]
      exact isVacant
    · intro slot next isVacant
      simp only [Array.getElem?_setIfInBounds, inside, ↓reduceIte] at isVacant
      split at isVacant
      · cases isVacant
      · rename_i different
        rcases List.mem_cons.mp (chained.complete slot next isVacant) with equal | inRest
        · exact absurd equal.symm different
        · exact inRest

theorem ChainedAs.counted_insert {arena : Arena α} {free : List Nat}
    (chained : arena.ChainedAs free) (counted : arena.len = arena.entries.countP isOccupied)
    (value : α) :
    (arena.insert value).2.len = (arena.insert value).2.entries.countP isOccupied := by
  rcases chained.vacancy_eq with ⟨-, fresh, -⟩ | ⟨next, rest, -, freed, vacant, -⟩
  · simp [Arena.insert, fresh, Array.countP_push, counted, isOccupied, valueOf?]
  · obtain ⟨inside, stored⟩ := Array.getElem?_eq_some_iff.mp vacant
    simp only [Arena.insert, freed, Array.setIfInBounds, inside, ↓reduceDIte, Array.countP_set,
      stored, counted]
    simp [isOccupied, valueOf?]

theorem Sound.insert {arena : Arena α} (sound : arena.Sound) (value : α) :
    (arena.insert value).2.Sound := by
  obtain ⟨free, chained⟩ := sound.chained
  exact ⟨⟨_, chained.insert value⟩, chained.counted_insert sound.counted value⟩

/-- A slot that is freed is the first of the chain. -/
theorem ChainedAs.erase? {arena rest : Arena α} {free : List Nat} {slot : Nat} {value : α}
    (chained : arena.ChainedAs free) (erased : arena.erase? slot = some (value, rest)) :
    rest.ChainedAs (slot :: free) := by
  obtain ⟨found, isStored, equal⟩ := Option.map_eq_some_iff.mp erased
  obtain ⟨-, rfl⟩ := Prod.mk.inj equal
  have occupied := entry_of_get? isStored
  have inside := lt_size_of_get? isStored
  have notFree : slot ∉ free := by
    intro member
    obtain ⟨next, vacant⟩ := chained.chain.vacant_of_mem member
    rw [occupied] at vacant
    cases vacant
  refine ⟨⟨rfl, arena.next, ?_, ?_⟩, List.nodup_cons.mpr ⟨notFree, chained.nodup⟩, ?_⟩
  · simp [inside]
  · apply chained.chain.mono (by simp)
    intro other member next isVacant
    have different : slot ≠ other := fun equal => notFree (equal ▸ member)
    rw [Array.getElem?_setIfInBounds, if_neg different]
    exact isVacant
  · intro other next isVacant
    simp only [Array.getElem?_setIfInBounds] at isVacant
    split at isVacant
    · rename_i same
      exact same ▸ List.mem_cons_self
    · exact List.mem_cons_of_mem slot (chained.complete other next isVacant)

theorem counted_erase? {arena rest : Arena α} {slot : Nat} {value : α}
    (counted : arena.len = arena.entries.countP isOccupied)
    (erased : arena.erase? slot = some (value, rest)) :
    rest.len = rest.entries.countP isOccupied := by
  obtain ⟨found, isStored, equal⟩ := Option.map_eq_some_iff.mp erased
  obtain ⟨-, rfl⟩ := Prod.mk.inj equal
  obtain ⟨inside, stored⟩ := Array.getElem?_eq_some_iff.mp (entry_of_get? isStored)
  simp only [Array.setIfInBounds, inside, ↓reduceDIte, Array.countP_set, stored, counted]
  simp [isOccupied, valueOf?]

/-- A freed slot becomes the head of the chain. -/
theorem Sound.erase? {arena rest : Arena α} {slot : Nat} {value : α} (sound : arena.Sound)
    (erased : arena.erase? slot = some (value, rest)) : rest.Sound := by
  obtain ⟨free, chained⟩ := sound.chained
  exact ⟨⟨_, chained.erase? erased⟩, counted_erase? sound.counted erased⟩

/-! ## Changes in place -/

def nextOf? : Entry α → Option Nat
  | .vacant next => some next
  | .occupied _ => none

theorem nextOf?_mapEntry (change : α → α) (entry : Entry α) :
    nextOf? (mapEntry change entry) = nextOf? entry := by
  cases entry <;> rfl

theorem entry_eq_vacant_iff {entries : Array (Entry α)} {slot next : Nat} :
    entries[slot]? = some (.vacant next) ↔ (entries.map nextOf?)[slot]? = some (some next) := by
  rw [Array.getElem?_map]
  cases entries[slot]? with
  | none => simp
  | some entry => cases entry <;> simp [nextOf?]

theorem countP_isOccupied (entries : Array (Entry α)) :
    entries.countP isOccupied = (entries.map nextOf?).countP Option.isNone := by
  rw [Array.countP_map]
  congr 1
  funext entry
  cases entry <;> rfl

/-- The chain does not look at the values. -/
theorem ChainedAs.of_same_vacancies {before after : Arena α} {free : List Nat}
    (chained : before.ChainedAs free) (next : after.next = before.next)
    (same : after.entries.map nextOf? = before.entries.map nextOf?) : after.ChainedAs free := by
  have sameVacant : ∀ slot next : Nat, after.entries[slot]? = some (.vacant next) ↔
      before.entries[slot]? = some (.vacant next) := by
    intro slot next
    rw [entry_eq_vacant_iff, entry_eq_vacant_iff, same]
  have sameSize : after.entries.size = before.entries.size := by
    simpa using congrArg Array.size same
  refine ⟨?_, chained.nodup, ?_⟩
  · rw [next]
    exact chained.chain.mono sameSize fun slot _ next => (sameVacant slot next).mpr
  · intro slot next isVacant
    exact chained.complete slot next ((sameVacant slot next).mp isVacant)

theorem counted_of_same_vacancies {before after : Arena α}
    (counted : before.len = before.entries.countP isOccupied) (len : after.len = before.len)
    (same : after.entries.map nextOf? = before.entries.map nextOf?) :
    after.len = after.entries.countP isOccupied := by
  rw [len, counted, countP_isOccupied, countP_isOccupied, same]

/-- Soundness is about vacancies only, so it survives any change of values. -/
theorem Sound.of_same_vacancies {before after : Arena α} (sound : before.Sound)
    (next : after.next = before.next) (len : after.len = before.len)
    (same : after.entries.map nextOf? = before.entries.map nextOf?) : after.Sound := by
  obtain ⟨free, chained⟩ := sound.chained
  exact ⟨⟨free, chained.of_same_vacancies next same⟩,
    counted_of_same_vacancies sound.counted len same⟩

theorem map_nextOf?_modify (arena : Arena α) (slot : Nat) (change : α → α) :
    (arena.modify slot change).entries.map nextOf? = arena.entries.map nextOf? := by
  apply Array.ext_getElem?
  intro other
  simp only [modify, Array.getElem?_map, Array.getElem?_modify]
  split
  · rw [Option.map_map]
    congr 1
    funext entry
    exact nextOf?_mapEntry change entry
  · rfl

theorem map_nextOf?_mapValues (arena : Arena α) (change : α → α) :
    (arena.mapValues change).entries.map nextOf? = arena.entries.map nextOf? := by
  rw [mapValues, Array.map_map]
  congr 1
  funext entry
  exact nextOf?_mapEntry change entry

theorem Sound.modify {arena : Arena α} (sound : arena.Sound) (slot : Nat) (change : α → α) :
    (arena.modify slot change).Sound :=
  sound.of_same_vacancies rfl rfl (map_nextOf?_modify arena slot change)

theorem sound_mapValues_iff {arena : Arena α} {change : α → α} :
    (arena.mapValues change).Sound ↔ arena.Sound := by
  have same := map_nextOf?_mapValues arena change
  exact ⟨fun sound => sound.of_same_vacancies rfl rfl same.symm,
    fun sound => sound.of_same_vacancies rfl rfl same⟩

/-! ## The slots that hold values -/

theorem mem_toList {arena : Arena α} {slot : Nat} {value : α} :
    (slot, value) ∈ arena.toList ↔ arena.get? slot = some value := by
  simp only [toList, List.mem_filterMap, Prod.exists, Option.map_eq_some_iff, Prod.mk.injEq,
    get?, Option.bind_eq_some_iff, List.mk_mem_zipIdx_iff_getElem?, Array.getElem?_toList]
  constructor
  · rintro ⟨entry, index, stored, found, holds, rfl, rfl⟩
    exact ⟨entry, stored, holds⟩
  · rintro ⟨entry, stored, holds⟩
    exact ⟨entry, slot, stored, value, holds, rfl, rfl⟩

/-- The values are listed in strictly ascending order of slots. -/
theorem toList_ascending (arena : Arena α) :
    (arena.toList.map Prod.fst).Pairwise (· < ·) := by
  have indices : (arena.entries.toList.zipIdx.map Prod.snd).Pairwise (· < ·) := by
    rw [List.zipIdx_map_snd]
    exact List.pairwise_lt_range'
  rw [List.pairwise_map] at indices ⊢
  apply List.Pairwise.filterMap _ _ indices
  intro left right less entry isEntry other isOther
  obtain ⟨value, -, rfl⟩ := Option.map_eq_some_iff.mp isEntry
  obtain ⟨value, -, rfl⟩ := Option.map_eq_some_iff.mp isOther
  exact less

/-- The counter is the number of entries that are iterated over. -/
theorem length_toList {arena : Arena α} (sound : arena.Sound) :
    arena.toList.length = arena.len := by
  have occupied : (fun pair : Entry α × Nat =>
      ((valueOf? pair.1).map fun value => (pair.2, value)).isSome) = isOccupied ∘ Prod.fst := by
    funext pair
    simp [isOccupied]
  rw [sound.counted, toList, List.length_filterMap_eq_countP, occupied, ← List.countP_map,
    List.zipIdx_map_fst, Array.countP_toList]

end Outliner.Store.Arena
