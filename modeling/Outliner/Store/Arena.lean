import Outliner.Store.Slot

/-!
Contract: values in numbered slots, where freed slots are used again.

Owns: the type `Arena`, whose vacant slots form a chain from `next`, each naming
the next one and the last naming the slot after all entries; insertion, removal
and change in place; and the view `get?` from slots to values.

Main statements: `get?_insert`, `get?_erase` and `get?_modify` give the view
after each operation.

Does not own: what the values are.
-/

namespace Outliner.Store

/-- What a slot holds: a value, or the number of the next vacant slot. -/
inductive Entry (α : Type) where
  | vacant (next : Nat)
  | occupied (value : α)
deriving DecidableEq, Repr

/-- Values in numbered slots. -/
structure Arena (α : Type) where
  entries : Array (Entry α)
  len : Nat
  next : Nat
deriving DecidableEq, Repr

/-- The slot that the next insertion takes. -/
inductive Vacancy where
  | fresh
  | freed (next : Nat)
  | broken
deriving DecidableEq, Repr

namespace Arena

variable {α : Type}

def empty : Arena α := ⟨#[], 0, 0⟩

def valueOf? : Entry α → Option α
  | .vacant _ => none
  | .occupied value => some value

def get? (arena : Arena α) (slot : Nat) : Option α :=
  arena.entries[slot]?.bind valueOf?

def contains (arena : Arena α) (slot : Nat) : Bool :=
  (arena.get? slot).isSome

/-- The value in a slot that has to hold one. -/
def fetch (arena : Arena α) (slot : Nat) : Except StoreFault α :=
  match arena.get? slot with
  | some value => .ok value
  | none => .error .vacantSlot

def isEmpty (arena : Arena α) : Bool :=
  arena.len == 0

/-- What the chain of vacant slots offers. It is broken if it leads to an
occupied slot or past the slot after all entries. -/
def vacancy (arena : Arena α) : Vacancy :=
  match arena.entries[arena.next]? with
  | some (.vacant next) => .freed next
  | some (.occupied _) => .broken
  | none => if arena.next = arena.entries.size then .fresh else .broken

/-- Puts a value into the slot freed last, or into a new one if none is free. An
arena with a broken chain is left as it is. -/
def insert (arena : Arena α) (value : α) : Nat × Arena α :=
  match arena.vacancy with
  | .fresh =>
    (arena.next,
      ⟨arena.entries.push (.occupied value), arena.len + 1, arena.entries.size + 1⟩)
  | .freed next =>
    (arena.next,
      ⟨arena.entries.setIfInBounds arena.next (.occupied value), arena.len + 1, next⟩)
  | .broken => (arena.next, arena)

/-- Takes the value out of a slot and puts the slot at the front of the chain. -/
def erase? (arena : Arena α) (slot : Nat) : Option (α × Arena α) :=
  (arena.get? slot).map fun value =>
    (value, ⟨arena.entries.setIfInBounds slot (.vacant arena.next), arena.len - 1, slot⟩)

def mapEntry (change : α → α) : Entry α → Entry α
  | .vacant next => .vacant next
  | .occupied value => .occupied (change value)

def modify (arena : Arena α) (slot : Nat) (change : α → α) : Arena α :=
  { arena with entries := arena.entries.modify slot (mapEntry change) }

def mapValues (arena : Arena α) (change : α → α) : Arena α :=
  { arena with entries := arena.entries.map (mapEntry change) }

/-- The number of slots that hold a value, counted slot by slot. -/
def occupancy (arena : Arena α) : Nat :=
  arena.entries.countP fun entry => (valueOf? entry).isSome

/-- The slots with their values, in ascending order of slots. -/
def toList (arena : Arena α) : List (Nat × α) :=
  arena.entries.toList.zipIdx.filterMap fun (entry, slot) =>
    (valueOf? entry).map fun value => (slot, value)

def summary (arena : Arena α) : String :=
  "Arena \x7b len: " ++ toString arena.len ++ ", next: " ++ toString arena.next ++ ", slots: " ++
    toString arena.entries.size ++ " \x7d"

/-! ## The view -/

@[simp] theorem get?_empty (slot : Nat) : (empty : Arena α).get? slot = none := by
  simp [get?, empty]

/-- An insertion at the end of the entries changes no other slot. -/
theorem get?_insert_fresh {arena : Arena α} (fresh : arena.vacancy = .fresh) (value : α)
    (slot : Nat) :
    (arena.insert value).2.get? slot =
      if slot = arena.next then some value else arena.get? slot := by
  have atEnd : arena.next = arena.entries.size := by
    unfold vacancy at fresh
    split at fresh
    · cases fresh
    · cases fresh
    · split at fresh
      · assumption
      · cases fresh
  simp only [insert, fresh, get?, Array.getElem?_push, atEnd]
  split
  · rfl
  · rfl

/-- An insertion into a freed slot changes no other slot. -/
theorem get?_insert_freed {arena : Arena α} {next : Nat} (freed : arena.vacancy = .freed next)
    (value : α) (slot : Nat) :
    (arena.insert value).2.get? slot =
      if slot = arena.next then some value else arena.get? slot := by
  have inside : arena.next < arena.entries.size := by
    unfold vacancy at freed
    split at freed
    · rename_i entry
      exact (Array.getElem?_eq_some_iff.mp entry).1
    · cases freed
    · split at freed <;> cases freed
  simp only [insert, freed, get?, Array.getElem?_setIfInBounds, inside, ↓reduceIte]
  split
  · rename_i equal
    simp [equal, valueOf?]
  · rename_i different
    rw [if_neg (Ne.symm different)]

/-- An insertion that the chain allows binds the value to the slot it returns. -/
theorem get?_insert {arena : Arena α} (sound : arena.vacancy ≠ .broken) (value : α)
    (slot : Nat) :
    (arena.insert value).2.get? slot =
      if slot = (arena.insert value).1 then some value else arena.get? slot := by
  cases vacancy : arena.vacancy with
  | fresh => rw [get?_insert_fresh vacancy]; simp [insert, vacancy]
  | freed next => rw [get?_insert_freed vacancy]; simp [insert, vacancy]
  | broken => exact absurd vacancy sound

theorem get?_erase {arena rest : Arena α} {slot : Nat} {value : α}
    (erased : arena.erase? slot = some (value, rest)) (other : Nat) :
    rest.get? other = if other = slot then none else arena.get? other := by
  obtain ⟨found, _, equal⟩ := Option.map_eq_some_iff.mp erased
  obtain ⟨-, rfl⟩ := Prod.mk.inj equal
  simp only [get?, Array.getElem?_setIfInBounds]
  by_cases same : other = slot
  · subst same
    simp only [↓reduceIte]
    split <;> simp [valueOf?]
  · rw [if_neg (Ne.symm same), if_neg same]

/-- Each slot that is freed brings the arena closer to an empty one. -/
theorem occupancy_erase_lt {arena rest : Arena α} {slot : Nat} {value : α}
    (erased : arena.erase? slot = some (value, rest)) : rest.occupancy < arena.occupancy := by
  obtain ⟨found, stored, equal⟩ := Option.map_eq_some_iff.mp erased
  obtain ⟨-, rfl⟩ := Prod.mk.inj equal
  obtain ⟨entry, isEntry, holds⟩ := Option.bind_eq_some_iff.mp stored
  obtain ⟨inside, isAt⟩ := Array.getElem?_eq_some_iff.mp isEntry
  have isHeld : (valueOf? entry).isSome := Option.isSome_iff_exists.mpr ⟨found, holds⟩
  have counted : 0 < arena.occupancy :=
    Array.countP_pos_iff.mpr ⟨entry, isAt ▸ Array.getElem_mem inside, isHeld⟩
  calc (arena.entries.setIfInBounds slot (.vacant arena.next)).countP
        (fun entry => (valueOf? entry).isSome)
      = arena.occupancy - 1 := by
        rw [Array.setIfInBounds_def, dif_pos inside, Array.countP_set inside, isAt, if_pos isHeld]
        rfl
    _ < arena.occupancy := Nat.sub_one_lt_of_lt counted

theorem valueOf?_mapEntry (change : α → α) (entry : Entry α) :
    valueOf? (mapEntry change entry) = (valueOf? entry).map change := by
  cases entry <;> rfl

/-- A change at a slot is a change at that slot only. -/
theorem get?_modify (arena : Arena α) (slot : Nat) (change : α → α) (other : Nat) :
    (arena.modify slot change).get? other =
      if other = slot then (arena.get? other).map change else arena.get? other := by
  simp only [get?, modify, Array.getElem?_modify]
  by_cases same : slot = other
  · subst same
    simp only [↓reduceIte]
    cases arena.entries[slot]? with
    | none => rfl
    | some entry => simp [valueOf?_mapEntry]
  · rw [if_neg same, if_neg (Ne.symm same)]

theorem get?_mapValues (arena : Arena α) (change : α → α) (slot : Nat) :
    (arena.mapValues change).get? slot = (arena.get? slot).map change := by
  simp only [get?, mapValues, Array.getElem?_map]
  cases arena.entries[slot]? with
  | none => rfl
  | some entry => simp [valueOf?_mapEntry]

end Arena

end Outliner.Store
