/-!
Contract: the numbers of storage slots.

Owns: which numbers are slots, the 32-bit form of an optional slot whose top
value stands for none, and the faults of a store that is asked for a slot it
does not have.

Does not own: what a slot holds (`Store.Arena`).
-/

namespace Outliner.Store

inductive StoreFault where
  | slotTooLarge
  | vacantSlot
deriving DecidableEq, Repr

def StoreFault.message : StoreFault → String
  | .slotTooLarge => "node index must be less than u32::MAX"
  | .vacantSlot => "invalid arena index"

/-- The number above all slots, the highest of 32 bits. -/
def slotLimit : Nat := 4294967295

/-- A number as a slot, if it is small enough. -/
def checkedSlot (number : Nat) : Except StoreFault Nat :=
  if number < slotLimit then .ok number else .error .slotTooLarge

/-- An optional slot in 32 bits. -/
structure PackedSlot where
  word : UInt32
deriving DecidableEq, Repr

namespace PackedSlot

def none : PackedSlot := ⟨0xFFFFFFFF⟩

/-- A slot, kept modulo `2 ^ 32`. -/
def some (slot : Nat) : PackedSlot := ⟨UInt32.ofNat slot⟩

def toOption (packed : PackedSlot) : Option Nat :=
  if packed = none then Option.none else Option.some packed.word.toNat

theorem toOption_none : none.toOption = Option.none := rfl

theorem toOption_some {slot : Nat} (small : slot < slotLimit) :
    (some slot).toOption = Option.some slot := by
  unfold slotLimit at small
  have fits : slot % 2 ^ 32 = slot := Nat.mod_eq_of_lt (by omega)
  have present : some slot ≠ none := by
    intro equal
    have words := congrArg (fun packed => packed.word.toNat) equal
    simp only [some, none, UInt32.toNat_ofNat', fits] at words
    simp only [UInt32.reduceToNat] at words
    omega
  rw [toOption, if_neg present]
  simp only [some, UInt32.toNat_ofNat', fits]

end PackedSlot

end Outliner.Store
