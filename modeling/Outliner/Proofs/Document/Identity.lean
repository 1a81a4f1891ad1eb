import Mathlib.Data.List.Nodup
import Outliner.Document.Lookup
import Outliner.Proofs.Document.Forest

/-!
Contract: identifiers and the slots that hold them.

Owns: the condition `DistinctIds`, and that look-up by identifier is right whatever
the index says: a hit holds the identifier, and a miss means that no slot does.

Does not own: when the index is rebuilt.
-/

namespace Outliner.Document

open Outliner.Store

variable {document : Document} {slot : Nat} {id : NodeId} {node : Node}

/-- No two slots hold nodes with one identifier. -/
def DistinctIds (document : Document) : Prop :=
  ∀ left right id, document.holds left id → document.holds right id → left = right

theorem holds_iff : document.holds slot id ↔ ∃ node, document.node? slot = some node ∧
    node.id = id := by
  simp [holds, Option.any_eq_true]

theorem holds_eq_any_map (document : Document) (slot : Nat) (id : NodeId) :
    document.holds slot id = ((document.node? slot).map fun node => node.id).any (· == id) := by
  rw [Option.any_map]
  rfl

theorem holds_of_node? (found : document.node? slot = some node) :
    document.holds slot node.id :=
  holds_iff.mpr ⟨node, found, rfl⟩

/-- The scan for an identifier finds a slot that holds it. -/
theorem holds_scanFor (found : document.scanFor id = some slot) : document.holds slot id := by
  obtain ⟨⟨stored, node⟩, isFound, rfl⟩ := Option.map_eq_some_iff.mp found
  have sameId := List.find?_some isFound
  exact holds_iff.mpr ⟨node, Arena.mem_toList.mp (List.mem_of_find?_eq_some isFound),
    beq_iff_eq.mp sameId⟩

/-- Where the scan finds nothing, no slot holds the identifier. -/
theorem not_holds_of_scanFor (missing : document.scanFor id = none) :
    ¬ document.holds slot id := by
  intro isHeld
  obtain ⟨node, found, rfl⟩ := holds_iff.mp isHeld
  have absent := List.find?_eq_none.mp (Option.map_eq_none_iff.mp missing)
  exact absent (slot, node) (Arena.mem_toList.mpr found) (beq_self_eq_true node.id)

/-- A look-up is answered by the index, where its hit is right, or else by the scan. -/
theorem find?_cases (document : Document) (id : NodeId) :
    document.find? id = document.scanFor id ∨
      ∃ slot, document.find? id = some slot ∧ document.holds slot id := by
  unfold find?
  split
  · rename_i slot _
    split
    · rename_i isHeld
      exact .inr ⟨slot, rfl, isHeld⟩
    · exact .inl rfl
  · exact .inl rfl

/-- A search finds a slot that holds the identifier, whatever the index says. -/
theorem holds_find? (found : document.find? id = some slot) : document.holds slot id := by
  rcases document.find?_cases id with scanned | ⟨hit, isHit, isHeld⟩
  · exact holds_scanFor (scanned.symm.trans found)
  · rw [found] at isHit
    obtain rfl := Option.some.inj isHit
    exact isHeld

/-- Where a search finds nothing, no slot holds the identifier. -/
theorem not_holds_of_find? (missing : document.find? id = none) : ¬ document.holds slot id := by
  rcases document.find?_cases id with scanned | ⟨hit, isHit, -⟩
  · exact not_holds_of_scanFor (scanned.symm.trans missing)
  · rw [missing] at isHit
    cases isHit

/-- Where identifiers are distinct, look-up finds the slot that holds the identifier. -/
theorem DistinctIds.find?_eq_some_iff (distinct : document.DistinctIds) :
    document.find? id = some slot ↔ document.holds slot id := by
  refine ⟨holds_find?, fun isHeld => ?_⟩
  cases found : document.find? id with
  | none => exact absurd isHeld (not_holds_of_find? found)
  | some other => rw [distinct other slot id (holds_find? found) isHeld]

/-- Identifiers are distinct if the nodes in the store show none twice. -/
theorem distinctIds_of_nodup
    (nodup : (document.nodes.toList.map fun entry => entry.2.id).Nodup) :
    document.DistinctIds := by
  intro left right id leftHolds rightHolds
  obtain ⟨leftNode, leftFound, leftId⟩ := holds_iff.mp leftHolds
  obtain ⟨rightNode, rightFound, rightId⟩ := holds_iff.mp rightHolds
  have same := List.inj_on_of_nodup_map nodup (Arena.mem_toList.mpr leftFound)
    (Arena.mem_toList.mpr rightFound) (leftId.trans rightId.symm)
  exact congrArg Prod.fst same

end Outliner.Document
