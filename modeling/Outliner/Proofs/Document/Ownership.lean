import Outliner.Document.Edit
import Outliner.Proofs.Document.Preorder

/-!
Contract: edits keep every node owned exactly once.

Owns: what an edit of the forest can do, as two relations between documents (`Grown`:
one node more, `Pruned`: a tree less), and that both keep the invariant `Owned`, as
does every change of a document that leaves parents and children alone.

Does not own: edits of contents and links as operations of a history
(`Proofs.History`).
-/

namespace Outliner

open Outliner.Calendar Outliner.Store

namespace Node

/-- Where a node is in the forest: its parent and its children. -/
def placement (node : Node) : Option Nat × List Nat :=
  (node.parent, node.children)

theorem parent_appendChild (child : Nat) (node : Node) :
    (node.appendChild child).parent = node.parent := by
  unfold appendChild
  split <;> rfl

theorem children_appendChild {child : Nat} {node : Node} (absent : child ∉ node.children) :
    (node.appendChild child).children = node.children ++ [child] := by
  rw [appendChild, if_neg absent]

end Node

namespace Document

variable {document before after : Document} {slot other depth : Nat} {node : Node}

/-- The document `after` has one node more than `before`: in a slot that was vacant, as
the last child of a node or as the last root. -/
structure Grown (before : Document) (record : Record) (parent : Option Nat) (slot : Nat)
    (after : Document) : Prop where
  vacant : before.node? slot = none
  parent_live : ∀ above, parent = some above → before.Live above
  sound : after.nodes.Sound
  roots : after.roots = if parent = none then before.roots ++ [slot] else before.roots
  node? : ∀ other, after.node? other =
    if other = slot then some (record.toNode parent)
    else if parent = some other then (before.node? other).map (Node.appendChild slot)
    else before.node? other

/-- The document `after` is `before` without a slot and everything below it. -/
structure Pruned (before : Document) (slot : Nat) (after : Document) : Prop where
  live : before.Live slot
  sound : after.nodes.Sound
  roots : after.roots =
    if before.parent? slot = none then before.roots.filter (· ≠ slot) else before.roots
  node? : ∀ other, after.node? other =
    if other = slot ∨ slot ∈ before.ancestors other then none
    else if before.parent? slot = some other then (before.node? other).map (Node.dropChild slot)
    else before.node? other

/-! ## Changes in place -/

theorem parent?_congr (same : (after.node? slot).map Node.placement =
    (before.node? slot).map Node.placement) : after.parent? slot = before.parent? slot := by
  have parents := congrArg (fun placed => placed.bind Prod.fst) same
  simp only [Option.bind_map] at parents
  exact parents

/-- The invariant only looks at the roots, the parents and the children. -/
theorem Owned.of_same_placement (owned : before.Owned) (sound : after.nodes.Sound)
    (roots : after.roots = before.roots)
    (same : ∀ slot, (after.node? slot).map Node.placement =
      (before.node? slot).map Node.placement) : after.Owned := by
  have sameParent : ∀ slot, after.parent? slot = before.parent? slot :=
    fun slot => parent?_congr (same slot)
  have back : ∀ {slot : Nat} {node : Node}, after.node? slot = some node →
      ∃ old, before.node? slot = some old ∧ old.placement = node.placement := by
    intro slot node found
    have placed := same slot
    rw [found] at placed
    exact Option.map_eq_some_iff.mp placed.symm
  have sameLive : ∀ slot, after.Live slot ↔ before.Live slot := by
    intro slot
    have placed := same slot
    unfold Live
    rw [← Option.isSome_iff_exists, ← Option.isSome_iff_exists, ← Option.isSome_map,
      placed, Option.isSome_map]
  have sameDepth : ∀ {slot depth : Nat}, before.AtDepth slot depth → after.AtDepth slot depth := by
    intro slot depth atDepth
    induction atDepth with
    | root live isRoot => exact .root ((sameLive _).mpr live) ((sameParent _).trans isRoot)
    | under hasParent _ inductionHypothesis =>
        exact .under ((sameParent _).trans hasParent) inductionHypothesis
  refine ⟨sound, roots ▸ owned.roots_nodup, ?_, ?_, ?_, ?_⟩
  · intro slot
    rw [roots, owned.mem_roots, sameLive, sameParent]
  · intro slot node found
    obtain ⟨old, oldFound, placed⟩ := back found
    have sameChildren : old.children = node.children := congrArg Prod.snd placed
    exact sameChildren ▸ owned.children_nodup slot old oldFound
  · intro slot node found child
    obtain ⟨old, oldFound, placed⟩ := back found
    have sameChildren : old.children = node.children := congrArg Prod.snd placed
    rw [← sameChildren, sameParent]
    exact owned.mem_children slot old oldFound child
  · intro slot live
    obtain ⟨depth, atDepth⟩ := owned.rooted slot ((sameLive slot).mp live)
    exact ⟨depth, sameDepth atDepth⟩

/-- What a change of a node does not touch can be read as before. -/
theorem map_node?_update {α : Type} (view : Node → α) {change : Node → Node}
    (unseen : ∀ node, view (change node) = view node) (document : Document) (slot other : Nat) :
    ((document.update slot change).node? other).map view = (document.node? other).map view := by
  rw [node?_update]
  split
  · rw [Option.map_map]
    congr 1
    funext node
    exact unseen node
  · rfl

/-- A change of a node that keeps its place keeps every node owned exactly once. -/
theorem Owned.update (owned : document.Owned) {change : Node → Node}
    (same : ∀ node, (change node).placement = node.placement) (slot : Nat) :
    (document.update slot change).Owned := by
  have sameRoots : (document.update slot change).roots = document.roots := rfl
  apply owned.of_same_placement (owned.sound.modify slot change) sameRoots
  exact map_node?_update Node.placement same document slot

/-! ## One node more -/

namespace Grown

variable {record : Record} {parent : Option Nat}

theorem node?_slot (grown : Grown before record parent slot after) :
    after.node? slot = some (record.toNode parent) := by
  rw [grown.node?, if_pos rfl]

/-- Of the other nodes, a view that does not see new children shows what it showed. -/
theorem map_node?_of_ne {α : Type} (grown : Grown before record parent slot after)
    (view : Node → α) (unseen : ∀ node, view (node.appendChild slot) = view node)
    (different : other ≠ slot) :
    (after.node? other).map view = (before.node? other).map view := by
  rw [grown.node?, if_neg different]
  split
  · rw [Option.map_map]
    congr 1
    funext node
    exact unseen node
  · rfl

theorem parent?_slot (grown : Grown before record parent slot after) :
    after.parent? slot = parent :=
  parent?_of_node? grown.node?_slot

theorem parent?_of_ne (grown : Grown before record parent slot after) (different : other ≠ slot) :
    after.parent? other = before.parent? other := by
  unfold Document.parent?
  rw [grown.node?, if_neg different]
  split
  · cases before.node? other with
    | none => rfl
    | some node => exact Node.parent_appendChild slot node
  · rfl

theorem ne_slot (grown : Grown before record parent slot after) (live : before.Live other) :
    other ≠ slot := by
  rintro rfl
  obtain ⟨node, found⟩ := live
  rw [grown.vacant] at found
  cases found

/-- The new slot is live, and so is what was. -/
theorem live_iff (grown : Grown before record parent slot after) :
    after.Live other ↔ other = slot ∨ before.Live other := by
  unfold Live
  rw [grown.node?]
  split
  · rename_i same
    simp [same]
  · rename_i different
    split <;> simp [different]

theorem atDepth (grown : Grown before record parent slot after)
    (atDepth : before.AtDepth other depth) : after.AtDepth other depth := by
  induction atDepth with
  | root live isRoot =>
      exact .root (grown.live_iff.mpr (.inr live))
        ((grown.parent?_of_ne (grown.ne_slot live)).trans isRoot)
  | under hasParent _ inductionHypothesis =>
      have different := grown.ne_slot (live_of_parent? hasParent)
      exact .under ((grown.parent?_of_ne different).trans hasParent) inductionHypothesis

/-- A node other than the new one is an old one, perhaps with the new one as last child. -/
theorem old_of_ne (grown : Grown before record parent slot after) (different : other ≠ slot)
    (found : after.node? other = some node) :
    ∃ old, before.node? other = some old ∧
      node = if parent = some other then old.appendChild slot else old := by
  rw [grown.node?, if_neg different] at found
  split at found
  · rename_i isParent
    obtain ⟨old, oldFound, rfl⟩ := Option.map_eq_some_iff.mp found
    exact ⟨old, oldFound, (if_pos isParent).symm⟩
  · rename_i notParent
    exact ⟨node, found, (if_neg notParent).symm⟩

/-- The slot was not the parent of any node, nor is it the parent of the new one. -/
theorem parent?_ne_slot (grown : Grown before record parent slot after)
    (owned : before.Owned) : after.parent? other ≠ some slot := by
  intro hasParent
  by_cases same : other = slot
  · rw [same, grown.parent?_slot] at hasParent
    exact grown.ne_slot (grown.parent_live slot hasParent) rfl
  · rw [grown.parent?_of_ne same] at hasParent
    exact grown.ne_slot (owned.parent_live hasParent) rfl

theorem not_mem_children (grown : Grown before record parent slot after) (owned : before.Owned)
    (found : before.node? other = some node) : slot ∉ node.children := by
  intro member
  have hasParent := (owned.mem_children other node found slot).mp member
  rw [parent?_of_vacant grown.vacant] at hasParent
  cases hasParent

/-- With one node more, every node still is owned exactly once. -/
theorem owned (grown : Grown before record parent slot after) (wasOwned : before.Owned) :
    after.Owned := by
  have notRoot : slot ∉ before.roots := by
    intro member
    exact grown.ne_slot ((wasOwned.mem_roots slot).mp member).1 rfl
  refine ⟨grown.sound, ?_, ?_, ?_, ?_, ?_⟩
  · rw [grown.roots]
    split
    · rw [List.nodup_append_comm]
      exact List.nodup_cons.mpr ⟨notRoot, wasOwned.roots_nodup⟩
    · exact wasOwned.roots_nodup
  · intro other
    rw [grown.roots, grown.live_iff]
    by_cases same : other = slot
    · subst same
      rw [grown.parent?_slot]
      split
      · simp [*]
      · simp [*]
    · rw [grown.parent?_of_ne same]
      split
      · simp [same, wasOwned.mem_roots]
      · simp [same, wasOwned.mem_roots]
  · intro other node found
    by_cases same : other = slot
    · rw [same, grown.node?_slot] at found
      obtain rfl := Option.some.inj found
      exact List.nodup_nil
    · obtain ⟨old, oldFound, rfl⟩ := grown.old_of_ne same found
      have oldNodup := wasOwned.children_nodup other old oldFound
      have absent := grown.not_mem_children wasOwned oldFound
      split
      · rw [Node.children_appendChild absent, List.nodup_append_comm]
        exact List.nodup_cons.mpr ⟨absent, oldNodup⟩
      · exact oldNodup
  · intro other node found child
    by_cases same : other = slot
    · subst same
      rw [grown.node?_slot] at found
      obtain rfl := Option.some.inj found
      exact ⟨fun member => absurd member List.not_mem_nil,
        fun hasParent => absurd hasParent (grown.parent?_ne_slot wasOwned)⟩
    · obtain ⟨old, oldFound, rfl⟩ := grown.old_of_ne same found
      have oldIff := wasOwned.mem_children other old oldFound
      have absent := grown.not_mem_children wasOwned oldFound
      by_cases isNew : child = slot
      · rw [isNew, grown.parent?_slot]
        split
        · rename_i isParent
          simp [Node.children_appendChild absent, isParent]
        · rename_i otherParent
          exact ⟨fun member => absurd member absent, fun isParent => absurd isParent otherParent⟩
      · rw [grown.parent?_of_ne isNew, ← oldIff child]
        split
        · simp [Node.children_appendChild absent, isNew]
        · rfl
  · intro other live
    rcases grown.live_iff.mp live with rfl | wasLive
    · cases isParent : parent with
      | none => exact ⟨0, .root live (grown.parent?_slot.trans isParent)⟩
      | some above =>
          obtain ⟨depth, atDepth⟩ := wasOwned.rooted above (grown.parent_live above isParent)
          exact ⟨depth + 1, .under (grown.parent?_slot.trans isParent) (grown.atDepth atDepth)⟩
    · obtain ⟨depth, atDepth⟩ := wasOwned.rooted other wasLive
      exact ⟨depth, grown.atDepth atDepth⟩

end Grown

theorem addRoot_grown (owned : document.Owned) (record : Record) :
    Grown document record none (document.addRoot record).1 (document.addRoot record).2 where
  vacant := owned.sound.get?_insert_slot (record.toNode none)
  parent_live := fun above isParent => by cases isParent
  sound := owned.sound.insert (record.toNode none)
  roots := (if_pos rfl).symm
  node? := by
    intro other
    rw [if_neg (show none ≠ some other from nofun)]
    exact owned.sound.get?_insert (record.toNode none) other

/-- What needs a node and succeeds has found one. -/
theorem requireNode_map_ok {α : Type} {result : Node → α} {value : α}
    (ok : (document.requireNode slot).map result = .ok value) :
    ∃ node, document.node? slot = some node ∧ result node = value := by
  unfold requireNode at ok
  split at ok
  · rename_i node found
    exact ⟨node, found, Except.ok.inj ok⟩
  · cases ok

theorem addChild_eq (document : Document) (parent : Nat) (record : Record) :
    document.addChild parent record = (document.requireNode parent).map fun _ =>
      let inserted := document.nodes.insert (record.toNode (some parent))
      (inserted.1, { document with
        nodes := inserted.2.modify parent (Node.appendChild inserted.1),
        generation := document.generation + 1 }) :=
  rfl

/-- A child that is added is one node more, at the end of its parent's children. -/
theorem addChild_grown (owned : document.Owned) {parent : Nat} {record : Record}
    (added : document.addChild parent record = .ok (slot, after)) :
    Grown document record (some parent) slot after := by
  rw [addChild_eq] at added
  obtain ⟨parentNode, parentFound, equal⟩ := requireNode_map_ok added
  obtain ⟨rfl, rfl⟩ := Prod.mk.inj equal
  have vacant := owned.sound.get?_insert_slot (record.toNode (some parent))
  have inserted := owned.sound.get?_insert (record.toNode (some parent))
  have apart : parent ≠ (document.nodes.insert (record.toNode (some parent))).1 := by
    intro same
    rw [← same] at vacant
    rw [node?, vacant] at parentFound
    cases parentFound
  refine ⟨vacant, ?_, (owned.sound.insert _).modify _ _, (if_neg nofun).symm, fun other => ?_⟩
  · intro above isParent
    obtain rfl := Option.some.inj isParent
    exact ⟨parentNode, parentFound⟩
  · refine (Arena.get?_modify _ _ _ other).trans ?_
    rw [inserted]
    by_cases isParent : other = parent
    · subst isParent
      rw [if_pos rfl, if_neg apart, if_neg apart, if_pos rfl]
      rfl
    · rw [if_neg isParent, if_neg fun same => isParent (Option.some.inj same).symm]
      rfl

/-! ## A tree less -/

namespace Pruned

/-- What stays is everything but the removed slot and what was below it. -/
theorem live_iff (pruned : Pruned before slot after) :
    after.Live other ↔ before.Live other ∧ other ≠ slot ∧ slot ∉ before.ancestors other := by
  unfold Live
  rw [pruned.node?]
  split
  · rename_i inTree
    rw [← not_or]
    simp [inTree]
  · rename_i outside
    obtain ⟨different, notBelow⟩ := not_or.mp outside
    split <;> simp [different, notBelow]

/-- Nodes that stay are what they were, but for the parent of the removed one. -/
theorem old_of_found (pruned : Pruned before slot after) (found : after.node? other = some node) :
    ∃ old, before.node? other = some old ∧
      node = if before.parent? slot = some other then old.dropChild slot else old := by
  rw [pruned.node?] at found
  split at found
  · cases found
  · split at found
    · rename_i isParent
      obtain ⟨old, oldFound, rfl⟩ := Option.map_eq_some_iff.mp found
      exact ⟨old, oldFound, (if_pos isParent).symm⟩
    · rename_i notParent
      exact ⟨node, found, (if_neg notParent).symm⟩

/-- Nodes that stay keep their parents. -/
theorem parent?_of_live (pruned : Pruned before slot after) (live : after.Live other) :
    after.parent? other = before.parent? other := by
  obtain ⟨node, found⟩ := live
  obtain ⟨old, oldFound, equal⟩ := pruned.old_of_found found
  rw [parent?_of_node? found, parent?_of_node? oldFound, equal]
  split <;> rfl

/-- What is above a node that stays does stay. -/
theorem parent_live (pruned : Pruned before slot after) (owned : before.Owned) {parent : Nat}
    (live : after.Live other) (hasParent : before.parent? other = some parent) :
    after.Live parent := by
  obtain ⟨-, -, notBelow⟩ := pruned.live_iff.mp live
  have parentLive := owned.parent_live hasParent
  obtain ⟨depth, atDepth⟩ := owned.rooted parent parentLive
  rw [atDepth.ancestors_of_parent hasParent, List.mem_cons, not_or] at notBelow
  exact pruned.live_iff.mpr ⟨parentLive, Ne.symm notBelow.1, notBelow.2⟩

theorem child_live (pruned : Pruned before slot after) (owned : before.Owned) {child : Nat}
    (live : after.Live other) (hasParent : before.parent? child = some other)
    (different : child ≠ slot) : after.Live child := by
  obtain ⟨wasLive, notSlot, notBelow⟩ := pruned.live_iff.mp live
  obtain ⟨depth, atDepth⟩ := owned.rooted other wasLive
  refine pruned.live_iff.mpr ⟨live_of_parent? hasParent, different, ?_⟩
  rw [atDepth.ancestors_of_parent hasParent, List.mem_cons, not_or]
  exact ⟨Ne.symm notSlot, notBelow⟩

theorem atDepth (pruned : Pruned before slot after) (owned : before.Owned)
    (atDepth : before.AtDepth other depth) (live : after.Live other) :
    after.AtDepth other depth := by
  induction atDepth with
  | root _ isRoot => exact .root live ((pruned.parent?_of_live live).trans isRoot)
  | under hasParent _ inductionHypothesis =>
      exact .under ((pruned.parent?_of_live live).trans hasParent)
        (inductionHypothesis (pruned.parent_live owned live hasParent))

theorem mem_roots (pruned : Pruned before slot after) (owned : before.Owned) :
    other ∈ after.roots ↔ other ∈ before.roots ∧ other ≠ slot := by
  rw [pruned.roots]
  split
  · simp
  · rename_i hasParent
    refine ⟨fun member => ⟨member, ?_⟩, And.left⟩
    rintro rfl
    exact hasParent ((owned.mem_roots other).mp member).2

/-- Without a subtree, every node still is owned exactly once. -/
theorem owned (pruned : Pruned before slot after) (wasOwned : before.Owned) : after.Owned := by
  refine ⟨pruned.sound, ?_, ?_, ?_, ?_, ?_⟩
  · rw [pruned.roots]
    split
    · exact wasOwned.roots_nodup.filter _
    · exact wasOwned.roots_nodup
  · intro other
    rw [pruned.mem_roots wasOwned, wasOwned.mem_roots]
    constructor
    · rintro ⟨⟨wasLive, isRoot⟩, different⟩
      have live : after.Live other := by
        refine pruned.live_iff.mpr ⟨wasLive, different, ?_⟩
        rw [ancestors_of_root isRoot]
        exact List.not_mem_nil
      exact ⟨live, (pruned.parent?_of_live live).trans isRoot⟩
    · rintro ⟨live, isRoot⟩
      obtain ⟨wasLive, different, -⟩ := pruned.live_iff.mp live
      exact ⟨⟨wasLive, (pruned.parent?_of_live live).symm.trans isRoot⟩, different⟩
  · intro other node found
    obtain ⟨old, oldFound, rfl⟩ := pruned.old_of_found found
    have oldNodup := wasOwned.children_nodup other old oldFound
    split
    · exact oldNodup.erase slot
    · exact oldNodup
  · intro other node found child
    have live : after.Live other := ⟨node, found⟩
    obtain ⟨old, oldFound, rfl⟩ := pruned.old_of_found found
    have oldIff := wasOwned.mem_children other old oldFound
    have remaining : child ∈ (if before.parent? slot = some other then old.dropChild slot
        else old).children ↔ child ≠ slot ∧ before.parent? child = some other := by
      rw [← oldIff child]
      split
      · exact (wasOwned.children_nodup other old oldFound).mem_erase_iff
      · rename_i otherParent
        refine ⟨fun member => ⟨?_, member⟩, And.right⟩
        rintro rfl
        exact otherParent ((oldIff child).mp member)
    rw [remaining]
    constructor
    · rintro ⟨different, hasParent⟩
      exact (pruned.parent?_of_live (pruned.child_live wasOwned live hasParent different)).trans
        hasParent
    · intro hasParent
      have childLive := live_of_parent? hasParent
      obtain ⟨-, different, -⟩ := pruned.live_iff.mp childLive
      exact ⟨different, (pruned.parent?_of_live childLive).symm.trans hasParent⟩
  · intro other live
    obtain ⟨depth, atDepth⟩ := wasOwned.rooted other (pruned.live_iff.mp live).1
    exact ⟨depth, pruned.atDepth wasOwned atDepth live⟩

end Pruned

/-- Freeing slots makes them vacant and leaves the others. -/
theorem release_spec {nodes : Arena Node} (sound : nodes.Sound) (slots : List Nat) :
    (release nodes slots).Sound ∧ ∀ other, (release nodes slots).get? other =
      if other ∈ slots then none else nodes.get? other := by
  induction slots generalizing nodes with
  | nil => exact ⟨sound, fun other => (if_neg List.not_mem_nil).symm⟩
  | cons slot rest inductionHypothesis =>
      unfold release
      rw [List.foldl_cons]
      cases erased : nodes.erase? slot with
      | none =>
          have vacant : nodes.get? slot = none := Option.map_eq_none_iff.mp erased
          obtain ⟨restSound, restView⟩ := inductionHypothesis sound
          refine ⟨restSound, fun other => (restView other).trans ?_⟩
          by_cases same : other = slot
          · simp [same, vacant]
          · simp [same]
      | some taken =>
          obtain ⟨restSound, restView⟩ := inductionHypothesis (sound.erase? erased)
          refine ⟨restSound, fun other => (restView other).trans ?_⟩
          rw [Arena.get?_erase erased]
          by_cases same : other = slot
          · simp [same]
          · simp [same]

theorem detach_spec (sound : document.nodes.Sound) (slot : Nat) (parent : Option Nat) :
    (document.detach slot parent).nodes.Sound ∧
      (document.detach slot parent).roots =
        (if parent = none then document.roots.filter (· ≠ slot) else document.roots) ∧
      ∀ other, (document.detach slot parent).node? other =
        if parent = some other then (document.node? other).map (Node.dropChild slot)
        else document.node? other := by
  cases parent with
  | none => exact ⟨sound, (if_pos rfl).symm, fun other => (if_neg nofun).symm⟩
  | some parent =>
      refine ⟨sound.modify parent _, (if_neg nofun).symm, fun other => ?_⟩
      rw [detach, node?_update]
      by_cases same : other = parent
      · rw [if_pos same, if_pos (congrArg some same.symm)]
      · rw [if_neg same, if_neg fun equal => same (Option.some.inj equal).symm]

theorem removeTree_pruned (owned : document.Owned) {count : Nat}
    (removed : document.removeTree slot = .ok (count, after)) : Pruned document slot after := by
  obtain ⟨node, found, equal⟩ := requireNode_map_ok removed
  obtain ⟨-, rfl⟩ := Prod.mk.inj equal
  have live : document.Live slot := ⟨node, found⟩
  obtain ⟨tree, isTree, rfl, fits⟩ := owned.exists_tree? live
  obtain ⟨detachedSound, roots, view⟩ := detach_spec owned.sound tree.slot node.parent
  rw [isTree]
  obtain ⟨sound, released⟩ := release_spec detachedSound tree.removalOrder
  refine ⟨live, sound, ?_, fun other => ?_⟩
  · rw [parent?_of_node? found]
    exact roots
  · rw [parent?_of_node? found]
    refine (released other).trans ?_
    by_cases inTree : other ∈ tree.removalOrder
    · rw [if_pos inTree, if_pos]
      exact fits.eq_or_below owned (tree.removalOrder_perm.mem_iff.mp inTree)
    · rw [if_neg inTree]
      refine (view other).trans ?_
      by_cases otherLive : document.Live other
      · rw [tree.removalOrder_perm.mem_iff, fits.mem_preorder owned otherLive] at inTree
        rw [if_neg inTree]
      · rw [node?_of_not_live otherLive]
        simp

end Document

end Outliner
