import Outliner.Proofs.Document.Freeing
import Outliner.Proofs.Document.StackWalk
import Outliner.Proofs.History

/-!
Contract: edits of the forest move blocks of the pre-order.

Owns: that the pre-order lists each subtree without a gap, and what becomes of it where a
subtree is replaced by other nodes in the list that its root is in; removals and additions
are cases of this.

Main statements: `InPreorder.exists_around` finds the block, `Around.substitute` replaces it;
`Reachable.edits_move_blocks` puts the cases together.

Does not own: which slots an edit changes (`Proofs.Document.Ownership`), and the loop of a
removal (`Proofs.Document.Freeing`).
-/

namespace Outliner

open Outliner.Store

namespace Document

variable {document before after : Document} {slot target parent : Nat} {node : Node}
  {slots listed block renewed : List Nat} {record : Record}

/-- Slots with a list in the place of one of them. -/
def substitute (target : Nat) (renewed slots : List Nat) : List Nat :=
  slots.flatMap fun slot => if slot = target then renewed else [slot]

theorem substitute_of_not_mem (absent : target ∉ slots) (renewed : List Nat) :
    substitute target renewed slots = slots := by
  have unchanged : ∀ slot ∈ slots, (if slot = target then renewed else [slot]) = [slot] :=
    fun slot isSlot => if_neg fun (same : slot = target) => absent (same ▸ isSlot)
  exact (List.flatMap_congr unchanged).trans (List.flatMap_singleton' slots)

theorem substitute_cons_self (target : Nat) (renewed slots : List Nat) :
    substitute target renewed (target :: slots) = renewed ++ substitute target renewed slots := by
  rw [substitute, List.flatMap_cons, if_pos rfl]
  rfl

theorem substitute_cons_of_ne (different : slot ≠ target) (renewed slots : List Nat) :
    substitute target renewed (slot :: slots) = slot :: substitute target renewed slots := by
  rw [substitute, List.flatMap_cons, if_neg different]
  rfl

/-- A slot in the place of itself changes nothing. -/
theorem substitute_singleton (target : Nat) (slots : List Nat) :
    substitute target [target] slots = slots := by
  have unchanged : ∀ slot ∈ slots, (if slot = target then [target] else [slot]) = [slot] := by
    intro slot _
    split
    · rename_i same
      rw [same]
    · rfl
  exact (List.flatMap_congr unchanged).trans (List.flatMap_singleton' slots)

/-- Nothing in the place of a slot takes it out. -/
theorem substitute_nil (nodup : slots.Nodup) : substitute target [] slots = slots.erase target := by
  induction slots with
  | nil => rfl
  | cons slot rest inductionHypothesis =>
      obtain ⟨absent, restNodup⟩ := List.nodup_cons.mp nodup
      by_cases same : slot = target
      · subst same
        rw [substitute_cons_self, substitute_of_not_mem absent, List.erase_cons_head,
          List.nil_append]
      · rw [substitute_cons_of_ne same, inductionHypothesis restNodup,
          List.erase_cons_tail (by simpa using same)]

/-- The node in a slot has other slots in the place of one among its children. -/
def SubstitutedAt (before after : Document) (target : Nat) (renewed : List Nat) (slot : Nat) :
    Prop :=
  ∀ node, before.node? slot = some node →
    ∃ kept, after.node? slot = some kept ∧
      kept.children = substitute target renewed node.children

/-! ## Orders of some slots -/

namespace InPreorder

/-- Pre-orders of slots one after another are joined. -/
theorem append {others more : List Nat} (order : document.InPreorder slots listed)
    (further : document.InPreorder others more) :
    document.InPreorder (slots ++ others) (listed ++ more) := by
  induction order with
  | none => exact further
  | node found children rest _ restHypothesis =>
      rw [List.cons_append, List.append_assoc]
      exact .node found children restHypothesis

/-- An order only depends on the children of the nodes that it lists. -/
theorem congr (order : before.InPreorder slots listed)
    (same : ∀ slot ∈ listed, ∀ node, before.node? slot = some node →
      ∃ kept, after.node? slot = some kept ∧ kept.children = node.children) :
    after.InPreorder slots listed := by
  induction order with
  | none => exact .none
  | @node slot node siblings below behind found _ _ childrenHypothesis restHypothesis =>
      obtain ⟨kept, isKept, sameChildren⟩ :=
        same slot (List.mem_append_left _ List.mem_cons_self) node found
      have children := childrenHypothesis fun other isBelow =>
        same other (List.mem_append_left _ (List.mem_cons_of_mem slot isBelow))
      rw [← sameChildren] at children
      exact .node isKept children (restHypothesis fun other isBehind =>
        same other (List.mem_append_right _ isBehind))

/-- A node outside the place that is taken is listed in front of what is now below it. -/
theorem node_of_substitutedAt {siblings below behind : List Nat}
    (found : before.node? slot = some node)
    (outside : slot ≠ target ∧ before.SubstitutedAt after target renewed slot)
    (children : after.InPreorder (substitute target renewed node.children) below)
    (rest : after.InPreorder (substitute target renewed siblings) behind) :
    after.InPreorder (substitute target renewed (slot :: siblings)) (slot :: below ++ behind) := by
  obtain ⟨kept, isKept, keptChildren⟩ := outside.2 node found
  rw [← keptChildren] at children
  rw [substitute_cons_of_ne outside.1]
  exact .node isKept children rest

/-- Where the place that is taken is not listed, the order stays. -/
theorem of_outside (order : before.InPreorder slots listed)
    (outside : ∀ slot ∈ listed, slot ≠ target ∧ before.SubstitutedAt after target renewed slot) :
    after.InPreorder (substitute target renewed slots) listed := by
  induction order with
  | none => exact .none
  | node found _ _ childrenHypothesis restHypothesis =>
      obtain ⟨outsideTree, outsideBehind⟩ := List.forall_mem_append.mp outside
      obtain ⟨outsideSlot, outsideBelow⟩ := List.forall_mem_cons.mp outsideTree
      exact node_of_substitutedAt found outsideSlot (childrenHypothesis outsideBelow)
        (restHypothesis outsideBehind)

/-- The order of one node begins with it. -/
theorem exists_below (order : document.InPreorder [slot] listed) :
    ∃ node below, listed = slot :: below ∧ document.node? slot = some node ∧
      document.InPreorder node.children below := by
  cases order with
  | @node _ node _ below _ found children rest =>
      cases rest
      exact ⟨node, below, List.append_nil _, found, children⟩

end InPreorder

/-- What is listed in front of a node and all below it, and what is listed behind them. -/
inductive Around (document : Document) (target : Nat) : List Nat → List Nat → List Nat → Prop where
  | here {siblings back : List Nat} (rest : document.InPreorder siblings back) :
      Around document target (target :: siblings) [] back
  | inside {slot : Nat} {node : Node} {siblings front back behind : List Nat}
      (found : document.node? slot = some node)
      (below : Around document target node.children front back)
      (rest : document.InPreorder siblings behind) :
      Around document target (slot :: siblings) (slot :: front) (back ++ behind)
  | further {slot : Nat} {node : Node} {siblings below front back : List Nat}
      (found : document.node? slot = some node)
      (children : document.InPreorder node.children below)
      (behind : Around document target siblings front back) :
      Around document target (slot :: siblings) (slot :: below ++ front) back

/-- A node and all below it are listed without a gap. -/
theorem InPreorder.exists_around (order : document.InPreorder slots listed)
    (isBlock : document.InPreorder [target] block) (isListed : target ∈ listed) :
    ∃ front back, listed = front ++ block ++ back ∧ document.Around target slots front back := by
  induction order with
  | none => cases isListed
  | @node slot node siblings below behind found children rest childrenHypothesis
      restHypothesis =>
      by_cases isTarget : slot = target
      · subst isTarget
        have same := (InPreorder.node found children .none).unique isBlock
        rw [List.append_nil] at same
        exact ⟨[], behind, by rw [same, List.nil_append], .here rest⟩
      · have notHere : target ≠ slot := Ne.symm isTarget
        have targetListed : target ∈ below ∨ target ∈ behind := by
          simpa [notHere] using isListed
        rcases targetListed with isBelow | isBehind
        · obtain ⟨front, back, split, around⟩ := childrenHypothesis isBelow
          exact ⟨slot :: front, back ++ behind, by simp [split], .inside found around rest⟩
        · obtain ⟨front, back, split, around⟩ := restHypothesis isBehind
          exact ⟨slot :: below ++ front, back, by simp [split], .further found children around⟩

/-- If other nodes take the place of a node in the list that it is in, then the order of these
takes the place of its block. -/
theorem Around.substitute {front back renewal : List Nat}
    (around : before.Around target slots front back)
    (outside : ∀ slot ∈ front ++ back,
      slot ≠ target ∧ before.SubstitutedAt after target renewed slot)
    (isRenewal : after.InPreorder renewed renewal) :
    after.InPreorder (Document.substitute target renewed slots) (front ++ renewal ++ back) := by
  induction around with
  | here rest =>
      rw [substitute_cons_self]
      exact isRenewal.append (rest.of_outside outside)
  | inside found _ rest inductionHypothesis =>
      rw [← List.append_assoc] at outside
      obtain ⟨outsideTree, outsideBehind⟩ := List.forall_mem_append.mp outside
      obtain ⟨outsideSlot, outsideBelow⟩ := List.forall_mem_cons.mp outsideTree
      rw [← List.append_assoc]
      exact .node_of_substitutedAt found outsideSlot (inductionHypothesis outsideBelow)
        (rest.of_outside outsideBehind)
  | further found children _ inductionHypothesis =>
      rw [List.append_assoc] at outside
      obtain ⟨outsideTree, outsideBehind⟩ := List.forall_mem_append.mp outside
      obtain ⟨outsideSlot, outsideBelow⟩ := List.forall_mem_cons.mp outsideTree
      have order := InPreorder.node_of_substitutedAt found outsideSlot
        (children.of_outside outsideBelow) (inductionHypothesis outsideBehind)
      rw [← List.append_assoc, ← List.append_assoc] at order
      exact order

/-! ## Blocks of the forest -/

namespace Owned

theorem inPreorder_subtree (owned : document.Owned) (live : document.Live slot) :
    document.InPreorder [slot] (document.subtree slot) := by
  obtain ⟨tree, isSubtree, rfl, fits⟩ := owned.exists_subtree live
  have order := fits.inPreorder .none
  rw [List.append_nil, ← isSubtree] at order
  exact order

/-- The walk that begins with a node on the stack ends, and yields its subtree. -/
theorem walks_subtree_iff (owned : document.Owned) (live : document.Live slot) :
    document.Walks [slot] listed ↔ listed = document.subtree slot := by
  have walk := (owned.inPreorder_subtree live).walks (Walks.done rfl : document.Walks [] [])
  rw [List.append_nil, List.append_nil] at walk
  constructor
  · exact fun other => other.unique walk
  · rintro rfl
    exact walk

/-- What a subtree is replaced by takes the place of its block in the pre-order. -/
theorem preorder_substitute (owned : before.Owned) (afterOwned : after.Owned)
    (live : before.Live slot) {renewal : List Nat}
    (isRenewal : after.InPreorder renewed renewal)
    (outside : ∀ other, other ∉ before.subtree slot →
      before.SubstitutedAt after slot renewed other)
    (roots : after.roots = substitute slot renewed before.roots) :
    ∃ front back, before.preorder = front ++ before.subtree slot ++ back ∧
      after.preorder = front ++ renewal ++ back := by
  obtain ⟨front, back, split, around⟩ :=
    owned.inPreorder.exists_around (owned.inPreorder_subtree live) (owned.mem_preorder.mpr live)
  have apart : ∀ other ∈ front ++ back, other ∉ before.subtree slot := by
    have nodup := owned.preorder_nodup
    rw [split, List.append_assoc] at nodup
    have disjoint := (List.nodup_append.mp ((List.perm_append_comm_assoc _ _ _).nodup nodup)).2.2
    exact fun other isAround inBlock => disjoint other inBlock other isAround rfl
  have inBlock : slot ∈ before.subtree slot := (owned.mem_subtree live live).mpr (.inl rfl)
  have order := around.substitute (fun other isAround =>
    ⟨(ne_of_mem_of_not_mem inBlock (apart other isAround)).symm,
      outside other (apart other isAround)⟩) isRenewal
  rw [← roots] at order
  exact ⟨front, back, split, (afterOwned.inPreorder_iff.mp order).symm⟩

/-- Each subtree is a block of the pre-order. -/
theorem exists_block (owned : document.Owned) (live : document.Live slot) :
    ∃ front back, document.preorder = front ++ document.subtree slot ++ back := by
  obtain ⟨front, back, split, -⟩ :=
    owned.inPreorder.exists_around (owned.inPreorder_subtree live) (owned.mem_preorder.mpr live)
  exact ⟨front, back, split⟩

end Owned

/-! ## A tree less -/

namespace Pruned

variable {other : Nat}

/-- The nodes that are left are what they were, but for the slot among their children. -/
theorem node?_of_not_mem (pruned : Pruned before slot after) (owned : before.Owned)
    (outside : other ∉ before.subtree slot) :
    after.node? other =
      (before.node? other).map fun node => { node with children := node.children.erase slot } := by
  by_cases live : before.Live other
  · rw [owned.mem_subtree pruned.live live, eq_comm] at outside
    rw [pruned.node?, if_neg outside]
    split
    · rfl
    · rename_i otherParent
      obtain ⟨node, found⟩ := live
      have notChild : slot ∉ node.children :=
        mt (owned.mem_children other node found slot).mp otherParent
      rw [found, Option.map_some, List.erase_of_not_mem notChild]
  · rw [node?_of_not_live live, Option.map_none]
    exact node?_of_not_live fun isLeft => live (pruned.live_iff.mp isLeft).1

/-- What is not in the removed subtree stays, and nothing else. -/
theorem live_iff_not_mem (pruned : Pruned before slot after) (owned : before.Owned) :
    after.Live other ↔ before.Live other ∧ other ∉ before.subtree slot := by
  rw [pruned.live_iff]
  apply and_congr_right
  intro live
  rw [owned.mem_subtree pruned.live live, not_or, eq_comm]

theorem roots_eq_erase (pruned : Pruned before slot after) (owned : before.Owned) :
    after.roots = before.roots.erase slot := by
  rw [pruned.roots]
  split
  · rw [owned.roots_nodup.erase_eq_filter]
    exact List.filter_congr fun other _ => by rw [bne, decide_not, beq_eq_decide]
  · rename_i hasParent
    rw [List.erase_of_not_mem fun isRoot => hasParent ((owned.mem_roots slot).mp isRoot).2]

/-- Removing a tree cuts one block out of the pre-order. -/
theorem preorder (pruned : Pruned before slot after) (owned : before.Owned) :
    ∃ front back, before.preorder = front ++ before.subtree slot ++ back ∧
      after.preorder = front ++ back := by
  have outside : ∀ other, other ∉ before.subtree slot →
      before.SubstitutedAt after slot [] other := by
    intro other notIn node found
    have left := pruned.node?_of_not_mem owned notIn
    rw [found] at left
    exact ⟨_, left, (substitute_nil (owned.children_nodup other node found)).symm⟩
  obtain ⟨front, back, split, cut⟩ := owned.preorder_substitute (pruned.owned owned) pruned.live
    .none outside ((pruned.roots_eq_erase owned).trans (substitute_nil owned.roots_nodup).symm)
  rw [List.append_nil] at cut
  exact ⟨front, back, split, cut⟩

end Pruned

/-- A tree that is there can be removed, and its size is returned. -/
theorem Owned.exists_removeTree (owned : document.Owned) (live : document.Live slot) :
    ∃ after, document.removeTree slot = .ok ((document.subtree slot).length, after) := by
  obtain ⟨node, found⟩ := live
  obtain ⟨tree, isTree, -, -⟩ := owned.exists_tree? ⟨node, found⟩
  unfold removeTree requireNode subtree
  rw [found, isTree]
  refine ⟨_, congrArg Except.ok (Prod.ext ?_ rfl)⟩
  exact tree.removalOrder_perm.length_eq

/-! ## One node more -/

/-- A node that is there can be given a child. -/
theorem exists_addChild (live : document.Live parent) (record : Record) :
    ∃ added, document.addChild parent record = .ok added := by
  obtain ⟨node, found⟩ := live
  unfold addChild requireNode
  rw [found]
  exact ⟨_, rfl⟩

namespace Grown

/-- The new node has nothing below it. -/
theorem inPreorder_slot {parent : Option Nat} (grown : Grown before record parent slot after) :
    after.InPreorder [slot] [slot] :=
  .node grown.node?_slot .none .none

/-- A new root comes last in the pre-order. -/
theorem preorder_root (grown : Grown before record none slot after) (owned : before.Owned) :
    after.preorder = before.preorder ++ [slot] := by
  have kept : after.InPreorder before.roots before.preorder := by
    apply owned.inPreorder.congr
    intro other isListed node found
    refine ⟨node, ?_, rfl⟩
    rw [grown.node?, if_neg (grown.ne_slot ⟨node, found⟩), if_neg nofun, found]
  have order := kept.append grown.inPreorder_slot
  rw [← show after.roots = before.roots ++ [slot] from grown.roots] at order
  exact ((grown.owned owned).inPreorder_iff.mp order).symm

/-- A new child comes right behind everything that was below its parent. -/
theorem preorder_child (grown : Grown before record (some parent) slot after)
    (owned : before.Owned) :
    ∃ front back, before.preorder = front ++ before.subtree parent ++ back ∧
      after.preorder = front ++ before.subtree parent ++ slot :: back := by
  have parentLive := grown.parent_live parent rfl
  have others : ∀ other, other ≠ parent → ∀ node, before.node? other = some node →
      after.node? other = some node := by
    intro other different node found
    rw [grown.node?, if_neg (grown.ne_slot ⟨node, found⟩),
      if_neg fun isParent => different (Option.some.inj isParent).symm, found]
  obtain ⟨node, below, isSubtree, found, children⟩ :=
    (owned.inPreorder_subtree parentLive).exists_below
  obtain ⟨notBelow, -⟩ : parent ∉ below ∧ below.Nodup := by
    obtain ⟨_, sameSubtree, nodup, -⟩ := owned.subtree_eq_cons parentLive
    rw [← sameSubtree, isSubtree] at nodup
    exact List.nodup_cons.mp nodup
  have childrenKept : after.InPreorder node.children below :=
    children.congr fun other isBelow otherNode isOther =>
      ⟨otherNode, others other (fun same => notBelow (same ▸ isBelow)) otherNode isOther, rfl⟩
  have grownChildren : (node.appendChild slot).children = node.children ++ [slot] :=
    Node.children_appendChild (grown.not_mem_children owned found)
  have isParent : after.node? parent = some (node.appendChild slot) := by
    rw [grown.node?, if_neg (grown.ne_slot parentLive), if_pos rfl, found]
    rfl
  have renewal : after.InPreorder [parent] (before.subtree parent ++ [slot]) := by
    have extended := childrenKept.append grown.inPreorder_slot
    rw [← grownChildren] at extended
    have order := InPreorder.node isParent extended .none
    rw [List.append_nil] at order
    rw [isSubtree]
    exact order
  have outside : ∀ other, other ∉ before.subtree parent →
      before.SubstitutedAt after parent [parent] other := by
    intro other notIn otherNode isOther
    have different : other ≠ parent := by
      rintro rfl
      rw [isSubtree] at notIn
      exact notIn List.mem_cons_self
    exact ⟨otherNode, others other different otherNode isOther,
      (substitute_singleton parent otherNode.children).symm⟩
  obtain ⟨front, back, split, grownOrder⟩ := owned.preorder_substitute (grown.owned owned)
    parentLive renewal outside
    ((show after.roots = before.roots from grown.roots).trans
      (substitute_singleton parent before.roots).symm)
  refine ⟨front, back, split, grownOrder.trans ?_⟩
  rw [← List.append_assoc, List.append_assoc, List.singleton_append]

end Grown

end Document

open Document

/-- In every reachable document each subtree, which the walk from its root yields, is a block
of the pre-order. A removal cuts this block out: it counts and frees exactly its slots, and
the other nodes are what they were, but that its root is no longer among the children of its
parent or among the roots. A new root comes at the end of the pre-order, in a slot that was
vacant, and a new child right behind the block of its parent. -/
theorem Reachable.edits_move_blocks {document : Document} (reached : Reachable document) :
    (∀ slot, document.Live slot →
      (∀ visited, document.Walks [slot] visited ↔ visited = document.subtree slot) ∧
      ∃ front back, document.preorder = front ++ document.subtree slot ++ back) ∧
    (∀ slot node, document.node? slot = some node → ∃ after,
      document.removeTree slot = .ok ((document.subtree slot).length, after) ∧
      (∀ count nodes, Frees (document.detach slot node.parent).nodes [slot] count nodes ↔
        count = (document.subtree slot).length ∧ nodes = after.nodes) ∧
      (∀ other, after.Live other ↔ document.Live other ∧ other ∉ document.subtree slot) ∧
      (∃ front back, document.preorder = front ++ document.subtree slot ++ back ∧
        after.preorder = front ++ back) ∧
      (∀ other, other ∉ document.subtree slot → after.node? other =
        (document.node? other).map fun left =>
          { left with children := left.children.erase slot }) ∧
      after.roots = document.roots.erase slot) ∧
    (∀ record slot after, document.addRoot record = (slot, after) →
      ¬ document.Live slot ∧ after.preorder = document.preorder ++ [slot]) ∧
    ∀ parent record, document.Live parent → ∃ slot after,
      document.addChild parent record = .ok (slot, after) ∧ ¬ document.Live slot ∧
      ∃ front back, document.preorder = front ++ document.subtree parent ++ back ∧
        after.preorder = front ++ document.subtree parent ++ slot :: back := by
  have owned : document.Owned := reached.owned
  refine ⟨fun slot live => ⟨fun _ => owned.walks_subtree_iff live, owned.exists_block live⟩,
    fun slot node found => ?_, fun record slot after added => ?_,
    fun parent record live => ?_⟩
  · obtain ⟨after, removed⟩ := owned.exists_removeTree ⟨node, found⟩
    have pruned := removeTree_pruned owned removed
    exact ⟨after, removed, fun _ _ => owned.frees_iff found removed,
      fun _ => pruned.live_iff_not_mem owned, pruned.preorder owned,
      fun _ => pruned.node?_of_not_mem owned, pruned.roots_eq_erase owned⟩
  · have grown : Grown document record none slot after := by
      have grown := addRoot_grown owned record
      rw [added] at grown
      exact grown
    exact ⟨fun live => grown.ne_slot live rfl, grown.preorder_root owned⟩
  · obtain ⟨⟨slot, after⟩, added⟩ := exists_addChild live record
    have grown := addChild_grown owned added
    exact ⟨slot, after, added, fun live => grown.ne_slot live rfl, grown.preorder_child owned⟩

/-- In slots that are not in the order of the forest, a subtree with a node below it is cut out
of the middle, and a child is put behind a block with two nodes in it. -/
theorem edits_move_blocks_middle :
    let record := fun number => Record.plain (.ofNat number) "" .last .last
    let document := Operation.run
      [.addRoot (record 1), .addChild 0 (record 2), .addChild 0 (record 3), .removeTree 1,
        .addRoot (record 4), .addChild 2 (record 5)]
    Reachable document ∧ document.preorder = [0, 2, 3, 1] ∧
      (∃ after, document.removeTree 2 = .ok (2, after) ∧
        ∃ front back, document.preorder = front ++ [2, 3] ++ back ∧
          after.preorder = front ++ back) ∧
      ∃ slot after, document.addChild 2 (record 6) = .ok (slot, after) ∧
        ∃ front back, document.preorder = front ++ [2, 3] ++ back ∧
          after.preorder = front ++ [2, 3] ++ slot :: back := by
  intro record document
  have reached : Reachable document := .run fun _ _ => trivial
  obtain ⟨-, removal, -, child⟩ := Reachable.edits_move_blocks reached
  obtain ⟨node, found⟩ : ∃ node, document.node? 2 = some node :=
    Option.isSome_iff_exists.mp (by decide +kernel)
  have isSubtree : document.subtree 2 = [2, 3] := by decide +kernel
  obtain ⟨cut, removed, -, -, blocks, -⟩ := removal 2 node found
  obtain ⟨slot, grown, added, -, moved⟩ := child 2 (record 6) ⟨node, found⟩
  rw [isSubtree] at removed blocks moved
  exact ⟨reached, by decide +kernel, ⟨cut, removed, blocks⟩, slot, grown, added, moved⟩

end Outliner
