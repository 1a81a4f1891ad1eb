import Outliner.Proofs.Document.StackWalk
import Outliner.Proofs.History
import Outliner.Search.Match

/-!
Contract: the scan of a document and the test of one node agree.

Owns: which slots a scan finds, in which order, and the nodes that it returns.

Main statement: `Reachable.scan_agrees`.

Does not own: the order of the forest (`Proofs.Document.StackWalk`), and what an expression
says about a node (`Search.Match`).
-/

namespace Outliner

open Outliner.Calendar Outliner.Query Outliner.Search

namespace Search

variable {scene : Scene} {expr : Expr} {slot : Nat}

/-- The test fails at a slot without a node. -/
theorem matchesSlot_of_not_live (vacant : ¬ scene.document.Live slot) (expr : Expr) :
    matchesSlot scene expr slot = false := by
  rw [matchesSlot, Document.node?_of_not_live vacant]
  rfl

/-- A live node is found exactly if it matches: every live node is owned, and so walked to. -/
theorem mem_matchingSlots (owned : scene.document.Owned) :
    slot ∈ matchingSlots scene expr ↔
      scene.document.Live slot ∧ matchesSlot scene expr slot = true := by
  unfold matchingSlots
  rw [List.mem_filter, owned.mem_preorder]

/-- A scan returns the node of every slot that it finds. -/
theorem map_some_matchingNodes (scene : Scene) (expr : Expr) :
    (matchingNodes scene expr).map some =
      (matchingSlots scene expr).map scene.document.node? := by
  unfold matchingNodes
  rw [List.map_filterMap_some_eq_filter_map_isSome, List.filter_eq_self]
  intro node isListed
  obtain ⟨slot, isMatch, rfl⟩ := List.mem_map.mp isListed
  by_contra vacant
  have fails := matchesSlot_of_not_live (mt Option.isSome_iff_exists.mpr vacant) expr
  rw [(List.mem_filter.mp isMatch).2] at fails
  cases fails

end Search

/-- In every reachable document, a scan finds exactly the slots that hold a node and pass the
test, each once, in the order in which the stack yields them from the roots, which is the
pre-order; it returns the nodes in these slots, and slots without a node fail the test. -/
theorem Reachable.scan_agrees {document : Document} (reached : Reachable document)
    (zone : Zone) (now : Instant) (expr : Expr) :
    let scene := Scene.ofNow document zone now
    (∀ visited, document.Walks document.roots visited ↔ visited = document.preorder) ∧
    (∀ order, document.InPreorder document.roots order ↔ order = document.preorder) ∧
    matchingSlots scene expr = document.preorder.filter (matchesSlot scene expr) ∧
    (∀ slot, slot ∈ matchingSlots scene expr ↔
      document.Live slot ∧ matchesSlot scene expr slot = true) ∧
    (matchingSlots scene expr).Nodup ∧
    (matchingNodes scene expr).map some = (matchingSlots scene expr).map document.node? ∧
    ∀ slot, ¬ document.Live slot → matchesSlot scene expr slot = false := by
  intro scene
  have owned : document.Owned := reached.owned
  refine ⟨fun _ => owned.walks_iff, fun _ => owned.inPreorder_iff, rfl,
    fun _ => mem_matchingSlots owned, owned.preorder_nodup.filter _,
    map_some_matchingNodes scene expr, fun _ vacant => matchesSlot_of_not_live vacant expr⟩

/-- A slot that was freed and taken again lower in the forest is found after a higher one. -/
theorem scan_agrees_reused :
    let record := fun number text => Record.plain (.ofNat number) text .last .last
    let document := Operation.run
      [.addRoot (record 1 "plan"), .addChild 0 (record 2 "old note"),
        .addChild 0 (record 3 "note"), .removeTree 1, .addChild 2 (record 4 "new note")]
    let scene := Scene.ofNow document .universal .last
    let expr := Expr.leaf (.text "note")
    Reachable document ∧ document.Walks document.roots [0, 2, 1] ∧
      document.InPreorder document.roots [0, 2, 1] ∧ matchingSlots scene expr = [2, 1] ∧
      (matchingNodes scene expr).map some = [2, 1].map document.node? ∧
      matchesSlot scene (.not expr) 3 = false := by
  intro record document scene expr
  have reached : Reachable document := .run fun _ _ => trivial
  obtain ⟨walks, order, -, -, -, nodes, -⟩ :=
    Reachable.scan_agrees reached .universal .last expr
  obtain ⟨-, -, -, -, -, -, vacant⟩ :=
    Reachable.scan_agrees reached .universal .last (.not expr)
  have found : matchingSlots scene expr = [2, 1] := by decide +kernel
  refine ⟨reached, (walks _).mpr (by decide +kernel), (order _).mpr (by decide +kernel), found,
    found ▸ nodes, vacant 3 ?_⟩
  rintro ⟨node, isNode⟩
  have noNode : document.node? 3 = none := by decide +kernel
  rw [noNode] at isNode
  cases isNode

end Outliner
