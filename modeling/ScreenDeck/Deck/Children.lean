import ScreenDeck.Deck.Lifetime

/-! Children of a screen. A tree lists them, and its grid holds their views. -/

namespace ScreenDeck.Deck

/-- The view goes into the grid on the UI side, and the child onto the list after that. -/
def addChild (t : Ref .tree) (child : Child) : Do Unit := do
  let d ← Act.state
  let view := d.viewOf child
  let grid := (d.trees.get t).grid
  Act.runSync (Act.modifyState fun d => d.modifyGrid grid (·.addView view))
  Act.modifyState fun d => d.modifyTree t fun tree => { tree with children := tree.children ++ [child] }
  let d ← Act.state
  if 1 < (d.trees.get t).children.length then Act.note .manyChildren

/-- Takes a view out of a grid. The last of the others is put in place again. -/
def detach (view : ViewId) (g : Grid) : Grid :=
  let (_, g) := g.removeView view
  if g.cells.isEmpty then g else g.pinLast

/-- The view leaves the grid on the UI side. Then the first entry of the same child leaves the
list, which may have been all that held it. -/
def dropChild (t : Ref .tree) (child : Child) : Do Unit := do
  let d ← Act.state
  let view := d.viewOf child
  let grid := (d.trees.get t).grid
  Act.runSync (Act.modifyState fun d => d.modifyGrid grid (detach view))
  Act.modifyState fun d =>
    (d.modifyTree t fun tree => { tree with children := tree.children.erase child }).letGo [child]

def removeChild (t : Ref .tree) (handle : Handle) : Do (Option Child) := do
  let d ← Act.state
  match (d.trees.get t).children.find? fun c => d.handleOf c = handle with
  | none => return none
  | some child =>
    dropChild t child
    return some child

def removeChildAt (t : Ref .tree) (index : Int32) : Do (Option Child) := do
  let d ← Act.state
  let children := (d.trees.get t).children
  let found := if index < 0 then none else children[index.toInt.toNat]?
  match found with
  | none => return none
  | some child =>
    dropChild t child
    return some child

def treeText (d : Deck) (t : Ref .tree) : String :=
  let tree := d.trees.get t
  Text.record "ScreenWidgetTree"
    [("owner", "WidgetHandle(" ++ toString tree.owner.raw.toInt ++ ")"),
     ("child_count", toString tree.children.length)] false

end ScreenDeck.Deck
