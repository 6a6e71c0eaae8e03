import ScreenDeck.Proofs.ScreenTrees

/-! Calls that change the children of a screen. Such a call is carried out as a whole, on the grid and
on the list, or it changes nothing. -/

namespace ScreenDeck.Deck

variable {d e : Deck} {t : Ref .tree} {c : Child}

def children (t : Ref .tree) (d : Deck) : List Child := (d.trees.get t).children

def gridOf (t : Ref .tree) (d : Deck) : Grid := d.grids.get (d.trees.get t).grid

def Planted (t : Ref .tree) (d : Deck) : Prop :=
  ∃ x, d.trees.get? t = some x ∧ (d.grids.get? x.grid).isSome

def replant (t : Ref .tree) (onGrid : Grid → Grid) (onList : List Child → List Child) (d : Deck) :
    Deck :=
  (d.modifyGrid (d.trees.get t).grid onGrid).modifyTree t fun tree =>
    { tree with children := onList tree.children }

section Replant

variable {onGrid : Grid → Grid} {onList : List Child → List Child}

theorem get?_trees_replant {x : Tree} (h : d.trees.get? t = some x) :
    (d.replant t onGrid onList).trees.get? t = some { x with children := onList x.children } := by
  rw [replant, modifyTree, Store.get?_modify_self, modifyGrid, h]
  rfl

theorem children_replant (h : Planted t d) :
    (d.replant t onGrid onList).children t = onList (d.children t) := by
  obtain ⟨x, hx, -⟩ := h
  rw [children, children, Store.get_of_get? (get?_trees_replant hx), Store.get_of_get? hx]

theorem gridOf_replant (h : Planted t d) :
    (d.replant t onGrid onList).gridOf t = onGrid (d.gridOf t) := by
  obtain ⟨x, hx, hg⟩ := h
  obtain ⟨g, hg⟩ := Option.isSome_iff_exists.mp hg
  have hafter : (d.replant t onGrid onList).grids.get? x.grid = some (onGrid g) := by
    rw [replant, Store.get_of_get? hx]
    exact (Store.get?_modify_self _ _ _).trans (by rw [hg]; rfl)
  rw [gridOf, gridOf, Store.get_of_get? (get?_trees_replant hx), Store.get_of_get? hx,
    Store.get_of_get? hafter, Store.get_of_get? hg]

theorem planted_replant (h : Planted t d) : Planted t (d.replant t onGrid onList) := by
  obtain ⟨x, hx, hg⟩ := h
  refine ⟨_, get?_trees_replant hx, ?_⟩
  exact (Store.isSome_get?_modify _ _ _ _).trans hg

theorem viewOf_replant (c : Child) (hv : ∀ g, (onGrid g).view = g.view) :
    (d.replant t onGrid onList).viewOf c = d.viewOf c := by
  cases c with
  | widget w => rfl
  | screen s => exact Store.apply_get_modify (p := Grid.view) d.grids _ _ hv

end Replant

def added (t : Ref .tree) (c : Child) (d : Deck) : Deck :=
  d.replant t (·.addView (d.viewOf c)) (· ++ [c])

def removed (t : Ref .tree) (c : Child) (d : Deck) : Deck :=
  (d.replant t (detach (d.viewOf c)) (·.erase c)).letGo [c]

/-- A child is listed and gets its cell in one piece of work, so it never has one without the other. -/
theorem addChild_apply (t : Ref .tree) (c : Child) (s : Scene Deck) :
    addChild t c s =
      if s.context.Serves then (.ok (), {
        context := s.context.outside s.context.inside
        notices := s.notices ++
          if 1 < ((s.state.added t c).children t).length then [.manyChildren] else []
        state := s.state.added t c })
      else (.error s.context.refusal.1, { s with context := s.context.refusal.2 }) := by
  rw [addChild, Act.bind_apply_ok (Act.state_apply s), Act.bind_apply, Act.runSync_modifyState]
  by_cases hs : s.context.Serves
  · simp only [if_pos hs, Act.bind_apply, Act.modifyState_apply, Act.state_apply]
    change (if 1 < ((s.state.added t c).children t).length then Act.note .manyChildren else pure ())
      ⟨s.context.outside s.context.inside, s.notices, s.state.added t c⟩ = _
    split
    · rfl
    · rw [List.append_nil]
      rfl
  · simp only [if_neg hs]

theorem dropChild_apply (t : Ref .tree) (c : Child) (s : Scene Deck) :
    dropChild t c s =
      if s.context.Serves then (.ok (), { s with
        context := s.context.outside s.context.inside, state := s.state.removed t c })
      else (.error s.context.refusal.1, { s with context := s.context.refusal.2 }) := by
  rw [dropChild, Act.bind_apply_ok (Act.state_apply s), Act.bind_apply, Act.runSync_modifyState]
  by_cases hs : s.context.Serves
  · simp only [if_pos hs]
    rfl
  · simp only [if_neg hs]

def dropFound (t : Ref .tree) : Option Child → Do (Option Child)
  | none => pure none
  | some c => do
    dropChild t c
    return some c

theorem removeChild_apply (t : Ref .tree) (h : Handle) (s : Scene Deck) :
    removeChild t h s =
      dropFound t ((s.state.children t).find? fun c => s.state.handleOf c = h) s := by
  rw [removeChild, Act.bind_apply_ok (Act.state_apply s), children]
  cases (s.state.trees.get t).children.find? fun c => s.state.handleOf c = h <;> rfl

theorem removeChildAt_apply (t : Ref .tree) (i : Int32) (s : Scene Deck) :
    removeChildAt t i s =
      dropFound t (if i < 0 then none else (s.state.children t)[i.toInt.toNat]?) s := by
  rw [removeChildAt, Act.bind_apply_ok (Act.state_apply s), children]
  cases if i < 0 then none else (s.state.trees.get t).children[i.toInt.toNat]? <;> rfl

inductive TreeCall where
  | add (c : Child)
  | remove (h : Handle)
  | removeAt (i : Int32)

namespace TreeCall

/-- Makes the call, and tells whether it changed anything. -/
def perform (t : Ref .tree) : TreeCall → Do Bool
  | add c => do
    addChild t c
    return true
  | remove h => do return (← removeChild t h).isSome
  | removeAt i => do return (← removeChildAt t i).isSome

def meant (t : Ref .tree) (d : Deck) : TreeCall → Option Child
  | add c => some c
  | remove h => (d.children t).find? fun c => d.handleOf c = h
  | removeAt i => if i < 0 then none else (d.children t)[i.toInt.toNat]?

def carriedOut (t : Ref .tree) (c : Child) (d : Deck) : TreeCall → Deck
  | add _ => d.added t c
  | remove _ | removeAt _ => d.removed t c

def edited (c : Child) (cs : List Child) : TreeCall → List Child
  | add _ => cs ++ [c]
  | remove _ | removeAt _ => cs.erase c

theorem carriedOut_cases {x : TreeCall} (h : x.meant t d = some c) :
    x = add c ∧ x.carriedOut t c d = d.added t c ∧ x.edited c (d.children t) = d.children t ++ [c] ∨
    c ∈ d.children t ∧ x.carriedOut t c d = d.removed t c ∧
      x.edited c (d.children t) = (d.children t).erase c := by
  cases x with
  | add a =>
    cases h
    exact .inl ⟨rfl, rfl, rfl⟩
  | remove handle => exact .inr ⟨List.mem_of_find?_eq_some h, rfl, rfl⟩
  | removeAt i =>
    have hfound : (if i < 0 then none else (d.children t)[i.toInt.toNat]?) = some c := h
    split at hfound
    · cases hfound
    · exact .inr ⟨List.mem_of_getElem? hfound, rfl, rfl⟩

theorem dropFound_seen (t : Ref .tree) (found : Option Child) (s : Scene Deck) :
    let r := (do return (← dropFound t found).isSome : Do Bool) s
    (r.1, r.2.state) = match found with
      | none => (.ok false, s.state)
      | some c =>
        if s.context.Serves then (.ok true, s.state.removed t c)
        else (.error s.context.refusal.1, s.state) := by
  cases found with
  | none => rfl
  | some c =>
    rw [dropFound, Act.bind_apply, Act.bind_apply, dropChild_apply]
    by_cases hs : s.context.Serves
    · simp only [if_pos hs]
      rfl
    · simp only [if_neg hs]

/-- A call about no child says so. Any other is carried out as a whole if the context serves, and not
at all if it does not. -/
theorem perform_seen (x : TreeCall) (t : Ref .tree) (s : Scene Deck) :
    ((x.perform t s).1, (x.perform t s).2.state) = match x.meant t s.state with
      | none => (.ok false, s.state)
      | some c =>
        if s.context.Serves then (.ok true, x.carriedOut t c s.state)
        else (.error s.context.refusal.1, s.state) := by
  cases x with
  | add c =>
    simp only [perform, meant, Act.bind_apply, addChild_apply]
    by_cases hs : s.context.Serves
    · simp only [if_pos hs]
      rfl
    · simp only [if_neg hs]
  | remove h =>
    have hf := dropFound_seen t ((remove h).meant t s.state) s
    rwa [Act.bind_apply, meant, ← removeChild_apply, ← Act.bind_apply] at hf
  | removeAt i =>
    have hf := dropFound_seen t ((removeAt i).meant t s.state) s
    rwa [Act.bind_apply, meant, ← removeChildAt_apply, ← Act.bind_apply] at hf

/-- A call tells that it has changed something, or it has changed nothing. -/
theorem perform_cases (x : TreeCall) (t : Ref .tree) (s : Scene Deck) :
    (x.perform t s).1 ≠ .ok true ∧ (x.perform t s).2.state = s.state ∨
      (x.perform t s).1 = .ok true ∧ ∃ c, x.meant t s.state = some c ∧
        (x.perform t s).2.state = x.carriedOut t c s.state := by
  have hx := x.perform_seen t s
  cases hm : x.meant t s.state with
  | none =>
    simp only [hm, Prod.mk.injEq] at hx
    exact .inl ⟨by simp [hx.1], hx.2⟩
  | some c =>
    by_cases hs : s.context.Serves
    · simp only [hm, if_pos hs, Prod.mk.injEq] at hx
      exact .inr ⟨hx.1, c, rfl, hx.2⟩
    · simp only [hm, if_neg hs, Prod.mk.injEq] at hx
      exact .inl ⟨by simp [hx.1], hx.2⟩

end TreeCall

/-! What a call that is carried out leaves of the tree, of its grid, and of the looks of children. -/

structure Tended (t : Ref .tree) (d : Deck) : Prop where
  planted : Planted t d
  held : Held t d

theorem Spares.children (h : Spares t d e) : e.children t = d.children t := by
  rw [Deck.children, Deck.children, Store.get, Store.get, h.tree]

theorem Spares.gridOf (h : Spares t d e) : e.gridOf t = d.gridOf t := by
  rw [Deck.gridOf, Deck.gridOf, h.grids, Store.get, Store.get, h.tree]
  rfl

theorem Spares.tended (h : Spares t d e) (hd : Tended t d) : Tended t e where
  planted := by
    rw [Planted, h.tree, h.grids]
    exact hd.planted
  held := h.held hd.held

theorem view_detach (view : ViewId) (g : Grid) : (detach view g).view = g.view := by
  simp only [detach]
  split <;> rfl

theorem viewOf_added (a : Child) : (d.added t c).viewOf a = d.viewOf a :=
  viewOf_replant a fun _ => rfl

namespace Tended

variable (h : Tended t d) (c : Child)
include h

theorem replant {onGrid : Grid → Grid} {onList : List Child → List Child} :
    Tended t (d.replant t onGrid onList) :=
  ⟨planted_replant h.planted, fun hs => h.held hs⟩

theorem spares_removed :
    Spares t (d.replant t (detach (d.viewOf c)) (·.erase c)) (d.removed t c) :=
  .letGo [c] h.replant.held

theorem added : Tended t (d.added t c) := h.replant

theorem removed : Tended t (d.removed t c) := (h.spares_removed c).tended h.replant

theorem viewOf_removed (a : Child) : (d.removed t c).viewOf a = d.viewOf a :=
  ((h.spares_removed c).views a).trans (viewOf_replant a (view_detach _))

theorem children_added : (d.added t c).children t = d.children t ++ [c] := children_replant h.planted

theorem children_removed : (d.removed t c).children t = (d.children t).erase c :=
  (h.spares_removed c).children.trans (children_replant h.planted)

theorem gridOf_added : (d.added t c).gridOf t = (d.gridOf t).addView (d.viewOf c) :=
  gridOf_replant h.planted

theorem gridOf_removed : (d.removed t c).gridOf t = detach (d.viewOf c) (d.gridOf t) :=
  (h.spares_removed c).gridOf.trans (gridOf_replant h.planted)

end Tended
end ScreenDeck.Deck
