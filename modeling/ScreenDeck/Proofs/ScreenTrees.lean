import ScreenDeck.Proofs.Histories

/-! The trees of screens. Every screen has a tree of its own, and what is let go elsewhere leaves
the children of a named screen alone. -/

namespace ScreenDeck.Deck

variable {d e f : Deck} {t : Ref .tree}

/-- Every screen has a tree that no other screen has, and the grid of the tree is there. -/
structure Rooted (d : Deck) : Prop where
  tree : ∀ {r x}, d.screens.get? r = some x →
    ∃ tree, d.trees.get? x.tree = some tree ∧ (d.grids.get? tree.grid).isSome
  apart : ∀ {r q x y}, d.screens.get? r = some x → d.screens.get? q = some y →
    x.tree = y.tree → r = q

theorem Rooted.of_no_screen (h : d.screens = {}) : d.Rooted := by
  have hnone (r : Ref .screen) (x : Screen) : d.screens.get? r ≠ some x := by
    rw [h]
    exact nofun
  exact ⟨fun hx => absurd hx (hnone _ _), fun hx => absurd hx (hnone _ _)⟩

/-- No screen is made or gets another tree, and no tree gets another grid. -/
structure Retains (d e : Deck) : Prop where
  screens : ∀ {r y}, e.screens.get? r = some y → ∃ x, d.screens.get? r = some x ∧ y.tree = x.tree
  trees : ∀ {t x}, d.trees.get? t = some x → ∃ y, e.trees.get? t = some y ∧ y.grid = x.grid
  grids : ∀ {g}, (d.grids.get? g).isSome → (e.grids.get? g).isSome

theorem Retains.of_eq (hs : e.screens = d.screens) (ht : e.trees = d.trees)
    (hg : e.grids = d.grids) : Retains d e where
  screens h := ⟨_, hs ▸ h, rfl⟩
  trees h := ⟨_, ht ▸ h, rfl⟩
  grids h := hg ▸ h

theorem Retains.trans (h : Retains d e) (h' : Retains e f) : Retains d f where
  screens hf := by
    obtain ⟨y, hy, hfy⟩ := h'.screens hf
    obtain ⟨x, hx, hyx⟩ := h.screens hy
    exact ⟨x, hx, hfy.trans hyx⟩
  trees hd := by
    obtain ⟨y, hy, hyx⟩ := h.trees hd
    obtain ⟨z, hz, hzy⟩ := h'.trees hy
    exact ⟨z, hz, hzy.trans hyx⟩
  grids hd := h'.grids (h.grids hd)

theorem Rooted.retained (hd : d.Rooted) (h : Retains d e) : e.Rooted where
  tree hy := by
    obtain ⟨x, hx, hyx⟩ := h.screens hy
    obtain ⟨a, ha, hg⟩ := hd.tree hx
    obtain ⟨b, hb, hba⟩ := h.trees ha
    exact ⟨b, hyx ▸ hb, h.grids (hba ▸ hg)⟩
  apart hy hz hyz := by
    obtain ⟨x, hx, hyx⟩ := h.screens hy
    obtain ⟨w, hw, hzw⟩ := h.screens hz
    exact hd.apart hx hw (hyx.symm.trans (hyz.trans hzw))

theorem retains_modifyGrid (d : Deck) (g : Ref .grid) (f : Grid → Grid) :
    Retains d (d.modifyGrid g f) where
  screens h := ⟨_, h, rfl⟩
  trees h := ⟨_, h, rfl⟩
  grids h := by rwa [modifyGrid, Store.isSome_get?_modify]

theorem retains_modifyTree (d : Deck) (t : Ref .tree) {f : Tree → Tree}
    (hf : ∀ x, (f x).grid = x.grid) : Retains d (d.modifyTree t f) where
  screens h := ⟨_, h, rfl⟩
  trees {q x} h := by
    by_cases hq : t = q
    · subst hq
      exact ⟨f x, by rw [modifyTree, Store.get?_modify_self, h]; rfl, hf x⟩
    · exact ⟨x, by rw [modifyTree, Store.get?_modify_ne _ _ hq, h], rfl⟩
  grids h := h

theorem retains_modifyScreen (d : Deck) (s : Ref .screen) {f : Screen → Screen}
    (hf : ∀ x, (f x).tree = x.tree) : Retains d (d.modifyScreen s f) where
  screens h := by
    obtain ⟨x, hx, rfl | rfl⟩ := Store.get?_modify_eq_some h
    · exact ⟨_, hx, rfl⟩
    · exact ⟨x, hx, hf x⟩
  trees h := ⟨_, h, rfl⟩
  grids h := h

theorem retains_bury (s : Ref .screen) (d : Deck) : Retains d (d.bury s) := by
  have hs : Retains d (d.modifyScreen s fun x => { x with alive := false }) :=
    retains_modifyScreen d s fun _ => rfl
  refine hs.trans (Retains.trans ?_ (retains_modifyTree _ _ fun _ => rfl))
  exact .of_eq rfl rfl rfl

theorem retains_release (s : Subscription) (d : Deck) : Retains d (d.release s).2 := by
  rw [release_eq]
  exact .of_eq rfl rfl rfl

theorem screens_makeScreen (handle : Handle) (d : Deck) :
    ∃ x, x.tree = (d.trees.add { owner := handle, grid := d.makeGrid.1 }).1 ∧
      (d.makeScreen handle).2.screens = (d.screens.add x).2 := ⟨_, rfl, rfl⟩

theorem trees_makeScreen (handle : Handle) (d : Deck) :
    (d.makeScreen handle).2.trees = (d.trees.add { owner := handle, grid := d.makeGrid.1 }).2 := rfl

theorem grids_makeScreen (handle : Handle) (d : Deck) :
    (d.makeScreen handle).2.grids = d.makeGrid.2.grids := rfl

theorem isSome_makeGrid {g : Ref .grid} (h : (d.grids.get? g).isSome) :
    (d.makeGrid.2.grids.get? g).isSome := Store.isSome_get?_add h _

/-- A new screen gets a tree and a grid that nobody has. -/
theorem Rooted.makeScreen (h : d.Rooted) (handle : Handle) : (d.makeScreen handle).2.Rooted := by
  obtain ⟨x, hx, hs⟩ := screens_makeScreen handle d
  -- The trees of the other screens were there before, and this one was not.
  have hnew {r y} (hy : d.screens.get? r = some y) : y.tree ≠ x.tree := by
    intro he
    obtain ⟨tree, ht, -⟩ := h.tree hy
    obtain ⟨hlt, -⟩ := List.getElem?_eq_some_iff.mp ht
    rw [he, hx] at hlt
    exact Nat.lt_irrefl _ hlt
  constructor
  · intro r y hy
    rw [trees_makeScreen, grids_makeScreen]
    rw [hs] at hy
    rcases Store.get?_add_eq_some hy with hy | ⟨-, rfl⟩
    · obtain ⟨tree, ht, hg⟩ := h.tree hy
      exact ⟨tree, Store.get?_add_of_get? ht _, isSome_makeGrid hg⟩
    · refine ⟨_, hx ▸ Store.get?_add _ _, ?_⟩
      exact Option.isSome_iff_exists.mpr ⟨_, Store.get?_add _ _⟩
  · intro r q y z hy hz hyz
    rw [hs] at hy hz
    rcases Store.get?_add_eq_some hy with hy' | ⟨hr, hyx⟩ <;>
      rcases Store.get?_add_eq_some hz with hz' | ⟨hq, hzx⟩
    · exact h.apart hy' hz' hyz
    · exact absurd (hzx ▸ hyz) (hnew hy')
    · exact absurd (hyx ▸ hyz.symm) (hnew hz')
    · rw [hr, hq]

theorem retains_makeGrid (d : Deck) : Retains d d.makeGrid.2 where
  screens h := ⟨_, h, rfl⟩
  trees h := ⟨_, h, rfl⟩
  grids h := isSome_makeGrid h

theorem retains_makeTree (owner : Handle) (grid : Ref .grid) (d : Deck) :
    Retains d (d.makeTree owner grid).2 where
  screens h := ⟨_, h, rfl⟩
  trees h := ⟨_, Store.get?_add_of_get? h _, rfl⟩
  grids h := h

theorem Rooted.move {v : Option Event} (h : d.Rooted) (hm : Move d v e) : e.Rooted := by
  cases hm with
  | makeScreen handle => exact h.makeScreen handle
  | makeGrid => exact h.retained (retains_makeGrid d)
  | makeTree owner grid => exact h.retained (retains_makeTree owner grid d)
  | grid g hf => exact h.retained (retains_modifyGrid d g _)
  | tree t hf => exact h.retained (retains_modifyTree d t fun _ => rfl)
  | title s title => exact h.retained (retains_modifyScreen d s fun _ => rfl)
  | parent s p => exact h.retained (retains_modifyScreen d s fun _ => rfl)
  | dispose s =>
    exact h.retained ((retains_release _ d).trans (retains_modifyScreen _ s fun _ => rfl))
  | bury s => exact h.retained (retains_bury s d)
  | release s => exact h.retained (retains_release s d)
  | makeWidget handle sharing => cases sharing <;> exact h.retained (.of_eq rfl rfl rfl)
  | _ => exact h.retained (.of_eq rfl rfl rfl)

theorem History.rooted {es : List Event} (h : History d es e) (hd : d.Rooted) : e.Rooted := by
  induction h with
  | start => exact hd
  | move _ hm ih => exact ih.move hm

/-! What is let go. A screen that a name holds never ends. -/

def Named (d : Deck) (s : Ref .screen) : Prop := ∃ x ∈ d.names.screens, x.2 = s

def Held (t : Ref .tree) (d : Deck) : Prop :=
  ∀ {s x}, d.screens.get? s = some x → x.tree = t → d.Named s

theorem Rooted.held {r : Ref .screen} {x : Screen} (h : d.Rooted) (hx : d.screens.get? r = some x)
    (hr : d.Named r) : Held x.tree d := by
  intro s y hy hyx
  rwa [h.apart hy hx hyx]

theorem Named.isHeld {s : Ref .screen} (h : d.Named s) : d.isHeld s = true := by
  obtain ⟨x, hx, hs⟩ := h
  have hany : d.names.screens.any (·.2 = s) = true := List.any_eq_true.mpr ⟨x, hx, by simpa using hs⟩
  rw [Deck.isHeld, hany, Bool.true_or]

theorem get?_of_alive {s : Ref .screen} (h : (d.screens.get s).alive = true) :
    d.screens.get? s = some (d.screens.get s) := by
  cases hs : d.screens.get? s with
  | none => simp [Store.get, hs, default] at h
  | some x => rw [Store.get_of_get? hs]

/-- Orphans have no names, so the tree is none of theirs. -/
theorem Held.tree_ne_of_isOrphan {s : Ref .screen} {pending : List Child} (h : Held t d)
    (ho : d.isOrphan s pending = true) : (d.screens.get s).tree ≠ t := by
  simp only [isOrphan, Bool.and_eq_true, Bool.not_eq_true'] at ho
  obtain ⟨⟨halive, hfree⟩, -⟩ := ho
  intro ht
  have hh := (h (get?_of_alive halive) ht).isHeld
  rw [hfree] at hh
  cases hh

/-- A change that a tree and its grid do not see, and that no child looks different after. -/
structure Spares (t : Ref .tree) (d e : Deck) : Prop where
  tree : e.trees.get? t = d.trees.get? t
  grids : e.grids = d.grids
  names : e.names = d.names
  screens : ∀ {s y}, e.screens.get? s = some y → ∃ x, d.screens.get? s = some x ∧ y.tree = x.tree
  views : ∀ c, e.viewOf c = d.viewOf c

namespace Spares

theorem refl (t : Ref .tree) (d : Deck) : Spares t d d :=
  ⟨rfl, rfl, rfl, fun h => ⟨_, h, rfl⟩, fun _ => rfl⟩

theorem trans (h : Spares t d e) (h' : Spares t e f) : Spares t d f where
  tree := h'.tree.trans h.tree
  grids := h'.grids.trans h.grids
  names := h'.names.trans h.names
  screens hs := by
    obtain ⟨y, hy, hyz⟩ := h'.screens hs
    obtain ⟨x, hx, hxy⟩ := h.screens hy
    exact ⟨x, hx, hyz.trans hxy⟩
  views c := (h'.views c).trans (h.views c)

theorem held (h : Spares t d e) (hd : Held t d) : Held t e := by
  intro s y hy hyt
  obtain ⟨x, hx, hyx⟩ := h.screens hy
  have hn := hd hx (hyx ▸ hyt)
  rwa [Named, h.names]

theorem bury {s : Ref .screen} (hs : (d.screens.get s).tree ≠ t) : Spares t d (d.bury s) where
  tree := Store.get?_modify_ne _ _ hs
  grids := rfl
  names := rfl
  screens := (retains_bury s d).screens
  views c := by
    cases c with
    | widget w => rfl
    | screen q =>
      have hg : ((d.bury s).screens.get q).grid = (d.screens.get q).grid :=
        Store.apply_get_modify (p := Screen.grid) d.screens s q fun _ => rfl
      rw [viewOf, hg]
      rfl

theorem release (x : Subscription) : Spares t d (d.release x).2 := by
  rw [release_eq]
  exact ⟨rfl, rfl, rfl, fun h => ⟨_, h, rfl⟩, fun c => by cases c <;> rfl⟩

theorem letGoWith {one : Ref .screen → List Child → Deck → Deck}
    (ho : ∀ {d} s pending, Held t d → Spares t d (one s pending d)) (cs pending : List Child)
    (hd : Held t d) : Spares t d (letGoWith one cs pending d) := by
  induction cs generalizing d with
  | nil => exact refl t d
  | cons c cs ih =>
    cases c with
    | widget w => exact ih hd
    | screen s =>
      have hs := ho s (cs ++ pending) hd
      exact hs.trans (ih (hs.held hd))

theorem letGoScreen (depth : Nat) (s : Ref .screen) (pending : List Child) (hd : Held t d) :
    Spares t d (letGoScreen depth s pending d) := by
  induction depth generalizing s pending d with
  | zero => exact refl t d
  | succ depth ih =>
    rw [Deck.letGoScreen]
    split
    next ho =>
      -- No name holds an orphan, so its tree is not the one that is spared.
      have hb := bury (hd.tree_ne_of_isOrphan ho)
      exact (hb.trans (letGoWith (fun s pending => ih s pending) _ _ (hb.held hd))).trans (release _)
    next => exact refl t d

theorem letGo (cs : List Child) (hd : Held t d) : Spares t d (d.letGo cs) :=
  letGoWith (letGoScreen _) cs [] hd

end Spares
end ScreenDeck.Deck
