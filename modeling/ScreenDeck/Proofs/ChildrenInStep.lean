import ScreenDeck.Proofs.PageBars
import ScreenDeck.Proofs.TreeCalls

/-! The children of a screen and the cells of its grid. They are kept apart, searched by different
keys, and changed one after the other, but no call lets them get out of step. -/

namespace ScreenDeck
namespace Grid

variable {g : Grid}

def views (g : Grid) : List ViewId := g.cells.map (·.view)

def Pinned (g : Grid) : Prop := ∀ c ∈ g.cells, c.row = 0 ∧ c.column = 0

theorem views_addView (g : Grid) (view : ViewId) : (g.addView view).views = g.views ++ [view] := by
  simp [views, addView]

theorem views_removeView (g : Grid) (view : ViewId) :
    (g.removeView view).2.views = g.views.erase view := by
  have hp : (fun c : GridCell => decide (c.view = view)) = (fun v => view == v) ∘ (·.view) := by
    funext c
    simp [eq_comm, Bool.beq_eq_decide_eq]
  rw [views, views, removeView, hp, ← List.eraseP_map, List.erase_eq_eraseP]

theorem visibleView?_eq (g : Grid) : g.visibleView? = g.views.getLast? := by
  simp [visibleView?, views]

theorem Pinned.addView (h : g.Pinned) (view : ViewId) : (g.addView view).Pinned := by
  intro c hc
  rcases List.mem_append.mp hc with hc | hc
  · exact h c hc
  · rw [List.mem_singleton.mp hc]
    exact ⟨rfl, rfl⟩

theorem Pinned.removeView (h : g.Pinned) (view : ViewId) : (g.removeView view).2.Pinned :=
  fun c hc => h c (List.mem_of_mem_eraseP hc)

theorem Pinned.pinLast_eq (h : g.Pinned) : g.pinLast = g := by
  have hcells : g.pinLast.cells = g.cells := by
    apply List.ext_getElem?
    intro i
    rw [pinLast, List.getElem?_modify]
    split
    · cases hc : g.cells[i]? with
      | none => rfl
      | some c =>
        obtain ⟨hrow, hcolumn⟩ := h c (List.mem_of_getElem? hc)
        cases c
        simp_all
    · simp
  cases g
  exact congrArg (Grid.mk _ _) hcells

theorem Pinned.detach_eq (h : g.Pinned) (view : ViewId) :
    Deck.detach view g = (g.removeView view).2 := by
  simp only [Deck.detach]
  split
  · rfl
  · -- The cells that are left are in place already.
    exact (h.removeView view).pinLast_eq

end Grid

section Lists

variable {α β : Type} [DecidableEq α] [DecidableEq β] {f : α → β} {xs : List α} {a : α}

/-- Whichever entries the two searches hit, the same is left over but for the order. -/
theorem map_erase_perm {ys : List β} (h : (xs.map f).Perm ys) (ha : a ∈ xs) :
    ((xs.erase a).map f).Perm (ys.erase (f a)) := by
  have hcons : (xs.map f).Perm (f a :: (xs.erase a).map f) := (List.perm_cons_erase ha).map f
  have herase := (h.symm.trans hcons).erase (f a)
  rw [List.erase_cons_head] at herase
  exact herase.symm

theorem map_erase_eq (h : ∀ x ∈ xs, f x = f a → x = a) :
    (xs.erase a).map f = (xs.map f).erase (f a) := by
  induction xs with
  | nil => rfl
  | cons x xs ih =>
    have hrest := ih fun y hy => h y (List.mem_cons_of_mem x hy)
    by_cases hx : x = a
    · subst hx
      simp
    · have hne : f x ≠ f a := fun he => hx (h x List.mem_cons_self he)
      simp [hx, hne, hrest]

end Lists

namespace Deck

variable {d e : Deck} {t : Ref .tree} {c : Child}

/-- The children and the cells have the same views, and all cells are in place. -/
structure InStep (t : Ref .tree) (d : Deck) : Prop where
  views : ((d.children t).map d.viewOf).Perm (d.gridOf t).views
  pinned : (d.gridOf t).Pinned

theorem InStep.added (h : InStep t d) (ht : Tended t d) (c : Child) : InStep t (d.added t c) where
  views := by
    rw [List.map_congr_left fun a _ => viewOf_added a, ht.children_added, ht.gridOf_added,
      Grid.views_addView, List.map_append]
    exact h.views.append_right _
  pinned := by
    rw [ht.gridOf_added]
    exact h.pinned.addView _

/-- Views may be shared. The cell that goes is the first one with the view of the child, whichever child it
was made for, so the views still agree. -/
theorem InStep.removed (h : InStep t d) (ht : Tended t d) (hc : c ∈ d.children t) :
    InStep t (d.removed t c) where
  views := by
    rw [List.map_congr_left fun a _ => ht.viewOf_removed c a, ht.children_removed, ht.gridOf_removed,
      h.pinned.detach_eq, Grid.views_removeView]
    exact map_erase_perm h.views hc
  pinned := by
    rw [ht.gridOf_removed, h.pinned.detach_eq]
    exact h.pinned.removeView _

abbrev Log := List (TreeCall × Except Abort Bool)

/-- Calls on a tree, one after the other, with their results. Each finds the deck as the one before
left it, but the context may have come into any state by then. -/
inductive Called (t : Ref .tree) (d : Deck) : Log → Deck → Prop
  | start : Called t d [] d
  | call {log : Log} {s : Scene Deck} (h : Called t d log s.state) (x : TreeCall) :
      Called t d (log ++ [(x, (x.perform t s).1)]) (x.perform t s).2.state

def WasAdded (log : Log) (c : Child) : Prop := (.add c, .ok true) ∈ log

def Distinct (log : Log) (d : Deck) : Prop :=
  ∀ a b, WasAdded log a → WasAdded log b → d.viewOf a = d.viewOf b → a = b

/-- What is true of a tree after calls that began on a tree without children. -/
structure Kept (t : Ref .tree) (d : Deck) (log : Log) (e : Deck) : Prop where
  tended : Tended t e
  inStep : InStep t e
  views : ∀ c, e.viewOf c = d.viewOf c
  wasAdded : ∀ c ∈ e.children t, WasAdded log c
  ordered : Distinct log d → (e.children t).map d.viewOf = (e.gridOf t).views

namespace Kept

variable {log : Log} {x : TreeCall}

theorem unchanged (h : Kept t d log e) (y : TreeCall × Except Abort Bool) :
    Kept t d (log ++ [y]) e where
  tended := h.tended
  inStep := h.inStep
  views := h.views
  wasAdded c hc := List.mem_append_left [y] (h.wasAdded c hc)
  ordered hd := h.ordered fun a b ha hb =>
    hd a b (List.mem_append_left [y] ha) (List.mem_append_left [y] hb)

theorem added (h : Kept t d log e) (c : Child) :
    Kept t d (log ++ [(.add c, .ok true)]) (e.added t c) where
  tended := h.tended.added c
  inStep := h.inStep.added h.tended c
  views a := (viewOf_added a).trans (h.views a)
  wasAdded a ha := by
    rw [h.tended.children_added] at ha
    rcases List.mem_append.mp ha with ha | ha
    · exact List.mem_append_left _ (h.wasAdded a ha)
    · rw [List.mem_singleton.mp ha]
      exact List.mem_append_right _ List.mem_cons_self
  ordered hd := by
    have hbefore := (h.unchanged (.add c, .ok true)).ordered hd
    rw [h.tended.children_added, h.tended.gridOf_added, Grid.views_addView, List.map_append,
      hbefore, h.views]
    rfl

theorem removed (h : Kept t d log e) (hc : c ∈ e.children t) (y : TreeCall × Except Abort Bool) :
    Kept t d (log ++ [y]) (e.removed t c) where
  tended := h.tended.removed c
  inStep := h.inStep.removed h.tended hc
  views a := (h.tended.viewOf_removed c a).trans (h.views a)
  wasAdded a ha := by
    rw [h.tended.children_removed] at ha
    exact List.mem_append_left [y] (h.wasAdded a (List.mem_of_mem_erase ha))
  ordered hd := by
    -- What is listed was added once, so that no other child there has the view of `c`.
    have hadded := (h.unchanged y).wasAdded
    have hbefore := (h.unchanged y).ordered hd
    rw [h.tended.children_removed, h.tended.gridOf_removed, h.inStep.pinned.detach_eq,
      Grid.views_removeView, ← hbefore, h.views]
    exact map_erase_eq fun a ha hac => hd a c (hadded a ha) (hadded c hc) hac

theorem start (ht : Tended t d) (hc : d.children t = []) (hg : (d.gridOf t).cells = []) :
    Kept t d [] d := by
  have hviews : (d.gridOf t).views = [] := by
    rw [Grid.views, hg]
    rfl
  have heq : (d.children t).map d.viewOf = (d.gridOf t).views := by
    rw [hc, hviews]
    rfl
  exact ⟨ht, ⟨.of_eq heq, by simp [Grid.Pinned, hg]⟩, fun _ => rfl, by simp [hc], fun _ => heq⟩

/-- Whether the call succeeds or not, all that was kept is kept. -/
theorem call {s : Scene Deck} (h : Kept t d log s.state) (x : TreeCall) :
    Kept t d (log ++ [(x, (x.perform t s).1)]) (x.perform t s).2.state := by
  rcases x.perform_cases t s with ⟨-, hs⟩ | ⟨hr, c, hm, hs⟩
  · rw [hs]
    exact h.unchanged _
  · rw [hr, hs]
    rcases TreeCall.carriedOut_cases hm with ⟨rfl, hc, -⟩ | ⟨hmem, hc, -⟩
    · rw [hc]
      exact h.added c
    · rw [hc]
      exact h.removed hmem _

end Kept

theorem Called.kept {log : Log} (h : Called t d log e) (hd : Kept t d [] d) : Kept t d log e := by
  induction h with
  | start => exact hd
  | call _ x ih => exact ih.call x

/-- A call that fails, or that says it changed nothing, has changed nothing of the deck. Any other
has changed the list as it says. -/
theorem TreeCall.perform_effect (x : TreeCall) (ht : Tended t e) {s : Scene Deck} (hs : s.state = e) :
    ((x.perform t s).1 ≠ .ok true → (x.perform t s).2.state = e) ∧
      ((x.perform t s).1 = .ok true → ∃ c, x.meant t e = some c ∧
        (x.perform t s).2.state.children t = x.edited c (e.children t)) := by
  subst hs
  rcases x.perform_cases t s with ⟨hne, hs⟩ | ⟨hr, c, hm, hs⟩
  · exact ⟨fun _ => hs, fun hok => absurd hok hne⟩
  · refine ⟨fun hne => absurd hr hne, fun _ => ⟨c, hm, ?_⟩⟩
    rcases TreeCall.carriedOut_cases hm with ⟨-, hc, he⟩ | ⟨-, hc, he⟩
    · rw [hs, hc, he, ht.children_added]
    · rw [hs, hc, he, ht.children_removed]

end Deck

namespace Session

open Deck

/-- On the tree of a named screen that has had no child yet, whatever calls are made and whenever
the context stops, list and grid stay in step. If no two children share a view, they are in the
same order. -/
theorem children_in_step {setup : Setup} {start : Scene Deck} {es : List Event} {d e : Deck}
    {r : Ref .screen} {x : Screen} {log : Log} (hs : setup.start = .ok start)
    (h : History start.state es d) (hx : d.screens.get? r = some x) (hr : d.Named r)
    (hc : d.children x.tree = []) (hg : (d.gridOf x.tree).cells = [])
    (hlog : Called x.tree d log e) :
    ((e.children x.tree).map e.viewOf).Perm ((e.gridOf x.tree).cells.map (·.view)) ∧
      (e.children x.tree).length = (e.gridOf x.tree).cells.length ∧
      (∀ cell ∈ (e.gridOf x.tree).cells, cell.row = 0 ∧ cell.column = 0) ∧
      (Distinct log e →
        (e.children x.tree).map e.viewOf = (e.gridOf x.tree).cells.map (·.view) ∧
          (e.gridOf x.tree).visibleView? = (e.children x.tree).getLast?.map e.viewOf) ∧
      ∀ (s : Scene Deck) (call : TreeCall), s.state = e →
        ((call.perform x.tree s).1 ≠ .ok true → (call.perform x.tree s).2.state = e) ∧
          ((call.perform x.tree s).1 = .ok true → ∃ c, call.meant x.tree e = some c ∧
            (call.perform x.tree s).2.state.children x.tree =
              call.edited c (e.children x.tree)) := by
  have hrooted := h.rooted (.of_no_screen (start_state hs).2)
  obtain ⟨tree, htree, hgrid⟩ := hrooted.tree hx
  have hkept := hlog.kept (.start ⟨⟨tree, htree, hgrid⟩, hrooted.held hx hr⟩ hc hg)
  have hperm := hkept.inStep.views
  refine ⟨hperm, by simpa [Grid.views] using hperm.length_eq, hkept.inStep.pinned, ?_,
    fun s call hse => call.perform_effect hkept.tended hse⟩
  intro hdistinct
  -- Calls change the looks of no child, so it does not matter when these are compared.
  have hviews : e.viewOf = d.viewOf := funext hkept.views
  have hsame : (e.children x.tree).map e.viewOf = (e.gridOf x.tree).views := by
    rw [Distinct, hviews] at hdistinct
    rw [hviews]
    exact hkept.ordered hdistinct
  refine ⟨hsame, ?_⟩
  rw [Grid.visibleView?_eq, ← hsame, List.getLast?_map]

def twinWidgets : Deck :=
  let d := (makeWidget ⟨7⟩ none (makeWidget ⟨7⟩ none newSession.state).2).2
  let d := (d.makeScreen ⟨1⟩).2
  { d with names.screens := [("screen", ⟨0⟩)] }

def sceneOf (running : Bool) (d : Deck) : Scene Deck where
  context := { mode := .inPlace, running }
  state := d

/-- Both widgets are added. A removal fails once the context has stopped. Before that, another one
takes the first widget with the handle. -/
theorem twin_is_left_on_display :
    let first := ((TreeCall.add (.widget ⟨0⟩)).perform ⟨0⟩ (sceneOf true twinWidgets)).2.state
    let second := ((TreeCall.add (.widget ⟨1⟩)).perform ⟨0⟩ (sceneOf true first)).2.state
    let third := ((TreeCall.remove ⟨7⟩).perform ⟨0⟩ (sceneOf true second)).2.state
    let fourth := ((TreeCall.removeAt 0).perform ⟨0⟩ (sceneOf false third)).2.state
    let log : Log := [(.add (.widget ⟨0⟩), .ok true), (.add (.widget ⟨1⟩), .ok true),
      (.remove ⟨7⟩, .ok true), (.removeAt 0, .error (.failed (.dispatch .stopped)))]
    Called ⟨0⟩ twinWidgets log fourth ∧ fourth.children ⟨0⟩ = [.widget ⟨1⟩] ∧
      (fourth.gridOf ⟨0⟩).cells = [⟨⟨2⟩, 0, 0⟩] ∧ (fourth.gridOf ⟨0⟩).visibleView? = some ⟨2⟩ := by
  intro first second third fourth log
  have hstart : History newSession.state [] twinWidgets :=
    (((History.start.move (.makeWidget ⟨7⟩ none)).move (.makeWidget ⟨7⟩ none)).move
      (.makeScreen ⟨1⟩)).move (.names _)
  have hfirst := Called.start.call (s := sceneOf true twinWidgets) (.add (.widget ⟨0⟩)) (t := ⟨0⟩)
  have hsecond := hfirst.call (s := sceneOf true first) (.add (.widget ⟨1⟩))
  have hthird := hsecond.call (s := sceneOf true second) (.remove ⟨7⟩)
  have hlog : Called ⟨0⟩ twinWidgets log fourth := hthird.call (s := sceneOf false third) (.removeAt 0)
  have hdistinct : Distinct log fourth := by
    have hboth {c} (hc : WasAdded log c) : c = .widget ⟨0⟩ ∨ c = .widget ⟨1⟩ := by
      simpa [WasAdded, log] using hc
    intro a b ha hb hab
    rcases hboth ha with rfl | rfl <;> rcases hboth hb with rfl | rfl
    · rfl
    · exact absurd hab (by decide)
    · exact absurd hab (by decide)
    · rfl
  obtain ⟨-, -, -, hordered, -⟩ := children_in_step start_newSession hstart (r := ⟨0⟩) rfl
    ⟨_, List.mem_singleton_self _, rfl⟩ rfl rfl hlog
  obtain ⟨-, hvisible⟩ := hordered hdistinct
  exact ⟨hlog, rfl, rfl, hvisible.trans rfl⟩

end Session
end ScreenDeck
