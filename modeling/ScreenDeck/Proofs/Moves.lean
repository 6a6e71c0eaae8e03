import ScreenDeck.Proofs.Composed
import ScreenDeck.Session.Run

/-! The moves of a deck. Whatever is done with a deck is a run of moves, each of which changes one
thing. Some of them mean something to the page or to the presenters, and these are its events. -/

namespace ScreenDeck.Deck

/-- What happens to the page and to the presenters. -/
inductive Event where
  | requested (p : Ref .presenter)
  | attached (b : Ref .bar)
  | filled (g : Ref .grid)
  | resized (size : Size)
  | opened
  | closed
deriving DecidableEq

inductive GridMove : (Grid → Grid) → Prop
  | reserve (extent : Single) : GridMove fun g => (g.reserveRow extent).2
  | release : GridMove fun g => g.releaseReservedRow.2
  | add (view : ViewId) : GridMove (·.addView view)
  | remove (view : ViewId) : GridMove fun g => (g.removeView view).2
  | detach (view : ViewId) : GridMove (detach view)
  | pin : GridMove Grid.pinLast

inductive TreeMove : (List Child → List Child) → Prop
  | append (c : Child) : TreeMove (· ++ [c])
  | erase (c : Child) : TreeMove (·.erase c)
  | clear : TreeMove fun _ => []

def request (p : Ref .presenter) (d : Deck) : Deck :=
  d.modifyPresenter p fun x => { x with generation := x.generation + 1 }

/-- One change of a deck, with the event that it is. -/
inductive Move (d : Deck) : Option Event → Deck → Prop
  | request (p : Ref .presenter) : Move d (some (.requested p)) (d.request p)
  | attach {page : Page} (h : d.page = some page) (b : Ref .bar) :
      Move d (some (.attached b)) { d with page := some { page with bar := some b } }
  | fill {page : Page} (h : d.page = some page) (g : Ref .grid) :
      Move d (some (.filled g)) { d with page := some { page with content := some g } }
  | resize {page : Page} (h : d.page = some page) (size : Size) :
      Move d (some (.resized size)) { d with page := some { page with size } }
  | openPage : Move d (some .opened) d.openPage
  | closePage : Move d (some .closed) d.closePage.2
  | contentSize (size : Size) : Move d none { d with contentSize := size }
  | fault (faults : HostCall → FaultMode) : Move d none { d with faults }
  | hold (x : Switch) : Move d none { d with pending := d.pending ++ [x] }
  | drop (position : Nat) : Move d none { d with pending := d.pending.eraseIdx position }
  | animate (kind : Int32) : Move d none { d with transitions := d.transitions ++ [kind] }
  | toggle (t : Toggle) : Move d none { d with toggles := d.toggles ++ [t] }
  | post {posted : List Posted} (h : d.outbox = some posted) (x : Posted) :
      Move d none { d with outbox := some (posted ++ [x]) }
  | forget : Move d none
      { d with outbox := d.outbox.map fun _ => [], toggles := [], transitions := [] }
  | deafen : Move d none { d with outbox := none }
  | grid (g : Ref .grid) {f : Grid → Grid} (hf : GridMove f) : Move d none (d.modifyGrid g f)
  | tree (t : Ref .tree) {f : List Child → List Child} (hf : TreeMove f) :
      Move d none (d.modifyTree t fun tree => { tree with children := f tree.children })
  | setVisible (m : Ref .manager) (value : Bool) : Move d none
      ((d.modifyManager m fun x => { x with visible := value }).modifyBar (d.managers.get m).bar
        fun x => { x with visible := value })
  | register (m : Ref .manager) (item : Handle) (times : Nat) : Move d none
      (d.modifyManager m fun x => { x with registry := (x.registry.registerTimes item times).2 })
  | resetManager (m : Ref .manager) :
      Move d none (d.makeBar.2.modifyManager m fun _ => { bar := d.makeBar.1 })
  | title (s : Ref .screen) (title : String) :
      Move d none (d.modifyScreen s fun x => { x with title })
  | parent (s : Ref .screen) (p : Option Parent) :
      Move d none (d.modifyScreen s fun x => { x with parent := p })
  | dispose (s : Ref .screen) : Move d none
      ((d.release (d.screens.get s).subscription).2.modifyScreen s fun x =>
        { x with disposed := true, subscription.active := false })
  | bury (s : Ref .screen) : Move d none (d.bury s)
  | listen (l : Listener) : Move d none (d.listen l).2
  | release (s : Subscription) : Move d none (d.release s).2
  | block (value : Bool) : Move d none { d with orientation.blocked := value }
  | endTracker (t : Ref .tracker) : Move d none (d.endTracker t)
  | containerShows (p : Ref .container) (shown : Option Handle) :
      Move d none { d with containers := d.containers.modify p fun x => { x with shown } }
  | endContainer (p : Ref .container) :
      Move d none { d with containers := d.containers.modify p fun x => { x with alive := false } }
  | endPanel (p : Ref .panel) :
      Move d none { d with panels := d.panels.modify p fun x => { x with alive := false } }
  | makeGrid : Move d none d.makeGrid.2
  | makeBar : Move d none d.makeBar.2
  | makeManager : Move d none d.makeManager.2
  | makeTree (owner : Handle) (grid : Ref .grid) : Move d none (d.makeTree owner grid).2
  | makePresenter (grid : Ref .grid) (engine : Engine) : Move d none (d.makePresenter grid engine).2
  | makeTracker (handle : Handle) : Move d none (d.makeTracker handle).2
  | makeScreen (handle : Handle) : Move d none (d.makeScreen handle).2
  | makeWidget (handle : Handle) (sharing : Option ViewId) :
      Move d none (Session.makeWidget handle sharing d).2
  | makeContainer (c : Container) : Move d none { d with containers := (d.containers.add c).2 }
  | makePanel (p : Panel) : Move d none { d with panels := (d.panels.add p).2 }
  | names (names : Names) : Move d none { d with names }

/-- A release concerns nothing but the listeners. -/
theorem release_eq (s : Subscription) (d : Deck) :
    (d.release s).2 = { d with orientation := (d.release s).2.orientation } := by
  unfold release
  split <;> rfl

end ScreenDeck.Deck
