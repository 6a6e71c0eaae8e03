import Mathlib.Data.List.Chain
import ScreenDeck.Proofs.BarNotifications
import ScreenDeck.Proofs.ChildrenInStep

/-! The reserved row of a grid. Five calls change a grid, and their answers tell all there is to know of its
rows and of its cells. Whatever is done with a deck, its grids come out of such calls, and the row under a
screen is the one that the settings ask for. -/

namespace ScreenDeck

namespace Grid

variable {g : Grid}

inductive Call where
  | reserve (extent : Single)
  | release
  | add (view : ViewId)
  | remove (view : ViewId)
  | pin

/-- Makes the call. Adding and pinning have no answer. -/
def Call.perform : Call → Grid → Option Bool × Grid
  | reserve extent, g => (some (g.reserveRow extent).1, (g.reserveRow extent).2)
  | release, g => (some g.releaseReservedRow.1, g.releaseReservedRow.2)
  | add view, g => (none, g.addView view)
  | remove view, g => (some (g.removeView view).1, (g.removeView view).2)
  | pin, g => (none, g.pinLast)

abbrev Log := List (Call × Option Bool)

def after (calls : List Call) (g : Grid) : Grid := calls.foldl (fun g c => (c.perform g).2) g

def answers : List Call → Grid → Log
  | [], _ => []
  | c :: calls, g => (c, (c.perform g).1) :: answers calls (c.perform g).2

theorem after_append (calls more : List Call) (g : Grid) :
    after (calls ++ more) g = after more (after calls g) := List.foldl_append

theorem answers_concat (calls : List Call) (c : Call) (g : Grid) :
    answers (calls ++ [c]) g = answers calls g ++ [(c, (c.perform (after calls g)).1)] := by
  induction calls generalizing g with
  | nil => rfl
  | cons b calls ih => exact congrArg ((b, (b.perform g).1) :: ·) (ih (b.perform g).2)

/-- What becomes of the views in the cells. -/
def Call.hold : Call → List ViewId → List ViewId
  | add view, views => views ++ [view]
  | remove view, views => views.erase view
  | _, views => views

/-! What the answers tell. -/

namespace Log

/-- The extents of the rows that were reserved with success. -/
def reserved (log : Log) : List Single := log.filterMap fun
  | (.reserve extent, some true) => some extent
  | _ => none

/-- The rows that were reserved with success and those that were given back, in turn. -/
def switches (log : Log) : List Bool := log.filterMap fun
  | (.reserve _, some true) => some true
  | (.release, some true) => some false
  | _ => none

def held (log : Log) : List ViewId := log.foldl (fun views x => x.1.hold views) []

theorem reserved_append (log more : Log) : reserved (log ++ more) = log.reserved ++ more.reserved :=
  List.filterMap_append

theorem switches_append (log more : Log) : switches (log ++ more) = log.switches ++ more.switches :=
  List.filterMap_append

theorem held_concat (log : Log) (x : Call × Option Bool) : held (log ++ [x]) = x.1.hold log.held :=
  List.foldl_append

end Log

/-! One call. -/

theorem Laid.reserveRow_eq (h : g.Laid) (extent : Single) :
    g.reserveRow extent =
      if g.rows = [.star .one] then (true, { g with rows := [.star .one, .pixels extent] })
      else (false, g) := by
  cases h with
  | filling h => simp [Grid.reserveRow, hasReservedRow, h]
  | reserved e h => simp [Grid.reserveRow, hasReservedRow, h]

theorem Laid.releaseReservedRow_eq (h : g.Laid) :
    g.releaseReservedRow = if g.rows = [.star .one] then (false, g)
      else (true, { g with rows := [.star .one] }) := by
  cases h with
  | filling h => simp [releaseReservedRow, hasReservedRow, h]
  | reserved e h => simp [releaseReservedRow, hasReservedRow, h]

/-- The first cell with the view is taken out, and no other. -/
theorem removeView_cases (g : Grid) (view : ViewId) :
    (∃ before c others, g.cells = before ++ c :: others ∧ c.view = view ∧ (∀ a ∈ before, a.view ≠ view) ∧
      g.removeView view = (true, { g with cells := before ++ others })) ∨
    (∀ a ∈ g.cells, a.view ≠ view) ∧ g.removeView view = (false, g) := by
  by_cases hv : ∃ a ∈ g.cells, a.view = view
  · obtain ⟨a, ha, hav⟩ := hv
    obtain ⟨c, before, others, hbefore, hc, hcells, herased⟩ :=
      List.exists_of_eraseP (p := fun c : GridCell => decide (c.view = view)) ha (by simpa using hav)
    simp only [decide_eq_true_eq] at hbefore hc
    have hany : g.cells.any (fun c => decide (c.view = view)) = true := by
      simpa using ⟨a, ha, hav⟩
    refine .inl ⟨before, c, others, hcells, hc, hbefore, ?_⟩
    rw [removeView, herased, hany]
  · have hnone : ∀ a ∈ g.cells, a.view ≠ view := fun a ha hav => hv ⟨a, ha, hav⟩
    have hany : g.cells.any (fun c => decide (c.view = view)) = false := by simpa using hnone
    refine .inr ⟨hnone, ?_⟩
    rw [removeView, List.eraseP_of_forall_not (by simpa using hnone), hany]

structure Regular (g : Grid) : Prop where
  pinned : g.Pinned
  reserve : ∀ extent, (Call.reserve extent).perform g =
    if g.rows = [.star .one] then (some true, { g with rows := [.star .one, .pixels extent] })
    else (some false, g)
  release : Call.release.perform g =
    if g.rows = [.star .one] then (some false, g) else (some true, { g with rows := [.star .one] })
  add : ∀ view, (Call.add view).perform g = (none, { g with cells := g.cells ++ [⟨view, 0, 0⟩] })
  remove : ∀ view,
    (∃ before c others, g.cells = before ++ c :: others ∧ c.view = view ∧ (∀ a ∈ before, a.view ≠ view) ∧
      (Call.remove view).perform g = (some true, { g with cells := before ++ others })) ∨
    (∀ a ∈ g.cells, a.view ≠ view) ∧ (Call.remove view).perform g = (some false, g)
  pin : Call.pin.perform g = (none, g)

theorem Laid.regular (h : g.Laid) (hp : g.Pinned) : g.Regular where
  pinned := hp
  reserve extent := by
    rw [Call.perform, h.reserveRow_eq]
    split <;> rfl
  release := by
    rw [Call.perform, h.releaseReservedRow_eq]
    split <;> rfl
  add _ := rfl
  remove view := by
    rw [Call.perform]
    refine (removeView_cases g view).imp ?_ ?_
    · rintro ⟨before, c, others, hcells, hc, hbefore, hr⟩
      exact ⟨before, c, others, hcells, hc, hbefore, by rw [hr]⟩
    · rintro ⟨hnone, hr⟩
      exact ⟨hnone, by rw [hr]⟩
  pin := by rw [Call.perform, hp.pinLast_eq]

theorem Pinned.perform (h : g.Pinned) (c : Call) : (c.perform g).2.Pinned := by
  cases c with
  | reserve extent =>
    intro a ha
    exact h a (cells_reserveRow g extent ▸ ha)
  | release =>
    intro a ha
    exact h a (cells_releaseReservedRow g ▸ ha)
  | add view => exact h.addView view
  | remove view => exact h.removeView view
  | pin =>
    show g.pinLast.Pinned
    rwa [h.pinLast_eq]

theorem Pinned.views_perform (h : g.Pinned) (c : Call) : (c.perform g).2.views = c.hold g.views := by
  cases c with
  | reserve extent => exact congrArg (List.map (·.view)) (cells_reserveRow g extent)
  | release => exact congrArg (List.map (·.view)) (cells_releaseReservedRow g)
  | add view => exact views_addView g view
  | remove view => exact views_removeView g view
  | pin => exact congrArg Grid.views h.pinLast_eq

/-! Calls in turn. -/

/-- How the rows come to be as they are. At first there is no reserved row. -/
inductive RowsTold (log : Log) (g : Grid) : Prop
  | filling (hs : (false :: log.switches).getLast? = some false) (h : g.rows = [.star .one])
  | reserved (extent : Single) (hs : (false :: log.switches).getLast? = some true)
      (he : log.reserved.getLast? = some extent) (h : g.rows = [.star .one, .pixels extent])

/-- What is known of a grid by the answers to the calls that were made on it since it was new. -/
structure Told (log : Log) (g : Grid) : Prop where
  rows : RowsTold log g
  alternate : (false :: log.switches).IsChain (· ≠ ·)
  pinned : g.Pinned
  views : g.views = log.held

theorem RowsTold.laid {log : Log} (h : RowsTold log g) : g.Laid := by
  cases h with
  | filling _ h => exact .filling h
  | reserved extent _ _ h => exact .reserved extent h

namespace Told

variable {log : Log}

theorem regular (h : Told log g) : g.Regular := h.rows.laid.regular h.pinned

theorem start (view : ViewId) : Told [] { view } where
  rows := .filling rfl rfl
  alternate := .singleton false
  pinned := nofun
  views := rfl

/-- A success of one kind comes after one of the other kind. -/
theorem switched {b : Bool} (h : Told log g) (hl : (false :: log.switches).getLast? = some b)
    {x : Call × Option Bool} (hx : Log.switches [x] = [!b]) :
    (false :: Log.switches (log ++ [x])).getLast? = some (!b) ∧
      (false :: Log.switches (log ++ [x])).IsChain (· ≠ ·) := by
  rw [Log.switches_append, hx, ← List.cons_append]
  refine ⟨List.getLast?_concat, h.alternate.append (.singleton _) fun a ha c hc => ?_⟩
  rw [hl, Option.mem_some_iff] at ha
  rw [List.head?_cons, Option.mem_some_iff] at hc
  rw [← ha, ← hc]
  simp

theorem rows_of_quiet (h : Told log g) {x : Call × Option Bool} (hr : Log.reserved [x] = [])
    (hs : Log.switches [x] = []) {f : Grid} (hrows : f.rows = g.rows) :
    RowsTold (log ++ [x]) f ∧ (false :: Log.switches (log ++ [x])).IsChain (· ≠ ·) := by
  have hreserved : Log.reserved (log ++ [x]) = log.reserved := by
    rw [Log.reserved_append, hr, List.append_nil]
  have hswitches : Log.switches (log ++ [x]) = log.switches := by
    rw [Log.switches_append, hs, List.append_nil]
  refine ⟨?_, hswitches ▸ h.alternate⟩
  cases h.rows with
  | filling hl h => exact .filling (hswitches ▸ hl) (hrows.trans h)
  | reserved extent hl he h => exact .reserved extent (hswitches ▸ hl) (hreserved ▸ he) (hrows.trans h)

/-- The reserved row has the extent of the last reservation that succeeded, until it is given back, and
these two take turns. -/
theorem rows_call (h : Told log g) (c : Call) :
    RowsTold (log ++ [(c, (c.perform g).1)]) (c.perform g).2 ∧
      (false :: Log.switches (log ++ [(c, (c.perform g).1)])).IsChain (· ≠ ·) := by
  have hg := h.regular
  cases c with
  | reserve extent =>
    rw [hg.reserve]
    cases h.rows with
    | filling hl hrows =>
      obtain ⟨hlast, hchain⟩ := h.switched hl (x := (.reserve extent, some true)) rfl
      have he : (Log.reserved (log ++ [(.reserve extent, some true)])).getLast? = some extent := by
        rw [Log.reserved_append]
        exact List.getLast?_concat
      rw [if_pos hrows]
      exact ⟨.reserved extent hlast he rfl, hchain⟩
    | reserved e _ _ hrows =>
      rw [if_neg (by simp [hrows])]
      exact h.rows_of_quiet rfl rfl rfl
  | release =>
    rw [hg.release]
    cases h.rows with
    | filling _ hrows =>
      rw [if_pos hrows]
      exact h.rows_of_quiet rfl rfl rfl
    | reserved e hl _ hrows =>
      obtain ⟨hlast, hchain⟩ := h.switched hl (x := (.release, some true)) rfl
      rw [if_neg (by simp [hrows])]
      exact ⟨.filling hlast rfl, hchain⟩
  | add view => exact h.rows_of_quiet rfl rfl (rows_addView g view)
  | remove view =>
    refine h.rows_of_quiet ?_ ?_ (rows_removeView g view)
    · rfl
    · rfl
  | pin => exact h.rows_of_quiet rfl rfl (rows_pinLast g)

theorem call (h : Told log g) (c : Call) : Told (log ++ [(c, (c.perform g).1)]) (c.perform g).2 where
  rows := (h.rows_call c).1
  alternate := (h.rows_call c).2
  pinned := h.pinned.perform c
  views := by rw [h.pinned.views_perform, h.views, Log.held_concat]

theorem after (view : ViewId) (calls : List Call) :
    Told (answers calls { view }) (Grid.after calls { view }) := by
  induction calls using List.reverseRecOn with
  | nil => exact start view
  | append_singleton calls c ih =>
    rw [answers_concat, after_append]
    exact ih.call c

end Told
end Grid

namespace Deck

open Act (Keeps OnState)

variable {d e f : Deck} {es : List Event} {v : Option Event} {s : Scene Deck} {r : Ref .screen}
  {g : Ref .grid} {calls more : List Grid.Call}

/-! Decks. -/

/-- Whatever is done with a grid, calls do it. -/
theorem GridMove.eq_after {f : Grid → Grid} (hf : GridMove f) (x : Grid) :
    ∃ calls, f x = Grid.after calls x := by
  cases hf with
  | reserve extent => exact ⟨[.reserve extent], rfl⟩
  | release => exact ⟨[.release], rfl⟩
  | add view => exact ⟨[.add view], rfl⟩
  | remove view => exact ⟨[.remove view], rfl⟩
  | pin => exact ⟨[.pin], rfl⟩
  | detach view =>
    by_cases hempty : (x.removeView view).2.cells.isEmpty
    · exact ⟨[.remove view], if_pos hempty⟩
    · exact ⟨[.remove view, .pin], if_neg hempty⟩

/-- Calls have made every grid what it is. -/
structure AllMade (d : Deck) : Prop where
  grid : ∀ {g x}, d.grids.get? g = some x → ∃ view calls, x = Grid.after calls { view }

theorem AllMade.move (h : d.AllMade) (hm : Move d v e) : e.AllMade where
  grid hx := by
    obtain hx | ⟨view, rfl⟩ | ⟨f, y, hf, hy, rfl⟩ := hm.grid_cases hx
    · exact h.grid hx
    · exact ⟨view, [], rfl⟩
    · obtain ⟨view, calls, rfl⟩ := h.grid hy
      obtain ⟨more, hmore⟩ := hf.eq_after (Grid.after calls { view })
      exact ⟨view, calls ++ more, by rw [hmore, Grid.after_append]⟩

theorem AllMade.history (h : d.AllMade) (hh : History d es e) : e.AllMade := by
  induction hh with
  | start => exact h
  | move _ hm ih => exact ih.move hm

theorem Move.settings (hm : Move d v e) : e.settings = d.settings := by
  cases hm with
  | dispose r =>
    rw [release_eq]
    rfl
  | release x => rw [release_eq]
  | makeWidget handle sharing => cases sharing <;> rfl
  | _ => rfl

theorem History.settings (h : History d es e) : e.settings = d.settings := by
  induction h with
  | start => rfl
  | move _ hm ih => exact hm.settings.trans ih

/-- These calls were made on the grid. -/
def Performed (g : Ref .grid) (calls : List Grid.Call) (d e : Deck) : Prop :=
  ∀ x, d.grids.get? g = some x → e.grids.get? g = some (Grid.after calls x)

namespace Performed

theorem of_eq (h : e.grids = d.grids) : Performed g [] d e := fun x hx => by rwa [h]

theorem modifyGrid (c : Grid.Call) (g : Ref .grid) (d : Deck) :
    Performed g [c] d (d.modifyGrid g fun x => (c.perform x).2) := fun x hx => by
  rw [Deck.modifyGrid, Store.get?_modify_self, hx]
  rfl

theorem trans (h : Performed g calls d e) (h' : Performed g more e f) : Performed g (calls ++ more) d f :=
  fun x hx => by
    rw [Grid.after_append]
    exact h' _ (h x hx)

end Performed

instance (g : Ref .grid) : Act.Steady (OnState (Performed g [])) :=
  Act.steady_onState (fun _ => .of_eq rfl) fun h h' => h.trans h'

theorem Calm.performed (h : Calm d e) : Performed g [] d e := fun _ hx => h.grids hx

instance (g : Ref .grid) : Strolling (Performed g []) where
  hushed _ h _ := h.toCalm.performed
  letGo cs d := (calm_letGo cs d).performed
  retire _ := (calm_retire _ _).performed

theorem admits_performed (v : Event) : Admits (Performed g []) v := fun hm => by
  cases hm <;> exact .of_eq rfl

theorem performed_removeOptionsMenu (hs : s.context.Serves) (r : Ref .screen) :
    Performed (s.state.screens.get r).grid [.release] s.state (removeOptionsMenu r s).2.state := by
  have hreset : Performed (s.state.screens.get r).grid [] s.state (s.state.resetBar r) := .of_eq rfl
  have hreleased := hreset.trans (.modifyGrid .release (s.state.screens.get r).grid _)
  rw [removeOptionsMenu_state, if_pos hs]
  split
  · exact hreleased.trans (.of_eq rfl)
  · exact hreleased

/-- Setting the bar leaves the grid alone, unless the container takes the menu away. -/
theorem performed_setBarVisible (hs : s.context.Serves) (r : Ref .screen) (value : Bool) :
    Performed (s.state.screens.get r).grid
      (if s.state.resetsWhenTold r ∧ s.state.barVisible r ≠ value then [.release] else [])
      s.state (setBarVisible r value s).2.state := by
  obtain ⟨k, hk, hmode, hchange⟩ | ⟨hno, hidle | hother⟩ := setBarVisible_cases r value s
  · have hturned : Performed (s.state.screens.get r).grid [] s.state (turnedBar k r value s).state :=
      .of_eq rfl
    have hremoved := performed_removeOptionsMenu (s := turnedBar k r value s) hs r
    rw [if_pos hchange, setBarVisible, setBarVisibleWithin_of_turn hk hchange.2, hmode]
    exact hturned.trans hremoved
  · rw [if_neg hno, hidle]
    exact .of_eq rfl
  · rw [if_neg hno]
    refine keeps_setBarVisibleWithin (T := OnState (Performed (s.state.screens.get r).grid []))
      (fun value t => ?_) (fun t _ => .of_eq rfl) 3 value fun k hk => ⟨fun _ => ?_, fun hmode => ?_⟩
    · rw [setManagerVisible_apply]
      split <;> exact .of_eq rfl
    · exact (composed_showScreen (R := Performed _ []) (fun v _ => admits_performed v) r).keeps
    · exact absurd hmode (hother k hk)

/-- What enabling the bar of a screen does with its grid. A container that takes the menu away gives the row
back at once. -/
def enableCalls (r : Ref .screen) (s : Scene Deck) : List Grid.Call :=
  match (parent r s).1 with
  | .error _ => []
  | .ok _ =>
    if s.context.Serves then
      .reserve s.state.settings.barExtent ::
        if s.state.resetsWhenTold r ∧ s.state.barVisible r ≠ true then [.release] else []
    else []

/-- The row is reserved before the container is told, which may give it back. -/
theorem performed_enableBar (r : Ref .screen) (s : Scene Deck) :
    Performed (s.state.screens.get r).grid (enableCalls r s) s.state (enableBar r s).2.state := by
  obtain ⟨e, hp⟩ | hp := parent_cases r s
  · have hstate : (enableBar r s).2.state = s.state := by rw [enableBar_apply, hp]
    rw [enableCalls, hp, hstate]
    exact .of_eq rfl
  · rw [enableCalls, hp]
    dsimp only
    by_cases hs : s.context.Serves
    · obtain ⟨u, hmake, hu, hsu⟩ := BarCall.make_eq_setBarVisible (c := .enable) hs hp
      have hrow : Performed (s.state.screens.get r).grid [.reserve s.state.settings.barExtent]
          s.state u.state := by
        rw [hu]
        exact .modifyGrid (.reserve s.state.settings.barExtent) _ _
      have hbar := performed_setBarVisible hsu r true
      rw [hu] at hbar
      rw [if_pos hs, show enableBar r s = setBarVisible r true u from hmake]
      exact hrow.trans (hu ▸ hbar)
    · have hstate := (BarCall.make_of_not_begins (c := .enable) hs hp).2
      rw [if_neg hs, show (enableBar r s).2.state = s.state from hstate]
      exact .of_eq rfl

/-- A row that enabling puts under the screen has the extent of the settings. -/
theorem rows_after_enableCalls {x : Grid} (h : x.rows = [.star .one]) :
    (Grid.after (enableCalls r s) x).rows = [.star .one] ∨
      (Grid.after (enableCalls r s) x).rows = [.star .one, .pixels s.state.settings.barExtent] := by
  have hlaid : x.Laid := .filling h
  rw [enableCalls]
  split
  · exact .inl h
  · split
    · have hreserved : (x.reserveRow s.state.settings.barExtent).2.rows =
          [.star .one, .pixels s.state.settings.barExtent] := by rw [hlaid.reserveRow_eq, if_pos h]
      split
      · exact .inl (hlaid.reserveRow _).rows_releaseReservedRow
      · exact .inr hreserved
    · exact .inl h

end Deck

namespace Session

open Deck

variable {setup : Setup} {settings : Settings} {start s : Scene Deck} {es : List Event}
  {r : Ref .screen} {x : Screen}

theorem allMade_start (h : setup.start = .ok start) : start.state.AllMade := by
  obtain ⟨settings, -, rfl⟩ := start_eq_ok h
  dsimp only
  unfold Setup.deck
  cases setup.withPage <;> exact ⟨nofun⟩

/-- No session begins with settings that do not pass. -/
theorem Setup.validate_settings (h : setup.settings = .ok settings) : settings.validate = .ok settings := by
  rw [Setup.settings] at h
  cases hd : setup.document with
  | none =>
    rw [hd] at h
    cases h
    rfl
  | some text =>
    rw [hd] at h
    simp only [Settings.parse] at h
    split at h
    · cases h
    · obtain ⟨hvalid, rfl⟩ := (Settings.validate_eq_ok_iff _ _).mp h
      exact h

/-- Calls on a new grid keep to its filling row and at most one more, which has the extent that was reserved
last. Whatever becomes of a deck, its grids come out of such calls, and the row that a screen reserves for its
bar has the extent of the settings, above zero and not NaN. -/
theorem reserved_row_is_as_configured :
    (∀ view calls, let g := Grid.after calls { view }
      Grid.Told (Grid.answers calls { view }) g ∧ g.Regular) ∧
    ∀ {setup start s es r x}, Setup.start setup = .ok start → History start.state es s.state →
      s.state.screens.get? r = some x →
      ∃ settings g view calls, setup.settings = .ok settings ∧ settings.validate = .ok settings ∧
        settings.barExtent.isPositive ∧ settings.barExtent.isNaN = false ∧
        s.state.grids.get? x.grid = some g ∧ g = Grid.after calls { view } ∧
        let t := (enableBar r s).2
        ∃ h, t.state.grids.get? x.grid = some h ∧ h = Grid.after (enableCalls r s) g ∧
          (g.rows = [.star .one] →
            h.rows = [.star .one] ∨ h.rows = [.star .one, .pixels settings.barExtent]) := by
  refine ⟨fun view calls => ?_, fun {setup start s es r x} hs h hx => ?_⟩
  · have htold := Grid.Told.after view calls
    exact ⟨htold, htold.regular⟩
  · obtain ⟨settings, hset, hstart⟩ := start_eq_ok hs
    have hvalid := Setup.validate_settings hset
    have hpositive := ((Settings.validate_eq_ok_iff _ _).mp hvalid).1.2
    have hsame : s.state.settings = settings := by
      rw [h.settings, hstart]
      dsimp only
      unfold Setup.deck
      cases setup.withPage <;> rfl
    obtain ⟨g, hg⟩ := Option.isSome_iff_exists.mp (((start_alone hs).2.1.history h).isSome_grid hx)
    obtain ⟨view, calls, hmade⟩ := ((allMade_start hs).history h).grid hg
    have hgrid : (s.state.screens.get r).grid = x.grid := by rw [Store.get_of_get? hx]
    have hperformed := performed_enableBar r s g (hgrid ▸ hg)
    rw [hgrid] at hperformed
    refine ⟨settings, g, view, calls, hset, hvalid, hpositive, Single.not_isNaN_of_isPositive hpositive, hg,
      hmade, _, hperformed, rfl, ?_⟩
    rw [← hsame]
    exact rows_after_enableCalls

def newScreen : Scene Deck := { newSession with state := (makeScreen ⟨1⟩ newSession.state).2 }

theorem new_screen_reserves_row :
    let s := newScreen
    Setup.start {} = .ok newSession ∧ History newSession.state [] s.state ∧
      (s.state.grids.get? ⟨0⟩).map (·.rows) = some [.star .one] ∧
      ∃ h, (enableBar ⟨0⟩ s).2.state.grids.get? ⟨0⟩ = some h ∧
        h.rows = [.star .one, .pixels (.ofInt 78)] := by
  intro s
  have hmade : History newSession.state [] s.state := History.start.move (.makeScreen ⟨1⟩)
  obtain ⟨settings, g, view, calls, hset, -, -, -, hg, -, h, hh, hafter, hrows⟩ :=
    reserved_row_is_as_configured.2 start_newSession hmade (r := ⟨0⟩) rfl
  cases hset
  have hg : g = { view := ⟨1⟩ } := (Option.some.inj hg).symm
  have hreserved : h.rows ≠ [.star .one] := by
    rw [hafter, hg]
    decide
  exact ⟨start_newSession, hmade, rfl, h, hh, (hrows (hg ▸ rfl)).resolve_left hreserved⟩

end Session
end ScreenDeck
