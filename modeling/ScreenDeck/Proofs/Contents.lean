import ScreenDeck.Proofs.Callbacks
import ScreenDeck.Proofs.PageCalls
import ScreenDeck.Proofs.SessionHistories

/-! The content of the page. It is put there by calls that end well, and what the page shows is what
the last of them has put there since the page was opened. Calls that fail leave it alone. -/

namespace ScreenDeck

namespace Deck

open Act (Keeps OnState within)

variable {α β : Type} {d e f : Deck} {s : Scene Deck} {g : Ref .grid}

def content? (d : Deck) : Option (Option (Ref .grid)) := d.page.map (·.content)

theorem shownGrid_eq (d : Deck) : d.shownGrid = d.content?.join := by
  cases hp : d.page <;> simp [shownGrid, content?, hp]

theorem isSome_content? (d : Deck) : d.content?.isSome = d.page.isSome := by
  simp [content?]

theorem content?_fillPage (h : d.page.isSome) (g : Ref .grid) :
    (d.fillPage g).content? = some (some g) := by
  obtain ⟨page, hp⟩ := Option.isSome_iff_exists.mp h
  simp [content?, fillPage, hp]

@[simp]
theorem content?_attachBar (bar : Option (Ref .bar)) (d : Deck) :
    (d.attachBar bar).content? = d.content? := by
  cases bar with
  | none => rfl
  | some b => simp [content?, attachBar, Function.comp_def]

def Event.Fills : Event → Prop
  | .filled _ | .opened | .closed => True
  | .requested _ | .attached _ | .resized _ => False

abbrev Untouched : Deck → Deck → Prop := EvolvesBy fun v => ¬ v.Fills

theorem Untouched.content? (h : Untouched d e) : e.content? = d.content? := by
  refine h.constant (p := Deck.content?) fun {d e v} hm hv => ?_
  rw [Deck.content?, hm.page]
  rcases v with _ | (_ | _ | _ | _ | _ | _)
  case some.filled | some.opened | some.closed => exact absurd trivial (hv _ rfl)
  all_goals simp [Deck.content?, Event.onPage, Function.comp_def]

theorem admits_untouched {v : Event} (h : ¬ v.Fills) : Admits Untouched v := admits_evolvesBy h

/-! Calls that put a grid on the page. -/

def succeeded (good : α → Bool) : Except Abort α → Bool
  | .ok a => good a
  | .error _ => false

/-- When the action ends well, the page shows the grid, and otherwise what it showed before. -/
def Puts (g : Ref .grid) (good : α → Bool) (a : Do α) (s : Scene Deck) : Prop :=
  (a s).2.state.content? = if succeeded good (a s).1 then some (some g) else s.state.content?

theorem Puts.runSync {good : α → Bool} {work : Do α} (h : Puts g good work (within s)) :
    Puts g good (Act.runSync work) s := by
  by_cases hs : s.context.Serves
  · have hcontained : succeeded good (Act.containment (work (within s)).1) =
        succeeded good (work (within s)).1 := by
      rcases (work (within s)).1 with (_ | _ | _) | _ <;> rfl
    rw [Puts, Act.runSync_state hs, Act.runSync_fst hs, hcontained]
    exact h
  · rw [Puts, Act.runSync_apply_of_not_serves work hs]
    rfl

theorem Puts.bind {good : α → Bool} {good' : β → Bool} {a : Do α} {k : α → Do β}
    (h : Puts g good a s) (hk : ∀ x t, (k x t).2.state.content? = t.state.content? ∧
      succeeded good' (k x t).1 = good x) : Puts g good' (a >>= k) s := by
  rw [Puts, Act.bind_apply]
  rw [Puts] at h
  rcases hr : a s with ⟨e | x, t⟩
  · rw [hr] at h
    exact h
  · rw [hr] at h
    obtain ⟨hcontent, hgood⟩ := hk x t
    simp only [hcontent, hgood]
    exact h

theorem puts_setPageContent (g : Ref .grid) (s : Scene Deck) :
    Puts g (fun _ => true) (setPageContent g) s := by
  rw [Puts, setPageContent_apply]
  by_cases hc : s.state.Takes .setPageContent
  · rw [if_pos hc]
    exact content?_fillPage hc.2 g
  · rw [if_neg hc]
    rfl

/-- The content comes last. If the bar or the content is refused, the page shows what it showed before. -/
theorem puts_showContent (p : Ref .presenter) (bar : Option (Ref .bar)) (s : Scene Deck) :
    Puts (s.state.presenters.get p).grid (fun _ => true) (showContent p bar) s := by
  rw [Puts, showContent_apply]
  by_cases hb : bar = none ∨ s.state.Takes .setPageCommandBar
  · rw [if_pos hb]
    by_cases hc : s.state.Takes .setPageContent
    · rw [if_pos hc]
      have hpage : (s.state.attachBar bar).page.isSome := by
        rw [isSome_page_attachBar]
        exact hc.2
      exact content?_fillPage hpage _
    · rw [if_neg hc]
      exact content?_attachBar bar s.state
  · rw [if_neg hb]
    rfl

theorem puts_present (p : Ref .presenter) (bar : Option (Ref .bar)) (s : Scene Deck) :
    Puts (s.state.presenters.get p).grid (fun _ => true) (present p bar) s := by
  have hshow : Puts (s.state.presenters.get p).grid (fun _ => true)
      (Act.runSync (showContent p bar)) { s with state := s.state.request p } := by
    rw [← grid_get_request s.state p]
    exact (puts_showContent p bar _).runSync
  rw [Puts, present_apply]
  exact hshow.bind (k := fun _ => Act.note .screenPresented) fun _ _ => ⟨rfl, rfl⟩

theorem puts_switchContent (x : Switch) (s : Scene Deck) :
    Puts (s.state.presenters.get x.presenter).grid id (switchContent x) s := by
  rw [Puts, switchContent_apply]
  by_cases hx : s.state.isCurrent x = true
  · rw [if_pos hx]
    by_cases hc : s.state.Takes .setPageContent
    · rw [if_pos hc]
      exact content?_fillPage hc.2 _
    · rw [if_neg hc]
      rfl
  · rw [if_neg hx]
    rfl

theorem puts_invoke (x : Switch) (s : Scene Deck) :
    Puts (s.state.presenters.get x.presenter).grid id (invoke x) s := by
  have hswitch : Puts (s.state.presenters.get x.presenter).grid id
      (Act.runSync (switchContent x)) s := (puts_switchContent x (within s)).runSync
  refine hswitch.bind fun switched t => ?_
  cases switched <;> exact ⟨rfl, rfl⟩

inductive ContentCall where
  | present (p : Ref .presenter) (bar : Option (Ref .bar))
  | switch (x : Switch)
  | set (g : Ref .grid)

namespace ContentCall

/-- A switch may return without having switched, the others fail. -/
def perform : ContentCall → Do Bool
  | .present p bar => do Deck.present p bar; return true
  | .switch x => invoke x
  | .set g => do setPageContent g; return true

def grid (d : Deck) : ContentCall → Ref .grid
  | .present p _ => (d.presenters.get p).grid
  | .switch x => (d.presenters.get x.presenter).grid
  | .set g => g

theorem puts (c : ContentCall) (s : Scene Deck) : Puts (c.grid s.state) id c.perform s := by
  cases c with
  | present p bar => exact (puts_present p bar s).bind fun _ _ => ⟨rfl, rfl⟩
  | switch x => exact puts_invoke x s
  | set g => exact (puts_setPageContent g s).bind fun _ _ => ⟨rfl, rfl⟩

end ContentCall

/-! Requests that go through an engine. -/

def KeepsOnError (a : Do Unit) : Prop :=
  ∀ s e, (a s).1 = .error e → (a s).2.state.content? = s.state.content?

theorem Puts.keepsOnError {a : Do Unit} {p : Scene Deck → Ref .grid}
    (h : ∀ s, Puts (p s) (fun _ => true) a s) : KeepsOnError a := by
  intro s e he
  have hs := h s
  rwa [Puts, he, succeeded, if_neg Bool.false_ne_true] at hs

/-- Work that is refused has not begun, and work that panics has failed. -/
theorem KeepsOnError.runSync {work : Do Unit} (h : KeepsOnError work) :
    KeepsOnError (Act.runSync work) := by
  intro s e he
  by_cases hs : s.context.Serves
  · rw [Act.runSync_fst hs] at he
    obtain ⟨f, hf⟩ : ∃ f, (work (within s)).1 = .error f := by
      rcases hw : (work (within s)).1 with f | _
      · exact ⟨f, rfl⟩
      · rw [hw] at he
        cases he
    rw [Act.runSync_state hs]
    exact h (within s) f hf
  · rw [Act.runSync_apply_of_not_serves work hs]

theorem runImmediate_keepsOnError (x : Switch) : KeepsOnError (runImmediate x) := by
  intro s e he
  have hputs := puts_invoke x s
  rw [runImmediate, Act.bind_apply, Act.attempt_apply] at he ⊢
  rw [Puts] at hputs
  rcases hr : invoke x s with ⟨(_ | _ | _) | b, t⟩
  all_goals rw [hr] at he hputs
  · cases he
  · exact hputs
  · exact hputs
  · cases he

theorem runTransition_keepsOnError (engine : Engine) (kind : Int32) (x : Switch) :
    KeepsOnError (runTransition engine kind x) := by
  intro s e he
  cases engine with
  | immediate => exact runImmediate_keepsOnError x s e he
  | host =>
    let t : Scene Deck := { s with state := { s.state with transitions := s.state.transitions ++ [kind] } }
    rw [runTransition, Act.bind_apply_ok (Act.modifyState_apply _ s),
      Act.bind_apply_ok (Act.state_apply t)] at he ⊢
    have hm : t.state.engineMode = s.state.engineMode := rfl
    rw [hm] at he ⊢
    cases hmode : s.state.engineMode with
    | immediate =>
      rw [hmode] at he
      exact runImmediate_keepsOnError x t e he
    | deferred => rfl
    | drop => rfl
    | panic => rfl

theorem showSwitch_keepsOnError (engine : Engine) (bar : Option (Ref .bar)) (kind : Int32)
    (x : Switch) : KeepsOnError (showSwitch engine bar kind x) := by
  intro s e he
  rw [showSwitch, Act.bind_apply, showBar_apply] at he ⊢
  by_cases hb : bar = none ∨ s.state.Takes .setPageCommandBar
  · rw [if_pos hb] at he ⊢
    have hrun := runTransition_keepsOnError engine kind x _ e he
    exact hrun.trans (content?_attachBar bar s.state)
  · rw [if_neg hb]

inductive Presentation where
  | present (p : Ref .presenter) (bar : Option (Ref .bar))
  | transition (p : Ref .presenter) (bar : Option (Ref .bar)) (kind : Int32)
  | screen (r : Ref .screen)
  | screenTransition (r : Ref .screen) (kind : Int32)

def Presentation.perform : Presentation → Do Unit
  | .present p bar => Deck.present p bar
  | .transition p bar kind => presentWithTransition p bar kind
  | .screen r => showScreen r
  | .screenTransition r kind => showWithTransition r kind

theorem KeepsOnError.noted {a : Do Unit} (h : KeepsOnError a) (n : Notice) :
    KeepsOnError (do a; Act.note n) := by
  intro s e he
  rw [Act.noted_fst] at he
  rw [(Act.noted_alike a n s).2]
  exact h s e he

theorem presentWithTransition_keepsOnError (p : Ref .presenter) (bar : Option (Ref .bar))
    (kind : Int32) : KeepsOnError (presentWithTransition p bar kind) := by
  intro s e he
  rw [presentWithTransition_apply] at he ⊢
  exact ((showSwitch_keepsOnError _ bar kind _).runSync.noted _) { s with state := s.state.request p } e he

/-- A presentation that fails leaves the content alone, even if it has changed the bar. -/
theorem Presentation.keepsOnError (x : Presentation) : KeepsOnError x.perform := by
  have hpresent (p : Ref .presenter) (bar : Option (Ref .bar)) : KeepsOnError (Deck.present p bar) :=
    Puts.keepsOnError fun s => puts_present p bar s
  cases x with
  | present p bar => exact hpresent p bar
  | transition p bar kind => exact presentWithTransition_keepsOnError p bar kind
  | screen r =>
    intro s e he
    rw [perform, showScreen_apply] at he ⊢
    exact (hpresent _ _).noted _ s e he
  | screenTransition r kind =>
    intro s e he
    rw [perform, showWithTransition_apply] at he ⊢
    exact (presentWithTransition_keepsOnError _ _ kind).noted _ s e he

/-! Logs of what concerns the content. -/

inductive PageEntry where
  | called (g : Ref .grid) (r : Except Abort Bool)
  | opened
  | closed

/-- What the page shows from then on, if that is another content. -/
def PageEntry.change : PageEntry → Option (Option (Ref .grid))
  | .called g r => if succeeded id r then some (some g) else none
  | .opened | .closed => some none

/-- What was put on the page last, if anything was since it was opened. -/
def lastPut (log : List PageEntry) : Option (Ref .grid) := (log.filterMap PageEntry.change).getLast?.join

theorem lastPut_concat (log : List PageEntry) (x : PageEntry) :
    lastPut (log ++ [x]) = x.change.getD (lastPut log) := by
  rw [lastPut, List.filterMap_append]
  cases hx : x.change with
  | none => simp [lastPut, List.filterMap_cons_none hx]
  | some g => simp [List.filterMap_cons_some hx]

/-- What becomes of a deck, with a log of the calls for its page, in whatever scenes they are made. -/
inductive Course (d : Deck) : List PageEntry → Deck → Prop
  | start : Course d [] d
  | call {log : List PageEntry} {s : Scene Deck} (h : Course d log s.state) (c : ContentCall) :
      Course d (log ++ [.called (c.grid s.state) (c.perform s).1]) (c.perform s).2.state
  | openPage {log : List PageEntry} {e : Deck} (h : Course d log e) :
      Course d (log ++ [.opened]) e.openPage
  | closePage {log : List PageEntry} {e : Deck} (h : Course d log e) :
      Course d (log ++ [.closed]) e.closePage.2
  | aside {log : List PageEntry} {e f : Deck} (h : Course d log e) (hf : Untouched e f) : Course d log f

namespace Course

variable {log log' : List PageEntry}

theorem trans (h : Course d log e) (h' : Course e log' f) : Course d (log ++ log') f := by
  induction h' with
  | start => simpa using h
  | call _ c ih =>
    rw [← List.append_assoc]
    exact ih.call c
  | openPage _ ih =>
    rw [← List.append_assoc]
    exact ih.openPage
  | closePage _ ih =>
    rw [← List.append_assoc]
    exact ih.closePage
  | aside _ hf ih => exact ih.aside hf

/-- By induction on the course: every call that succeeds decides anew what is shown. -/
theorem shownGrid (h : Course d log e) (hd : d.shownGrid = none) : e.shownGrid = lastPut log := by
  induction h with
  | start => exact hd
  | @call log s _ c ih =>
    have hputs := c.puts s
    rw [Puts] at hputs
    rw [lastPut_concat, PageEntry.change, shownGrid_eq, hputs]
    by_cases hs : succeeded id (c.perform s).1 = true
    · rw [if_pos hs, if_pos hs]
      rfl
    · rw [if_neg hs, if_neg hs, ← shownGrid_eq]
      exact ih
  | openPage _ ih => rw [lastPut_concat]; rfl
  | closePage _ ih => rw [lastPut_concat]; rfl
  | aside _ hf ih => rw [shownGrid_eq, hf.content?, ← shownGrid_eq, ih]

theorem evolves (h : Course d log e) : Evolves d e := by
  have hadmits : ∀ v : Event, v.Presents → Admits Evolves v := fun v _ => admits_evolves v
  induction h with
  | start => exact .refl d
  | @call log s _ c ih =>
    refine ih.trans ?_
    cases c with
    | present p bar =>
      exact ((composed_present hadmits p bar).bind fun _ => Act.Composed.pure true).keeps s
    | switch x => exact (composed_invoke fun g => admits_evolves _).keeps s
    | set g =>
      exact ((composed_setPageContent (admits_evolves _)).bind fun _ => Act.Composed.pure true).keeps s
  | openPage _ ih => exact ih.trans (.move .openPage trivial)
  | closePage _ ih => exact ih.trans (.move .closePage trivial)
  | aside _ hf ih =>
    obtain ⟨es, hf, -⟩ := hf
    exact ih.trans ⟨es, hf, fun _ _ => trivial⟩

end Course

def Becomes (d e : Deck) : Prop := ∃ log, Course d log e

theorem Untouched.becomes (h : Untouched d e) : Becomes d e := ⟨[], Course.start.aside h⟩

instance : Act.Steady (OnState Becomes) :=
  Act.steady_onState (fun _ => ⟨[], .start⟩) fun ⟨_, h⟩ ⟨_, h'⟩ => ⟨_, h.trans h'⟩

theorem keeps_of_untouched {a : Do α} (h : Act.Composed Untouched a) : Keeps (OnState Becomes) a :=
  fun s => (h.keeps s).becomes

/-! What each action does with the content, it does by such calls. -/

theorem keeps_call (c : ContentCall) : Keeps (OnState Becomes) c.perform :=
  fun _ => ⟨_, Course.start.call c⟩

theorem keeps_present (p : Ref .presenter) (bar : Option (Ref .bar)) :
    Keeps (OnState Becomes) (present p bar) := by
  intro s
  have hcall := keeps_call (.present p bar) s
  rw [ContentCall.perform, Act.bind_apply] at hcall
  rcases hr : present p bar s with ⟨_ | _, t⟩ <;> rw [hr] at hcall <;> exact hcall

theorem keeps_setPageContent (g : Ref .grid) : Keeps (OnState Becomes) (setPageContent g) := by
  intro s
  have hcall := keeps_call (.set g) s
  rw [ContentCall.perform, Act.bind_apply] at hcall
  rcases hr : setPageContent g s with ⟨_ | _, t⟩ <;> rw [hr] at hcall <;> exact hcall

theorem keeps_invoke (x : Switch) : Keeps (OnState Becomes) (invoke x) := keeps_call (.switch x)

theorem keeps_runImmediate (x : Switch) : Keeps (OnState Becomes) (runImmediate x) := by
  refine (keeps_invoke x).attempt.bind fun r => ?_
  rcases r with (_ | _ | _) | _
  · exact Keeps.note _
  all_goals exact (Keeps.settle _).bind fun _ => Keeps.pure _

theorem keeps_runTransition (engine : Engine) (kind : Int32) (x : Switch) :
    Keeps (OnState Becomes) (runTransition engine kind x) := by
  have hanimate : Act.Composed Untouched (Act.modifyState fun d : Deck =>
      { d with transitions := d.transitions ++ [kind] }) :=
    composed_still (fun _ => .animate kind) fun _ => .of_eq rfl rfl rfl
  have hhold : Act.Composed Untouched (Act.modifyState fun d : Deck =>
      { d with pending := d.pending ++ [x] }) :=
    composed_still (fun _ => .hold x) fun _ => .of_eq rfl rfl rfl
  cases engine with
  | immediate => exact keeps_runImmediate x
  | host =>
    refine (keeps_of_untouched hanimate).bind fun _ => Keeps.state.bind fun d => ?_
    cases d.engineMode with
    | immediate => exact keeps_runImmediate x
    | deferred => exact keeps_of_untouched hhold
    | drop => exact Keeps.pure ()
    | panic => exact Keeps.throw _

theorem composed_showBar_untouched (bar : Option (Ref .bar)) :
    Act.Composed Untouched (showBar bar) := by
  cases bar with
  | none => exact Act.Composed.pure ()
  | some b => exact composed_setPageBar (admits_untouched id)

theorem keeps_presentWithTransition (p : Ref .presenter) (bar : Option (Ref .bar)) (kind : Int32) :
    Keeps (OnState Becomes) (presentWithTransition p bar kind) := by
  intro s
  rw [presentWithTransition_apply]
  have hrequest : OnState Becomes s { s with state := s.state.request p } :=
    Untouched.becomes (.move (.request p) id)
  have hshow := (keeps_of_untouched (composed_showBar_untouched bar)).bind fun _ =>
    keeps_runTransition ((s.state.request p).presenters.get p).engine kind (s.state.nextSwitch p)
  have hrest := hshow.runSync.bind fun _ => Keeps.note .transitionStarted
  exact Act.Steady.trans hrequest (hrest { s with state := s.state.request p })

theorem keeps_showScreen (r : Ref .screen) : Keeps (OnState Becomes) (showScreen r) :=
  Keeps.state.bind fun _ => (keeps_present _ _).bind fun _ => Keeps.note _

theorem keeps_showWithTransition (r : Ref .screen) (kind : Int32) :
    Keeps (OnState Becomes) (showWithTransition r kind) :=
  Keeps.state.bind fun _ => (keeps_presentWithTransition _ _ kind).bind fun _ => Keeps.note _

theorem composed_removeOptionsMenu_untouched (r : Ref .screen) :
    Act.Composed Untouched (removeOptionsMenu r) :=
  composed_removeOptionsMenu r fun _ => admits_untouched id

theorem composed_toggle_untouched (t : Toggle) : Act.Composed Untouched
    (Act.modifyState fun d : Deck => { d with toggles := d.toggles ++ [t] }) :=
  composed_still (fun _ => .toggle t) fun _ => .of_eq rfl rfl rfl

theorem composed_reserve_untouched (g : Ref .grid) : Act.Composed Untouched (reserve g) :=
  composed_change fun d => spans_putGrid g (.reserve d.settings.barExtent) d

theorem becomes_setBarVisible (r : Ref .screen) (value : Bool) :
    Keeps (OnState Becomes) (setBarVisible r value) := fun _ =>
  keeps_setBarVisibleWithin (fun value s => keeps_of_untouched (composed_setManagerVisible _ value) s)
    (fun t => keeps_of_untouched (composed_toggle_untouched t)) 3 value
    (.always (keeps_showScreen r) (keeps_of_untouched (composed_removeOptionsMenu_untouched r)))

theorem becomes_enableBar (r : Ref .screen) : Keeps (OnState Becomes) (enableBar r) := fun _ =>
  keeps_enableBar (fun value s => keeps_of_untouched (composed_setManagerVisible _ value) s)
    (fun t => keeps_of_untouched (composed_toggle_untouched t))
    (fun g => keeps_of_untouched (composed_reserve_untouched g).runSync)
    (.always (keeps_showScreen r) (keeps_of_untouched (composed_removeOptionsMenu_untouched r)))

/-! Command bars. Only a container that shows the screen in return touches the content. -/

/-- The container that holds the screen shows it when it is told of its bar. -/
def CallsBack (d : Deck) (r : Ref .screen) : Prop :=
  ∃ k, (d.screens.get r).parent = some (.container k) ∧ (d.containers.get k).mode = .shows

theorem callbackKeeps_untouched {r : Ref .screen} (h : ¬ d.CallsBack r) :
    CallbackKeeps (OnState Untouched) r d := fun k hk =>
  ⟨fun hm => absurd ⟨k, hk, hm⟩ h, fun _ => (composed_removeOptionsMenu_untouched r).keeps⟩

theorem untouched_setBarVisible {r : Ref .screen} (value : Bool) (h : ¬ s.state.CallsBack r) :
    Untouched s.state (setBarVisible r value s).2.state :=
  keeps_setBarVisibleWithin (T := OnState Untouched)
    (fun value s => (composed_setManagerVisible _ value).keeps s)
    (fun t => (composed_toggle_untouched t).keeps) 3 value (callbackKeeps_untouched h)

theorem untouched_enableBar {r : Ref .screen} (h : ¬ s.state.CallsBack r) :
    Untouched s.state (enableBar r s).2.state :=
  keeps_enableBar (T := OnState Untouched) (fun value s => (composed_setManagerVisible _ value).keeps s)
    (fun t => (composed_toggle_untouched t).keeps)
    (fun g => (composed_reserve_untouched g).runSync.keeps) (callbackKeeps_untouched h)

end Deck
end ScreenDeck
