import ScreenDeck.Proofs.Histories

/-! What the calls on the page do, and what presentation does through them. A call has its effect
when the host lets it pass and there is a page. -/

namespace ScreenDeck.Deck

def shownGrid (d : Deck) : Option (Ref .grid) := d.page.bind (·.content)

def attachedBar (d : Deck) : Option (Ref .bar) := d.page.bind (·.bar)

def Takes (d : Deck) (call : HostCall) : Prop := d.faults call = .pass ∧ d.page.isSome

instance (d : Deck) (call : HostCall) : Decidable (d.Takes call) :=
  inferInstanceAs (Decidable (_ ∧ _))

def pageRefusal (d : Deck) (call : HostCall) : Abort :=
  match d.faults call with
  | .pass => .failed (.invalidState .noActivePage)
  | .refuse => .failed (.invalidState (.refused call))
  | .panic => .panicked

/-- Work in which the deck does not take a call fails, also where the host panics. -/
theorem containment_pageRefusal (α : Type) (d : Deck) (call : HostCall) :
    ∃ f, Act.containment (.error (d.pageRefusal call) : Except Abort α) = .error (.failed f) := by
  unfold pageRefusal
  cases d.faults call <;> exact ⟨_, rfl⟩

def fillPage (g : Ref .grid) (d : Deck) : Deck :=
  { d with page := d.page.map fun page => { page with content := some g } }

def attachBar : Option (Ref .bar) → Deck → Deck
  | none, d => d
  | some b, d => { d with page := d.page.map fun page => { page with bar := some b } }

def presented (p : Ref .presenter) (bar : Option (Ref .bar)) (d : Deck) : Deck :=
  ((d.request p).attachBar bar).fillPage (d.presenters.get p).grid

@[simp]
theorem presenters_attachBar (bar : Option (Ref .bar)) (d : Deck) :
    (d.attachBar bar).presenters = d.presenters := by
  cases bar <;> rfl

@[simp]
theorem faults_attachBar (bar : Option (Ref .bar)) (d : Deck) :
    (d.attachBar bar).faults = d.faults := by
  cases bar <;> rfl

@[simp]
theorem isSome_page_attachBar (bar : Option (Ref .bar)) (d : Deck) :
    (d.attachBar bar).page.isSome = d.page.isSome := by
  cases bar with
  | none => rfl
  | some b => exact Option.isSome_map

theorem takes_attachBar {bar : Option (Ref .bar)} {d : Deck} {call : HostCall} :
    (d.attachBar bar).Takes call ↔ d.Takes call := by
  simp [Takes]

theorem shownGrid_fillPage {d : Deck} (h : d.page.isSome) (g : Ref .grid) :
    (d.fillPage g).shownGrid = some g := by
  obtain ⟨page, hp⟩ := Option.isSome_iff_exists.mp h
  simp [shownGrid, fillPage, hp]

@[simp]
theorem attachedBar_fillPage (g : Ref .grid) (d : Deck) :
    (d.fillPage g).attachedBar = d.attachedBar := by
  cases hp : d.page <;> simp [attachedBar, fillPage, hp]

theorem shownGrid_attachBar (bar : Option (Ref .bar)) (d : Deck) :
    (d.attachBar bar).shownGrid = d.shownGrid := by
  cases bar with
  | none => rfl
  | some b => cases hp : d.page <;> simp [shownGrid, attachBar, hp]

theorem attachedBar_attachBar {d : Deck} (h : d.page.isSome) (b : Ref .bar) :
    (d.attachBar (some b)).attachedBar = some b := by
  obtain ⟨page, hp⟩ := Option.isSome_iff_exists.mp h
  simp [attachedBar, attachBar, hp]

/-- What an event makes of the page. -/
def Event.onPage (content : Size) : Event → Option Page → Option Page
  | .requested _, page => page
  | .attached b, page => page.map fun x => { x with bar := some b }
  | .filled g, page => page.map fun x => { x with content := some g }
  | .resized size, page => page.map fun x => { x with size }
  | .opened, _ => some { size := content }
  | .closed, _ => none

theorem Move.page {d e : Deck} {v : Option Event} (hm : Move d v e) :
    e.page = v.elim d.page fun w => w.onPage d.contentSize d.page := by
  cases hm with
  | attach hp b => simp [Event.onPage, hp]
  | fill hp g => simp [Event.onPage, hp]
  | resize hp size => simp [Event.onPage, hp]
  | dispose s => rw [release_eq]; rfl
  | release s => rw [release_eq]; rfl
  | makeWidget handle sharing => cases sharing <;> rfl
  | _ => rfl

/-! One call. -/

theorem consult_apply (call : HostCall) (s : Scene Deck) :
    consult call s = match s.state.faults call with
      | .pass => (.ok (), s)
      | .refuse => (.error (.failed (.invalidState (.refused call))), s)
      | .panic => (.error .panicked, s) := by
  rw [consult, Act.bind_apply_ok (Act.state_apply s)]
  cases s.state.faults call <;> rfl

/-- The host is asked first, and only then the page changes. -/
theorem consulted_apply (call : HostCall) (f : Page → Page) (s : Scene Deck) :
    (do consult call; changePage f) s =
      if s.state.Takes call then
        (.ok (), { s with state := { s.state with page := s.state.page.map f } })
      else (.error (s.state.pageRefusal call), s) := by
  rw [Act.bind_apply, consult_apply]
  cases hf : s.state.faults call with
  | refuse => simp [Takes, pageRefusal, hf]
  | panic => simp [Takes, pageRefusal, hf]
  | pass => cases hp : s.state.page <;> simp [Takes, pageRefusal, changePage_apply, hf, hp]

theorem setPageContent_apply (g : Ref .grid) (s : Scene Deck) :
    setPageContent g s =
      if s.state.Takes .setPageContent then (.ok (), { s with state := s.state.fillPage g })
      else (.error (s.state.pageRefusal .setPageContent), s) := consulted_apply _ _ s

theorem showBar_apply (bar : Option (Ref .bar)) (s : Scene Deck) :
    showBar bar s =
      if bar = none ∨ s.state.Takes .setPageCommandBar then
        (.ok (), { s with state := s.state.attachBar bar })
      else (.error (s.state.pageRefusal .setPageCommandBar), s) := by
  cases bar with
  | none => rfl
  | some b =>
    rw [showBar, setPageBar, consulted_apply]
    simp [attachBar]

/-! Presentation. -/

theorem get_request {α : Type} {f : Presenter → α}
    (hf : ∀ x n, f { x with generation := n } = f x) (d : Deck) (p : Ref .presenter) :
    f ((d.request p).presenters.get p) = f (d.presenters.get p) :=
  Store.apply_get_modify d.presenters p p fun x => hf x _

theorem grid_get_request (d : Deck) (p : Ref .presenter) :
    ((d.request p).presenters.get p).grid = (d.presenters.get p).grid :=
  get_request (fun _ _ => rfl) d p

theorem engine_get_request (d : Deck) (p : Ref .presenter) :
    ((d.request p).presenters.get p).engine = (d.presenters.get p).engine :=
  get_request (fun _ _ => rfl) d p

def nextSwitch (p : Ref .presenter) (d : Deck) : Switch :=
  ⟨p, ((d.request p).presenters.get p).generation⟩

def showContent (p : Ref .presenter) (bar : Option (Ref .bar)) : Do Unit := do
  showBar bar
  setPageContent ((← Act.state).presenters.get p).grid

def showSwitch (engine : Engine) (bar : Option (Ref .bar)) (kind : Int32) (x : Switch) : Do Unit := do
  showBar bar
  runTransition engine kind x

theorem present_apply (p : Ref .presenter) (bar : Option (Ref .bar)) (s : Scene Deck) :
    present p bar s = (do
      Act.runSync (showContent p bar)
      Act.note .screenPresented : Do Unit) { s with state := s.state.request p } := rfl

theorem presentWithTransition_apply (p : Ref .presenter) (bar : Option (Ref .bar)) (kind : Int32)
    (s : Scene Deck) :
    presentWithTransition p bar kind s = (do
      Act.runSync (showSwitch ((s.state.request p).presenters.get p).engine bar kind
        (s.state.nextSwitch p))
      Act.note .transitionStarted : Do Unit) { s with state := s.state.request p } := rfl

/-- If the host takes the bar and then refuses the content, the bar stays. -/
theorem showContent_apply (p : Ref .presenter) (bar : Option (Ref .bar)) (s : Scene Deck) :
    showContent p bar s =
      if bar = none ∨ s.state.Takes .setPageCommandBar then
        if s.state.Takes .setPageContent then
          (.ok (), { s with state := (s.state.attachBar bar).fillPage (s.state.presenters.get p).grid })
        else (.error (s.state.pageRefusal .setPageContent), { s with state := s.state.attachBar bar })
      else (.error (s.state.pageRefusal .setPageCommandBar), s) := by
  rw [showContent, Act.bind_apply, showBar_apply]
  by_cases hb : bar = none ∨ s.state.Takes .setPageCommandBar
  · have hr : (s.state.attachBar bar).pageRefusal .setPageContent =
        s.state.pageRefusal .setPageContent := by simp [pageRefusal]
    simp only [if_pos hb, Act.bind_apply, Act.state_apply, setPageContent_apply, takes_attachBar,
      presenters_attachBar, hr]
  · simp only [if_neg hb]

theorem showScreen_apply (r : Ref .screen) (s : Scene Deck) :
    showScreen r s = (do
      present (s.state.screens.get r).presenter (s.state.visibleBar r)
      Act.note .screenShown : Do Unit) s := by
  rw [showScreen, Act.bind_apply_ok (Act.state_apply s)]

theorem showWithTransition_apply (r : Ref .screen) (kind : Int32) (s : Scene Deck) :
    showWithTransition r kind s = (do
      presentWithTransition (s.state.screens.get r).presenter (s.state.visibleBar r) kind
      Act.note .transitionRequested : Do Unit) s := by
  rw [showWithTransition, Act.bind_apply_ok (Act.state_apply s)]

/-- A presentation that returns has put on the page what it was to put there. -/
theorem present_eq_ok {p : Ref .presenter} {bar : Option (Ref .bar)} {s t : Scene Deck}
    (h : present p bar s = (.ok (), t)) :
    s.state.page.isSome ∧ t.state = s.state.presented p bar := by
  rw [present_apply] at h
  obtain ⟨⟨⟩, u, hu, ht⟩ := Act.bind_eq_ok h
  obtain ⟨-, v, hv, rfl⟩ := Act.runSync_eq_ok hu
  rw [showContent_apply] at hv
  by_cases hb : bar = none ∨ (s.state.request p).Takes .setPageCommandBar
  · by_cases hc : (s.state.request p).Takes .setPageContent
    · simp only [if_pos hb, if_pos hc, grid_get_request] at hv
      cases hv
      cases ht
      exact ⟨hc.2, rfl⟩
    · simp only [if_pos hb, if_neg hc] at hv
      cases hv
  · simp only [if_neg hb] at hv
    cases hv

/-! Switches. -/

def switchContent (x : Switch) : Do Bool := do
  let d ← Act.state
  if d.isCurrent x then
    setPageContent (d.presenters.get x.presenter).grid
    return true
  else return false

/-- A stale switch does not even ask the host. -/
theorem switchContent_apply (x : Switch) (s : Scene Deck) :
    switchContent x s =
      if s.state.isCurrent x then
        if s.state.Takes .setPageContent then
          (.ok true, { s with state := s.state.fillPage (s.state.presenters.get x.presenter).grid })
        else (.error (s.state.pageRefusal .setPageContent), s)
      else (.ok false, s) := by
  rw [switchContent, Act.bind_apply_ok (Act.state_apply s)]
  by_cases hx : s.state.isCurrent x = true
  · by_cases hc : s.state.Takes .setPageContent
    · simp only [if_pos hx, if_pos hc, Act.bind_apply, setPageContent_apply, Act.pure_apply]
    · simp only [if_pos hx, if_neg hc, Act.bind_apply, setPageContent_apply]
  · simp only [if_neg hx, Act.pure_apply]

theorem invoke_apply (x : Switch) (s : Scene Deck) :
    invoke x s = match Act.runSync (switchContent x) s with
      | (.ok true, t) => (.ok true, t)
      | (.ok false, t) => (.ok false, { t with notices := t.notices ++ [.staleSwitch] })
      | (.error e, t) => (.error e, t) := by
  have h : invoke x = (do
      let switched ← Act.runSync (switchContent x)
      unless switched do Act.note .staleSwitch
      return switched) := rfl
  rw [h, Act.bind_apply]
  rcases Act.runSync (switchContent x) s with ⟨_ | _ | _, t⟩ <;> rfl

theorem invoke_fst {s : Scene Deck} (hs : s.context.Serves) (x : Switch) :
    (invoke x s).1 =
      if s.state.isCurrent x then
        if s.state.Takes .setPageContent then .ok true
        else Act.containment (.error (s.state.pageRefusal .setPageContent))
      else .ok false := by
  have hsame : (invoke x s).1 = (Act.runSync (switchContent x) s).1 := by
    rw [invoke_apply]
    rcases Act.runSync (switchContent x) s with ⟨_ | _ | _, t⟩ <;> rfl
  rw [hsame, Act.runSync_fst hs, switchContent_apply]
  dsimp only [Act.within]
  by_cases hx : s.state.isCurrent x = true
  · by_cases hc : s.state.Takes .setPageContent <;> simp [hx, hc, Act.containment]
  · simp [hx, Act.containment]

/-- A switch that is invoked has its effect when it is current, and the work and the call are taken. -/
theorem invoke_state (x : Switch) (s : Scene Deck) :
    (invoke x s).2.state =
      if s.context.Serves ∧ s.state.isCurrent x ∧ s.state.Takes .setPageContent then
        s.state.fillPage (s.state.presenters.get x.presenter).grid
      else s.state := by
  have hsame : (invoke x s).2.state = (Act.runSync (switchContent x) s).2.state := by
    rw [invoke_apply]
    rcases Act.runSync (switchContent x) s with ⟨_ | _ | _, t⟩ <;> rfl
  rw [hsame]
  by_cases hs : s.context.Serves
  · rw [Act.runSync_state hs, switchContent_apply]
    dsimp only [Act.within]
    by_cases hx : s.state.isCurrent x = true
    · by_cases hc : s.state.Takes .setPageContent <;> simp [hs, hx, hc]
    · simp [hx]
  · rw [Act.runSync_apply_of_not_serves _ hs]
    simp [hs]

end ScreenDeck.Deck
