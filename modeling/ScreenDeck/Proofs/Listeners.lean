import ScreenDeck.Proofs.Lines
import ScreenDeck.Proofs.ScreenTrees

/-! The listeners of a deck. Every screen that lives and is not disposed of is connected, and so is
every named subscription that is not released. Nobody else is, however screens end. -/

namespace ScreenDeck

namespace Life

/-- A screen that has ended keeps its line as long as it is dying. -/
def line (dying : Bool) (x : Life) : Line :=
  ⟨!x.disposed && (x.alive || dying), x.subscription.key, x.tracker⟩

structure Leads (x y : Life) : Prop where
  handle : y.handle = x.handle
  tracker : y.tracker = x.tracker
  key : y.subscription.key = x.subscription.key
  disposed : x.disposed = true → y.disposed = true
  alive : y.alive = true → x.alive = true

theorem Leads.refl (x : Life) : x.Leads x := ⟨rfl, rfl, rfl, id, id⟩

theorem Leads.trans {x y z : Life} (h : x.Leads y) (h' : y.Leads z) : x.Leads z where
  handle := h'.handle.trans h.handle
  tracker := h'.tracker.trans h.tracker
  key := h'.key.trans h.key
  disposed := h'.disposed ∘ h.disposed
  alive := h.alive ∘ h'.alive

def buried (x : Life) : Life := { x with alive := false }

def retired (x : Life) : Life := { x with disposed := true, subscription.active := false }

end Life

namespace Deck

variable {d e f : Deck} {dying : List (Ref .screen)} {s : Ref .screen} {x y : Life}

def life? (d : Deck) (s : Ref .screen) : Option Life := (d.screens.get? s).map Screen.life

def line? (dying : List (Ref .screen)) (d : Deck) (s : Ref .screen) : Option Line :=
  (d.life? s).map (Life.line (decide (s ∈ dying)))

def Standalone (d : Deck) (t : Ref .tracker) : Prop :=
  (d.trackers.get? t).isSome ∧ ∀ s x, d.life? s = some x → x.tracker ≠ t

/-- Every screen has a tracker of its own, and no named tracker is one of these. -/
structure Paired (d : Deck) : Prop where
  tracker : ∀ {s x}, d.life? s = some x → d.trackers.get? x.tracker = some ⟨x.handle, x.alive⟩
  apart : ∀ {s r x y}, d.life? s = some x → d.life? r = some y → x.tracker = y.tracker → s = r
  standalone : ∀ {n t}, d.names.trackers.lookup n = some t → d.Standalone t

/-- All connections are accounted for. Some screens may be dying. -/
structure Attended (dying : List (Ref .screen)) (d : Deck) : Prop where
  wired : Wired d.orientation.slots (d.line? dying) d.names.subscriptions d.Standalone
  active : ∀ {s x}, d.life? s = some x → x.subscription.active = !x.disposed
  tracker : ∀ {s x}, d.life? s = some x → d.trackers.get? x.tracker = some ⟨x.handle, x.alive⟩
  apart : ∀ {s r x y}, d.life? s = some x → d.life? r = some y → x.tracker = y.tracker → s = r
  ended : ∀ {s x}, s ∈ dying → d.life? s = some x → x.alive = false
  standalone : ∀ {n t}, d.names.trackers.lookup n = some t → d.Standalone t
  distinct : Names.Distinct d.names.subscriptions

/-! Lives. -/

theorem life?_modifyScreen_self (d : Deck) (s : Ref .screen) {f : Screen → Screen} {g : Life → Life}
    (hf : ∀ x, (f x).life = g x.life) : (d.modifyScreen s f).life? s = (d.life? s).map g := by
  rw [life?, life?, modifyScreen, Store.get?_modify_self, Option.map_map, Option.map_map]
  exact congrArg (Option.map · _) (funext hf)

theorem life?_modifyScreen_ne (d : Deck) {s r : Ref .screen} (f : Screen → Screen) (h : r ≠ s) :
    (d.modifyScreen s f).life? r = d.life? r := by
  rw [life?, life?, modifyScreen, Store.get?_modify_ne _ _ h.symm]

theorem life?_of_get? {x : Screen} (h : d.screens.get? s = some x) : d.life? s = some x.life := by
  rw [life?, h]
  rfl

theorem line?_of_life? (h : d.life? s = some x) :
    d.line? dying s = some (x.line (decide (s ∈ dying))) := by
  rw [line?, h]
  rfl

theorem line?_congr {dying' : List (Ref .screen)} {r : Ref .screen} (hl : e.life? r = d.life? r)
    (hd : r ∈ dying' ↔ r ∈ dying) : e.line? dying' r = d.line? dying r := by
  rw [line?, line?, hl]
  simp only [hd]

theorem Standalone.congr {t : Ref .tracker} (h : d.Standalone t)
    (ht : (d.trackers.get? t).isSome → (e.trackers.get? t).isSome)
    (hl : ∀ {s y}, e.life? s = some y → ∃ x, d.life? s = some x ∧ y.tracker = x.tracker) :
    e.Standalone t := by
  refine ⟨ht h.1, fun s y hy => ?_⟩
  obtain ⟨x, hx, hyx⟩ := hl hy
  rw [hyx]
  exact h.2 s x hx

theorem Attended.paired (h : Attended dying d) : Paired d := ⟨h.tracker, h.apart, h.standalone⟩

/-! Changes of the trackers, and of what is not a matter of listening. -/

theorem Paired.retrack (h : Paired d) (hlives : ∀ s, e.life? s = d.life? s)
    (htracker : ∀ {s x}, d.life? s = some x → e.trackers.get? x.tracker = d.trackers.get? x.tracker)
    (hsome : ∀ {t}, (d.trackers.get? t).isSome → (e.trackers.get? t).isSome)
    (hnamed : ∀ {n t}, e.names.trackers.lookup n = some t →
      d.names.trackers.lookup n = some t ∨ e.Standalone t) : Paired e := by
  have hlife : e.life? = d.life? := funext hlives
  constructor
  · intro s x hx
    rw [hlife] at hx
    rw [htracker hx, h.tracker hx]
  · rw [hlife]
    exact h.apart
  · intro n t ht
    refine (hnamed ht).elim (fun ht => ?_) id
    exact (h.standalone ht).congr hsome fun hy => ⟨_, hlife ▸ hy, rfl⟩

/-- Trackers that stand alone may come and go under their names. -/
theorem Attended.retrack (h : Attended dying d) (hslots : e.orientation.slots = d.orientation.slots)
    (hlives : ∀ s, e.life? s = d.life? s) (hsubs : e.names.subscriptions = d.names.subscriptions)
    (htracker : ∀ {s x}, d.life? s = some x → e.trackers.get? x.tracker = d.trackers.get? x.tracker)
    (hsome : ∀ {t}, (d.trackers.get? t).isSome → (e.trackers.get? t).isSome)
    (hnamed : ∀ {n t}, e.names.trackers.lookup n = some t →
      d.names.trackers.lookup n = some t ∨ e.Standalone t) : Attended dying e := by
  have hlife : e.life? = d.life? := funext hlives
  have hline : e.line? dying = d.line? dying := funext fun r => line?_congr (hlives r) Iff.rfl
  have hpaired := h.paired.retrack hlives htracker hsome hnamed
  constructor
  · rw [hslots, hline, hsubs]
    exact h.wired.alone_mono fun t ht => ht.congr hsome fun hy => ⟨_, hlife ▸ hy, rfl⟩
  · rw [hlife]
    exact h.active
  · exact hpaired.tracker
  · exact hpaired.apart
  · rw [hlife]
    exact h.ended
  · exact hpaired.standalone
  · rw [hsubs]
    exact h.distinct

theorem Attended.aside (h : Attended dying d) (ha : Aside d e) : Attended dying e := by
  refine h.retrack ha.slots ha.lives ha.subscriptions (fun _ => by rw [ha.trackers]) (fun ht => ?_)
    fun ht => ?_
  · rwa [ha.trackers]
  · rw [ha.named] at ht
    exact .inl ht

/-! Changes of one screen. -/

/-- What can be read of the screens when all but one are as they were. -/
theorem life?_cases (hy : e.life? s = some y) (hrest : ∀ r, r ≠ s → e.life? r = d.life? r)
    {r : Ref .screen} {z : Life} (hz : e.life? r = some z) :
    r = s ∧ z = y ∨ r ≠ s ∧ d.life? r = some z := by
  by_cases hr : r = s
  · subst hr
    exact .inl ⟨rfl, Option.some.inj (hz.symm.trans hy)⟩
  · exact .inr ⟨hr, (hrest r hr).symm.trans hz⟩

section Relive

variable (hx : d.life? s = some x) (hy : e.life? s = some y)
  (hrest : ∀ r, r ≠ s → e.life? r = d.life? r) (hlead : x.Leads y)
include hx hy hrest hlead

theorem tracker_of_life? {r : Ref .screen} {z : Life} (hz : e.life? r = some z) :
    ∃ w, d.life? r = some w ∧ z.tracker = w.tracker := by
  obtain ⟨rfl, rfl⟩ | ⟨-, hz⟩ := life?_cases hy hrest hz
  · exact ⟨x, hx, hlead.tracker⟩
  · exact ⟨z, hz, rfl⟩

theorem Paired.relive (h : Paired d) (htracker : e.trackers.get? x.tracker = some ⟨y.handle, y.alive⟩)
    (hothers : ∀ t, t ≠ x.tracker → e.trackers.get? t = d.trackers.get? t)
    (hnames : e.names = d.names) : Paired e := by
  have hold {r z} (hz : e.life? r = some z) := tracker_of_life? hx hy hrest hlead hz
  constructor
  · intro r z hz
    obtain ⟨rfl, rfl⟩ | ⟨hr, hz⟩ := life?_cases hy hrest hz
    · rw [hlead.tracker, htracker]
    · have hne : z.tracker ≠ x.tracker := fun he => hr (h.apart hz hx he)
      rw [hothers _ hne, h.tracker hz]
  · intro r q z w hz hw he
    obtain ⟨z', hz', hzz⟩ := hold hz
    obtain ⟨w', hw', hww⟩ := hold hw
    exact h.apart hz' hw' (hzz.symm.trans (he.trans hww))
  · intro n t ht
    rw [hnames] at ht
    have halone := h.standalone ht
    refine halone.congr (fun hsome => ?_) hold
    rwa [hothers t (halone.2 s x hx).symm]

end Relive

/-- One screen moves on, with its line and its tracker. All others stay as they are. -/
theorem Attended.relive {dying' : List (Ref .screen)} (h : Attended dying d)
    (hwired : Wired e.orientation.slots (e.line? dying') d.names.subscriptions d.Standalone)
    (hx : d.life? s = some x) (hy : e.life? s = some y) (hrest : ∀ r, r ≠ s → e.life? r = d.life? r)
    (hlead : x.Leads y) (hactive : y.subscription.active = !y.disposed)
    (htracker : e.trackers.get? x.tracker = some ⟨y.handle, y.alive⟩)
    (hothers : ∀ t, t ≠ x.tracker → e.trackers.get? t = d.trackers.get? t)
    (hdying : ∀ r, r ∈ dying' → r = s ∧ y.alive = false ∨ r ∈ dying)
    (hnames : e.names = d.names) : Attended dying' e := by
  have hback {r z} (hz : e.life? r = some z) := life?_cases hy hrest hz
  have hpaired := h.paired.relive hx hy hrest hlead htracker hothers hnames
  constructor
  · rw [hnames]
    refine hwired.alone_mono fun t ht => ht.congr (fun hsome => ?_)
      (tracker_of_life? hx hy hrest hlead)
    rwa [hothers t (ht.2 s x hx).symm]
  · intro r z hz
    obtain ⟨rfl, rfl⟩ | ⟨-, hz⟩ := hback hz
    · exact hactive
    · exact h.active hz
  · exact hpaired.tracker
  · exact hpaired.apart
  · intro r z hr hz
    obtain ⟨rfl, rfl⟩ | ⟨hne, hz⟩ := hback hz
    · rcases hdying r hr with ⟨-, ha⟩ | hr
      · exact ha
      · cases ha : z.alive with
        | false => rfl
        | true => exact (hlead.alive ha).symm.trans (h.ended hr hx)
    · rcases hdying r hr with ⟨he, -⟩ | hr
      · exact absurd he hne
      · exact h.ended hr hz
  · exact hpaired.standalone
  · rw [hnames]
    exact h.distinct

theorem release_of_active {x : Subscription} (h : x.active = true) (d : Deck) :
    (d.release x).2 = { d with orientation.slots := (d.orientation.slots.remove x.key).2 } := by
  simp [release, Signal.disconnect, h]

theorem release_of_inactive {x : Subscription} (h : x.active = false) (d : Deck) :
    (d.release x).2 = d := by
  simp [release, h]

theorem life?_bury_self (h : d.life? s = some x) : (d.bury s).life? s = some x.buried := by
  have hmodify := life?_modifyScreen_self d s (f := fun x => { x with alive := false })
    (g := Life.buried) fun _ => rfl
  rw [h] at hmodify
  exact hmodify

theorem life?_bury_ne {r : Ref .screen} (h : r ≠ s) : (d.bury s).life? r = d.life? r :=
  life?_modifyScreen_ne d _ h

/-- The screen ends, and its line stays as it was until it lets go. -/
theorem Attended.bury (h : Attended dying d) (hs : (d.screens.get s).alive = true) :
    Attended (s :: dying) (d.bury s) := by
  have hx : d.life? s = some (d.screens.get s).life := life?_of_get? (get?_of_alive hs)
  have hy : (d.bury s).life? s = some (d.screens.get s).life.buried := life?_bury_self hx
  have hline : (d.bury s).line? (s :: dying) = d.line? dying := by
    funext r
    by_cases hr : r = s
    · subst hr
      have halive : (d.screens.get r).life.alive = true := hs
      rw [line?_of_life? hx, line?_of_life? hy]
      simp [Life.line, Life.buried, halive]
    · exact line?_congr (life?_bury_ne hr) (by simp [hr])
  have hactive := h.active hx
  refine h.relive ?_ hx hy (fun _ => life?_bury_ne) ⟨rfl, rfl, rfl, id, nofun⟩ hactive ?_ (fun t ht => ?_)
    (fun r hr => ?_) rfl
  · rw [hline]
    exact h.wired
  · have htracker : (d.bury s).trackers.get? (d.screens.get s).tracker =
        (d.trackers.get? (d.screens.get s).tracker).map fun x => { x with alive := false } :=
      Store.get?_modify_self _ _ _
    have hthere := h.tracker hx
    exact htracker.trans (congrArg (Option.map _) hthere)
  · exact Store.get?_modify_ne _ _ (Ne.symm ht)
  · rcases List.mem_cons.mp hr with rfl | hr
    · exact .inl ⟨rfl, rfl⟩
    · exact .inr hr

/-- A screen that has ended gives up its connection, and with that it is no longer dying. -/
theorem Attended.letGoLine (h : Attended (s :: dying) d) (hx : d.life? s = some x)
    (halive : x.alive = false) (hs : s ∉ dying) :
    Attended dying (d.release x.subscription).2 := by
  have hline (r : Ref .screen) (hr : r ≠ s) : d.line? dying r = d.line? (s :: dying) r :=
    line?_congr rfl (by simp [hr])
  have hdying (r : Ref .screen) (hr : r ∈ dying) : r = s ∧ x.alive = false ∨ r ∈ s :: dying :=
    .inr (List.mem_cons_of_mem _ hr)
  have hactive := h.active hx
  have htracker : d.trackers.get? x.tracker = some ⟨x.handle, x.alive⟩ := h.tracker hx
  have hclosed : d.line? dying s = some ⟨false, x.subscription.key, x.tracker⟩ := by
    simp [line?_of_life? hx, Life.line, halive, hs]
  have hbefore : d.line? (s :: dying) s = some ⟨!x.disposed, x.subscription.key, x.tracker⟩ := by
    simp [line?_of_life? hx, Life.line]
  cases hd : x.disposed with
  | true =>
    have hsame : d.line? dying = d.line? (s :: dying) := by
      funext r
      by_cases hr : r = s
      · rw [hr, hclosed, hbefore, hd]
        rfl
      · exact hline r hr
    rw [release_of_inactive (by rw [hactive, hd]; rfl)]
    exact h.relive (hsame ▸ h.wired) hx hx (fun _ _ => rfl) (.refl x) hactive htracker
      (fun _ _ => rfl) hdying rfl
  | false =>
    rw [hd] at hbefore
    rw [release_of_active (by rw [hactive, hd]; rfl)]
    have hwired := h.wired.close hbefore rfl hclosed hline
    exact h.relive hwired hx hx (fun _ _ => rfl) (.refl x) hactive htracker (fun _ _ => rfl) hdying rfl

theorem life?_release (o : Subscription) (d : Deck) : (d.release o).2.life? = d.life? := by
  funext r
  rw [life?, life?, release_eq]

theorem life?_retire_self (h : d.life? s = some x) : (d.retire s).life? s = some x.retired := by
  rw [Deck.retire, life?_modifyScreen_self _ s (g := Life.retired) fun _ => rfl, life?_release, h]
  rfl

theorem life?_retire_ne {r : Ref .screen} (h : r ≠ s) : (d.retire s).life? r = d.life? r := by
  rw [Deck.retire, life?_modifyScreen_ne _ _ h, life?_release]

theorem get?_of_not_disposed (h : (d.screens.get s).disposed = false) :
    d.screens.get? s = some (d.screens.get s) := by
  cases hg : d.screens.get? s with
  | none => simp [Store.get, hg, default] at h
  | some x => rw [Store.get_of_get? hg]

/-- The line of the screen is closed. It had gone before if the screen had ended. -/
theorem Attended.wired_retire (h : Attended [] d) (hx : d.life? s = some x) (hd : x.disposed = false) :
    Wired (d.orientation.slots.remove x.subscription.key).2 ((d.retire s).line? [])
      d.names.subscriptions d.Standalone := by
  have hbefore : d.line? [] s = some ⟨x.alive, x.subscription.key, x.tracker⟩ := by
    simp [line?_of_life? hx, Life.line, hd]
  have hclosed : (d.retire s).line? [] s = some ⟨false, x.subscription.key, x.tracker⟩ := by
    simp [line?_of_life? (life?_retire_self hx), Life.line, Life.retired]
  have hline (r : Ref .screen) (hr : r ≠ s) : (d.retire s).line? [] r = d.line? [] r :=
    line?_congr (life?_retire_ne hr) Iff.rfl
  cases ha : x.alive with
  | true =>
    rw [ha] at hbefore
    exact h.wired.close hbefore rfl hclosed hline
  | false =>
    rw [ha] at hbefore
    have hspent : d.orientation.slots.Spent x.subscription.key := by
      simpa [Line.Stands] using h.wired.stands hbefore
    have hsame : (d.retire s).line? [] = d.line? [] := by
      funext r
      by_cases hr : r = s
      · rw [hr, hclosed, hbefore]
      · exact hline r hr
    rw [Slots.remove_of_get?_none hspent.get?, hsame]
    exact h.wired

/-- Disposing closes the line of this screen and no other. -/
theorem Attended.retire (h : Attended [] d) (hs : (d.screens.get s).disposed = false) :
    Attended [] (d.retire s) := by
  have hx : d.life? s = some (d.screens.get s).life := life?_of_get? (get?_of_not_disposed hs)
  generalize hlife : (d.screens.get s).life = x at hx
  have hsub : (d.screens.get s).subscription = x.subscription := congrArg Life.subscription hlife
  have hd : x.disposed = false := (congrArg Life.disposed hlife).symm.trans hs
  have hactive : x.subscription.active = true := by rw [h.active hx, hd]; rfl
  have hslots : (d.retire s).orientation.slots = (d.orientation.slots.remove x.subscription.key).2 := by
    rw [Deck.retire, hsub, release_of_active hactive]
    rfl
  have htrackers : (d.retire s).trackers = d.trackers := by rw [Deck.retire, release_eq]; rfl
  have hnames : (d.retire s).names = d.names := by rw [Deck.retire, release_eq]; rfl
  have hwired := h.wired_retire hx hd
  rw [← hslots] at hwired
  refine h.relive hwired hx (life?_retire_self hx) (fun _ => life?_retire_ne)
    ⟨rfl, rfl, rfl, fun _ => rfl, id⟩ rfl ?_ (fun t _ => ?_) (fun _ hr => absurd hr List.not_mem_nil)
    hnames
  · rw [htrackers]
    exact h.tracker hx
  · rw [htrackers]

/-! Screens are let go. -/

def Fades (d e : Deck) : Prop :=
  ∀ s x, d.life? s = some x → ∃ y, e.life? s = some y ∧ (y = x ∨ x.alive = true ∧ y = x.buried)

namespace Fades

theorem of_screens (h : e.screens = d.screens) : Fades d e := fun s x hx =>
  ⟨x, by rwa [life?, h], .inl rfl⟩

theorem trans (h : Fades d e) (h' : Fades e f) : Fades d f := by
  intro s x hx
  obtain ⟨y, hy, hyx⟩ := h s x hx
  obtain ⟨z, hz, hzy⟩ := h' s y hy
  refine ⟨z, hz, ?_⟩
  rcases hyx with rfl | ⟨ha, rfl⟩
  · exact hzy
  · rcases hzy with rfl | ⟨hburied, -⟩
    · exact .inr ⟨ha, rfl⟩
    · cases hburied

theorem bury (hs : (d.screens.get s).alive = true) : Fades d (d.bury s) := by
  intro r x hx
  by_cases hr : r = s
  · subst hr
    have hlife : x = (d.screens.get r).life :=
      Option.some.inj (hx.symm.trans (life?_of_get? (get?_of_alive hs)))
    exact ⟨x.buried, life?_bury_self hx, .inr ⟨by rw [hlife]; exact hs, rfl⟩⟩
  · exact ⟨x, (life?_bury_ne hr).trans hx, .inl rfl⟩

theorem release (x : Subscription) : Fades d (d.release x).2 := by
  rw [release_eq]
  exact of_screens rfl

theorem leads (h : Fades d e) (hx : d.life? s = some x) : ∃ y, e.life? s = some y ∧ x.Leads y := by
  obtain ⟨y, hy, rfl | ⟨-, rfl⟩⟩ := h s x hx
  · exact ⟨y, hy, .refl y⟩
  · exact ⟨x.buried, hy, rfl, rfl, rfl, id, nofun⟩

end Fades

/-- Screens were let go, and every line that was to go is closed. -/
structure LetsGo (d e : Deck) : Prop where
  fades : Fades d e
  attended : ∀ {dying}, Attended dying d → Attended dying e

namespace LetsGo

theorem refl (d : Deck) : LetsGo d d := ⟨.of_screens rfl, id⟩

theorem trans (h : LetsGo d e) (h' : LetsGo e f) : LetsGo d f :=
  ⟨h.fades.trans h'.fades, h'.attended ∘ h.attended⟩

theorem letGoWith {one : Ref .screen → List Child → Deck → Deck}
    (ho : ∀ s pending d, LetsGo d (one s pending d)) (cs pending : List Child) (d : Deck) :
    LetsGo d (letGoWith one cs pending d) := by
  induction cs generalizing d with
  | nil => exact .refl d
  | cons c cs ih =>
    cases c with
    | widget w => exact ih d
    | screen s => exact (ho s _ d).trans (ih _)

/-- A screen is dying while it lets go of its children. -/
theorem dies {g : Deck → Deck} (hg : ∀ d, LetsGo d (g d)) (hs : (d.screens.get s).alive = true) :
    LetsGo d ((g (d.bury s)).release (d.screens.get s).subscription).2 where
  fades := ((Fades.bury hs).trans (hg _).fades).trans (.release _)
  attended {dying} h := by
    have hx : d.life? s = some (d.screens.get s).life := life?_of_get? (get?_of_alive hs)
    have hnot : s ∉ dying := by
      intro hm
      have hburied : (d.screens.get s).alive = false := h.ended hm hx
      rw [hs] at hburied
      cases hburied
    have hgone := (hg (d.bury s)).attended (h.bury hs)
    obtain ⟨y, hy, rfl | ⟨hburied, -⟩⟩ := (hg (d.bury s)).fades s _ (life?_bury_self hx)
    · exact hgone.letGoLine hy rfl hnot
    · cases hburied

theorem letGoScreen (depth : Nat) (s : Ref .screen) (pending : List Child) (d : Deck) :
    LetsGo d (letGoScreen depth s pending d) := by
  induction depth generalizing s pending d with
  | zero => exact .refl d
  | succ depth ih =>
    rw [Deck.letGoScreen]
    split
    next ho =>
      have halive : (d.screens.get s).alive = true := by
        simp only [isOrphan, Bool.and_eq_true] at ho
        exact ho.1.1
      exact dies (letGoWith ih _ _) halive
    next => exact .refl d

theorem letGo (cs : List Child) (d : Deck) : LetsGo d (d.letGo cs) :=
  letGoWith (letGoScreen _) cs [] d

end LetsGo

end Deck
end ScreenDeck
