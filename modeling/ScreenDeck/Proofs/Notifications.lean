import ScreenDeck.Proofs.Attendance
import ScreenDeck.Proofs.PageBars
import ScreenDeck.Proofs.Reactions

/-! Notifications. A frame tells all who listen, and each screen that listens reports once, whatever
the order and whatever comes of the others. -/

namespace ScreenDeck

namespace Deck

open ScreenDeck.Action (Place Fits)

variable {d e : Deck} {device : DeviceOrientation} {handles : List Handle} {r : Ref .screen}

def screenHandles (d : Deck) : List Handle := d.listening.map fun s => (d.screens.get s).handle

theorem Attended.hearers_screens (h : Attended [] d) :
    d.hearers (d.listening.map fun s => Listener.tracker (d.screens.get s).tracker) =
      d.screenHandles := by
  rw [hearers, List.filterMap_map, screenHandles, ← List.filterMap_eq_map]
  refine List.filterMap_congr fun s hs => ?_
  obtain ⟨x, hx, halive, -⟩ := mem_listening.mp hs
  have ht : d.trackers.get? x.tracker = some ⟨x.handle, x.alive⟩ := h.tracker (life?_of_get? hx)
  simp [hearer?, Store.get_of_get? hx, Store.get_of_get? ht, halive]

theorem Attended.hearers_perm (h : Attended [] d) : (d.hearers d.orientation.slots.values).Perm
    (d.screenHandles ++ d.hearers d.attachedListeners) := by
  have hperm : (d.hearers d.orientation.slots.values).Perm
      (d.hearers (d.listening.map (fun s => Listener.tracker (d.screens.get s).tracker) ++
        d.attachedListeners)) := h.values_perm.filterMap d.hearer?
  rwa [hearers, hearers, List.filterMap_append, ← hearers, ← hearers, ← hearers,
    h.hearers_screens] at hperm

theorem shownGrid_told (device : DeviceOrientation) (handles : List Handle) (d : Deck) :
    (d.told device handles).shownGrid = d.shownGrid ∧
      (d.told device handles).attachedBar = d.attachedBar := by
  have hreflow (page : Page) : (reflow device d.contentSize page).content = page.content ∧
      (reflow device d.contentSize page).bar = page.bar := by
    unfold reflow
    cases device.group <;> exact ⟨rfl, rfl⟩
  unfold told shownGrid attachedBar
  cases d.page with
  | none => simp
  | some page => by_cases hn : handles = [] <;> simp [hn, hreflow page]

/-- What becomes of a deck when trackers with these handles react. Records reach whoever receives them, the
page is laid out anew if the orientation is recognised, and nothing else happens. -/
structure Reacted (device : DeviceOrientation) (handles : List Handle) (d e : Deck) : Prop where
  posted : ∃ new, Reported device.reported handles new ∧ e.outbox = d.outbox.map (· ++ new)
  resized : ∀ {size}, handles ≠ [] → device.laidOut d.contentSize = some size →
    e.page.map (·.size) = d.page.map fun _ => size
  untouched : handles = [] ∨ ¬ device.Recognised → e.page = d.page
  content : e.shownGrid = d.shownGrid
  bar : e.attachedBar = d.attachedBar
  others : e = { d with page := e.page, outbox := e.outbox }

/-- What trackers compute and encode is what the table of codes and the sizes say. -/
theorem reacted_told (device : DeviceOrientation) (handles : List Handle) (d : Deck) :
    Reacted device handles d (d.told device handles) where
  posted := ⟨_, reported_reports device handles, rfl⟩
  resized {size} hn hsize := by
    rw [← DeviceOrientation.map_group_pageSize, Option.map_eq_some_iff] at hsize
    obtain ⟨group, hg, rfl⟩ := hsize
    simp [told, reflow, hn, hg, Function.comp_def]
  untouched h := by
    by_cases hn : handles = []
    · simp [told, hn]
    · have hg : device.group = none := by
        rw [← Option.not_isSome_iff_eq_none, DeviceOrientation.isSome_group_iff]
        exact h.resolve_left hn
      have hsame : reflow device d.contentSize = id := funext fun page => by simp [reflow, hg]
      simp [told, hn, hsame]
  content := (shownGrid_told device handles d).1
  bar := (shownGrid_told device handles d).2
  others := rfl

/-- No tracker that reacts is silent. -/
theorem outbox_told_eq_iff {posted : List Posted} (ho : d.outbox = some posted) :
    (d.told device handles).outbox = some posted ↔ handles = [] := by
  obtain ⟨new, hreported, hnew⟩ := (reacted_told device handles d).posted
  rw [hnew, ho, Option.map_some, Option.some.injEq, List.append_right_eq_self,
    ← List.length_eq_zero_iff, ← List.length_eq_zero_iff, hreported.length_eq]
  omega

/-- Whoever is not told does not hear, and all others hear once. -/
theorem Attended.notifyOrientation (device : DeviceOrientation) {s : Scene Deck} {place : Place}
    (h : Attended [] s.state) (hc : Fits s.context place) (hp : place ≠ .helper)
    (hf : s.state.LetsReflow) (hb : s.state.orientation.blocked = false) :
    (notifyOrientation device s).1 = .ok () ∧ ∃ order : List Handle,
      order.Perm (s.state.screenHandles ++ s.state.hearers s.state.attachedListeners) ∧
        (notifyOrientation device s).2.state =
          if Silent device s then s.state else s.state.told device order := by
  have haudience : s.state.orientation.audience = s.state.orientation.slots.values := by
    simp [Signal.audience, hb]
  have htrackers : ∀ l ∈ s.state.orientation.audience, ∃ t, l = .tracker t := by
    rw [haudience]
    exact fun l => h.tracker_of_mem
  obtain ⟨hok, hstate⟩ := notifyOrientation_told hc hp device hf htrackers
  rw [haudience] at hstate
  exact ⟨hok, _, h.hearers_perm, hstate⟩

/-! Who keeps listening. -/

theorem mem_listening_iff_life : r ∈ d.listening ↔
    ∃ x, d.life? r = some x ∧ x.alive = true ∧ x.disposed = false := by
  rw [mem_listening]
  constructor
  · rintro ⟨x, hx, hlistens⟩
    exact ⟨x.life, life?_of_get? hx, hlistens⟩
  · rintro ⟨x, hx, hlistens⟩
    obtain ⟨y, hy, rfl⟩ := Option.map_eq_some_iff.mp hx
    exact ⟨y, hy, hlistens⟩

def Connected (d : Deck) (x : Screen) : Prop :=
  d.orientation.slots.get? x.subscription.key = some (.tracker x.tracker)

def Disconnected (d : Deck) (o : Subscription) : Prop := d.orientation.slots.get? o.key = none

/-- The line of a screen that does not listen is closed, so its key is spent. -/
theorem Attended.disconnected (h : Attended [] d) {x : Screen} (hx : d.screens.get? r = some x)
    (hr : r ∉ d.listening) : d.Disconnected x.subscription := by
  have hopen : (x.life.line false).isOpen = false := by
    cases hl : x.alive && !x.disposed with
    | false => simpa [Life.line, Screen.life, Bool.and_comm] using hl
    | true =>
      simp only [Bool.and_eq_true, Bool.not_eq_true'] at hl
      exact absurd (mem_listening.mpr ⟨x, hx, hl⟩) hr
  have hstands := h.wired.stands (line?_of_life? (life?_of_get? hx))
  have hspent : d.orientation.slots.Spent (x.life.line false).key := by
    simpa [Line.Stands, hopen] using hstands
  exact hspent.get?

theorem Attended.connected_iff (h : Attended [] d) {x : Screen} (hx : d.screens.get? r = some x) :
    d.Connected x ↔ r ∈ d.listening := by
  constructor
  · intro hconnected
    by_contra hnot
    have hnone : d.orientation.slots.get? x.subscription.key = none := h.disconnected hx hnot
    exact absurd (hconnected.symm.trans hnone) (Option.some_ne_none _)
  · intro hr
    have hget := h.get?_of_listening hr
    rwa [Store.get_of_get? hx] at hget

/-- If the screen was connected, it is connected as it was. -/
def KeepsListener (r : Ref .screen) (d e : Deck) : Prop :=
  ∀ x, d.screens.get? r = some x → d.Connected x → e.Connected x

theorem Attends.keepsListener (h : Attends d e) (hd : Attended [] d)
    (hr : r ∈ d.listening → r ∈ e.listening) : KeepsListener r d e := by
  intro x hx hconnected
  obtain ⟨y, hy, hxy⟩ := h.leads r x.life (life?_of_get? hx)
  obtain ⟨z, hz, rfl⟩ := Option.map_eq_some_iff.mp hy
  have hlistens := hr ((hd.connected_iff hx).mp hconnected)
  have hkept : e.Connected z := ((h.attended hd).connected_iff hz).mpr hlistens
  have hkey : z.subscription.key = x.subscription.key := hxy.key
  have htracker : z.tracker = x.tracker := hxy.tracker
  rwa [Connected, hkey, htracker] at hkept

theorem Attends.keepsListener_of_screens (h : Attends d e) (hd : Attended [] d)
    (hs : e.screens = d.screens) : KeepsListener r d e := by
  have hlistening : e.listening = d.listening := by rw [listening, listening, hs]
  exact h.keepsListener hd fun hr => hlistening ▸ hr

/-- A screen that does not listen afterwards has no connection left, whatever has been done. -/
theorem Attends.disconnected (h : Attends d e) (hd : Attended [] d) {x : Screen}
    (hx : d.screens.get? r = some x) (hr : r ∉ e.listening) : e.Disconnected x.subscription := by
  obtain ⟨y, hy, hxy⟩ := h.leads r x.life (life?_of_get? hx)
  obtain ⟨z, hz, rfl⟩ := Option.map_eq_some_iff.mp hy
  have hkey : z.subscription.key = x.subscription.key := hxy.key
  have hnone := (h.attended hd).disconnected hz hr
  rwa [Disconnected, hkey] at hnone

/-- An active subscription that is released finds its slot taken, and leaves it free. -/
theorem Attended.disconnected_release (h : Attended [] d) {name : String} {o : Subscription}
    (ho : d.names.subscriptions.lookup name = some o) (ha : o.active = true) :
    (d.release o).2.Disconnected o := by
  obtain ⟨t, ht, -⟩ := h.wired.attached ho ha
  rw [release_of_active ha]
  exact (Slots.spent_remove (by rw [ht]; rfl)).get?

theorem dispose_state (q : Ref .screen) (s : Scene Deck) : (dispose q s).2.state =
    if (s.state.screens.get q).disposed then s.state else s.state.retire q := by
  rw [dispose, Act.bind_apply_ok (Act.state_apply s)]
  cases hd : (s.state.screens.get q).disposed <;> rfl

/-- All listeners of a deck are accounted for, whatever is done with it next. -/
structure Accounted (d : Deck) : Prop where
  count : d.orientation.count = d.listening.length + d.subscribed.length
  connected : ∀ {r x}, d.screens.get? r = some x → (d.Connected x ↔ r ∈ d.listening)
  disconnected : ∀ {r x}, d.screens.get? r = some x → r ∉ d.listening → d.Disconnected x.subscription
  /-- Whoever disposes, releases or drops gives up the connection that is concerned. -/
  disposed : ∀ {s : Scene Deck} {q x}, s.state = d → d.screens.get? q = some x →
    (dispose q s).2.state.Disconnected x.subscription
  released : ∀ {name o}, d.names.subscriptions.lookup name = some o → o.active = true →
    (releaseNamed name o d).2.Disconnected o
  unsubscribed : ∀ {name o}, d.names.subscriptions.lookup name = some o → o.active = true →
    (d.dropSubscription name).2.Disconnected o
  dropped : ∀ {r name x}, d.screens.get? r = some x →
    ((d.dropScreen name).2.screens.get r).alive = false →
    (d.dropScreen name).2.Disconnected x.subscription
  disposing : ∀ {s : Scene Deck} {q r}, s.state = d → r ≠ q → KeepsListener r d (dispose q s).2.state
  releasing : ∀ r {name o}, d.names.subscriptions.lookup name = some o →
    KeepsListener r d (releaseNamed name o d).2
  unsubscribing : ∀ r name, KeepsListener r d (d.dropSubscription name).2
  untracking : ∀ r name, KeepsListener r d (d.dropTracker name).2
  dropping : ∀ {r name}, ((d.dropScreen name).2.screens.get r).alive = true →
    KeepsListener r d (d.dropScreen name).2
  /-- Those who are disposed of or have ended are never told again, and all others are. -/
  telling : ∀ {s : Scene Deck} {place} device, s.state = d → Fits s.context place → place ≠ .helper →
    d.LetsReflow → d.orientation.blocked = false → (notifyOrientation device s).1 = .ok () ∧
      ∃ order : List Handle, order.Perm (d.screenHandles ++ d.hearers d.attachedListeners) ∧
        (notifyOrientation device s).2.state = if Silent device s then d else d.told device order
  reacting : ∀ device handles, Reacted device handles d (d.told device handles)

theorem Fades.alive_of (h : Fades d e) {x : Life} (hx : d.life? r = some x)
    (halive : (e.screens.get r).alive = true) : e.life? r = some x := by
  have hy : e.life? r = some (e.screens.get r).life := life?_of_get? (get?_of_alive halive)
  obtain ⟨y, hy', rfl | ⟨-, rfl⟩⟩ := h r x hx
  · exact hy'
  · have hburied : x.buried = (e.screens.get r).life := Option.some.inj (hy'.symm.trans hy)
    have hended : false = (e.screens.get r).alive := congrArg Life.alive hburied
    exact absurd (hended.trans halive) nofun

theorem fades_dropScreen (name : String) (d : Deck) : Fades d (d.dropScreen name).2 := by
  unfold dropScreen
  cases d.names.screens.lookup name with
  | none => exact .of_screens rfl
  | some s =>
    have hnamed : Fades d { d with names.screens := Names.unbind d.names.screens name } :=
      .of_screens rfl
    exact hnamed.trans (LetsGo.letGo [.screen s] _).fades

/-- Disposing once more changes nothing, and the screen does not listen either way. -/
theorem not_listening_dispose (q : Ref .screen) (s : Scene Deck) :
    q ∉ (dispose q s).2.state.listening := by
  intro hq
  obtain ⟨x, hx, -, hopen⟩ := mem_listening_iff_life.mp hq
  rw [dispose_state] at hx
  split at hx
  next hd =>
    obtain ⟨y, hy, rfl⟩ := Option.map_eq_some_iff.mp hx
    rw [Store.get_of_get? hy] at hd
    exact absurd (hopen.symm.trans hd) nofun
  next hd =>
    have hy := life?_of_get? (get?_of_not_disposed (by simpa using hd))
    obtain rfl := Option.some.inj (hx.symm.trans (life?_retire_self hy))
    cases hopen

theorem attends_dispose (q : Ref .screen) (s : Scene Deck) : Attends s.state (dispose q s).2.state := by
  rw [dispose_state]
  split
  · exact .refl _
  next hd => exact .retire (by simpa using hd)

theorem Attended.accounted (h : Attended [] d) : d.Accounted where
  count := h.count_eq
  connected := h.connected_iff
  disconnected := h.disconnected
  disposed {s q x} hs hx := by
    subst hs
    exact (attends_dispose q s).disconnected h hx (not_listening_dispose q s)
  released {name o} ho ha := h.disconnected_release ho ha
  unsubscribed {name o} ho ha := by
    have hreleased : (d.release o).2.Disconnected o := h.disconnected_release ho ha
    have hslots : (d.dropSubscription name).2.orientation = (d.release o).2.orientation := by
      simp only [Deck.dropSubscription, ho, release_of_active ha]
    rwa [Disconnected, hslots]
  dropped {r name x} hx hended := by
    refine (spans_dropScreen name d : Attends d _).disconnected h hx fun hr => ?_
    obtain ⟨y, hy, halive, -⟩ := mem_listening.mp hr
    rw [Store.get_of_get? hy] at hended
    exact absurd (halive.symm.trans hended) nofun
  disposing {s q r} hs hr := by
    subst hs
    refine (attends_dispose q s).keepsListener h fun hlistens => ?_
    rw [dispose_state]
    split
    · exact hlistens
    · rw [mem_listening_iff_life, life?_retire_ne hr]
      exact mem_listening_iff_life.mp hlistens
  releasing r name o ho :=
    (Attends.releaseNamed ho).keepsListener_of_screens h (screens_releaseNamed name o d)
  unsubscribing r name :=
    (Attends.dropSubscription name d).keepsListener_of_screens h (screens_dropSubscription name d)
  untracking r name :=
    (Attends.dropTracker name d).keepsListener_of_screens h (screens_dropTracker name d)
  dropping {r name} halive := by
    refine (spans_dropScreen name d : Attends d _).keepsListener h fun hlistens => ?_
    obtain ⟨x, hx, hlives⟩ := mem_listening_iff_life.mp hlistens
    exact mem_listening_iff_life.mpr ⟨x, (fades_dropScreen name d).alive_of hx halive, hlives⟩
  telling {s place} device hs hc hp hf hb := by
    subst hs
    exact h.notifyOrientation device hc hp hf hb
  reacting device handles := reacted_told device handles d

end Deck

namespace Session

open Deck
open ScreenDeck.Action (Place Fits)

variable {setup : Setup} {start : Scene Deck}

/-- In every session as many listeners are connected as screens live that are not disposed of, and
named subscriptions that are not released. As long as a screen is among them, it stays connected as
it was, and once it is not, it never is again. -/
theorem listeners_accounted (h : setup.start = .ok start) (pre post : List (Via × Step)) :
    let s := (observeAll pre start).2
    let t := (observeAll post s).2
    s.state.Accounted ∧
      (∀ r, r ∈ t.state.listening → KeepsListener r s.state t.state) ∧
      (∀ r x, s.state.screens.get? r = some x → r ∉ s.state.listening →
        r ∉ t.state.listening ∧ t.state.Disconnected x.subscription) := by
  intro s t
  have hs : Attended [] s.state := attended_observeAll h pre
  have hst : Attends s.state t.state := attends_observeAll post s
  refine ⟨hs.accounted, fun r hr => hst.keepsListener hs fun _ => hr, fun r x hx hnot => ?_⟩
  have hlast : r ∉ t.state.listening := by
    intro hr
    obtain ⟨y, hy, hxy⟩ := hst.leads r x.life (life?_of_get? hx)
    obtain ⟨z, hz, halive, hdisposed⟩ := mem_listening_iff_life.mp hr
    obtain rfl : y = z := Option.some.inj (hy.symm.trans hz)
    refine hnot (mem_listening_iff_life.mpr ⟨x.life, life?_of_get? hx, hxy.alive halive, ?_⟩)
    cases hd : x.life.disposed with
    | false => rfl
    | true => exact (hxy.disposed hd).symm.trans hdisposed
  exact ⟨hlast, hst.disconnected hs hx hlast⟩

/-- A tracker listens beside two screens. The connection of the first screen is given up, and its slot goes to
the third one. -/
def twiceDisposed : List (Via × Step) :=
  [.openScreen "a" ⟨1⟩, .openScreen "b" ⟨2⟩, .tracker "t" ⟨4⟩, .trackerAttach "t" "w",
    .onScreen "a" .dispose, .openScreen "c" ⟨3⟩, .onScreen "a" .dispose].map (Via.direct, ·)

def givenUp : List (Via × Step) :=
  [.subscriptionRelease "w", .dropScreen "a", .dropScreen "b"].map (Via.direct, ·)

theorem reused_slot_accounted :
    let s := (observeAll twiceDisposed newSession).2
    let t := (observeAll givenUp s).2
    let o : Subscription := ⟨⟨2, 0⟩, true⟩
    Setup.start {} = .ok newSession ∧ s.state.Accounted ∧ s.state.orientation.count = 3 ∧
      s.state.orientation.slots.get? o.key = some (.tracker ⟨2⟩) ∧
      (releaseNamed "w" o s.state).2.Disconnected o ∧ (s.state.dropSubscription "w").2.Disconnected o ∧
      KeepsListener ⟨2⟩ s.state t.state ∧ ⟨0⟩ ∉ t.state.listening ∧ t.state.orientation.count = 1 := by
  intro s t o
  obtain ⟨haccounted, hkeeps, hlast⟩ := listeners_accounted start_newSession twiceDisposed givenUp
  have hthird : ⟨2⟩ ∈ t.state.listening := by decide
  have hfirst : ⟨0⟩ ∉ s.state.listening := by decide
  have hthere : (s.state.screens.get? ⟨0⟩).isSome := by decide
  have hnamed : s.state.names.subscriptions.lookup "w" = some o := rfl
  obtain ⟨x, hx⟩ := Option.isSome_iff_exists.mp hthere
  exact ⟨start_newSession, haccounted, rfl, rfl, haccounted.released hnamed rfl,
    haccounted.unsubscribed hnamed rfl, hkeeps ⟨2⟩ hthird, (hlast ⟨0⟩ x hx hfirst).1, rfl⟩

/-- A notification posts nothing, or the two records of each screen that listens one after the other,
and each screen reports as often as it is there. Both records carry the code of the orientation, and the
second one the handle of the screen. The notification may be made anywhere but where it would wait for work
that waits for it. -/
theorem notification_in_pairs {s : Scene Deck} {steps : List (Via × Step)} {place : Place}
    {posted : List Posted} (h : setup.start = .ok start)
    (hs : s.state = (observeAll steps start).2.state) (hc : Fits s.context place)
    (hp : place ≠ .helper) (hf : s.state.LetsReflow) (hb : s.state.orientation.blocked = false)
    (ho : s.state.outbox = some posted) (hn : s.state.listening ≠ [])
    (hsub : s.state.subscribed = []) (device : DeviceOrientation) :
    let r := notifyOrientation device s
    r.1 = .ok () ∧
      (r.2.state.outbox = some posted ↔
        s.state.page = none ∨ device.Recognised ∧ s.context.running = false) ∧
      (r.2.state.outbox ≠ some posted → ∃ (order : List Handle) (new : List Posted),
        order.Perm s.state.screenHandles ∧ Reported device.reported order new ∧
        r.2.state.outbox = some (posted ++ new) ∧ new.length = 2 * s.state.listening.length) ∧
      (∀ raw, device = .ofRaw raw → device.Listed raw) ∧
      r.2.state.shownGrid = s.state.shownGrid ∧ r.2.state.attachedBar = s.state.attachedBar ∧
      r.2.state.bars = s.state.bars := by
  intro r
  have hattended : Attended [] s.state := hs ▸ attended_observeAll h steps
  obtain ⟨hok, order, hperm, hstate⟩ := hattended.notifyOrientation device hc hp hf hb
  have hperm : order.Perm s.state.screenHandles := by
    simpa [attachedListeners, hsub, hearers] using hperm
  have hlength : order.length = s.state.listening.length := by
    rw [hperm.length_eq, screenHandles, List.length_map]
  have horder : order ≠ [] := by
    intro he
    rw [he, List.length_nil] at hlength
    exact hn (List.eq_nil_of_length_eq_zero hlength.symm)
  have hcodes (raw : Int32) (he : device = .ofRaw raw) : device.Listed raw :=
    he ▸ DeviceOrientation.listed_ofRaw raw
  refine ⟨hok, ?_⟩
  by_cases hsilent : Silent device s
  · have hquiet : r.2.state = s.state := hstate.trans (if_pos hsilent)
    rw [hquiet]
    exact ⟨⟨fun _ => hsilent, fun _ => ho⟩, fun hne => absurd ho hne, hcodes, rfl, rfl, rfl⟩
  · have htold : r.2.state = s.state.told device order := hstate.trans (if_neg hsilent)
    have hreacted : Reacted device order s.state (s.state.told device order) :=
      reacted_told device order s.state
    obtain ⟨new, hreported, hnew⟩ := hreacted.posted
    rw [ho, Option.map_some] at hnew
    rw [htold]
    refine ⟨⟨fun he => ?_, fun he => absurd he hsilent⟩,
      fun _ => ⟨order, new, hperm, hreported, hnew, ?_⟩, hcodes, hreacted.content, hreacted.bar, rfl⟩
    · exact absurd ((outbox_told_eq_iff ho).mp he) horder
    · rw [hreported.length_eq, hlength]

def sharedHandle : List (Via × Step) :=
  [.openScreen "a" ⟨7⟩, .openScreen "b" ⟨8⟩, .openScreen "c" ⟨7⟩, .openScreen "d" ⟨9⟩,
    .onScreen "b" .dispose].map (Via.direct, ·)

theorem sharedHandle_in_pairs :
    let s := (observeAll sharedHandle newSession).2
    let posted := (notifyOrientation (.ofRaw 18) s).2.state.outbox
    let shared : Posted := ⟨none, ⟨[45, 0, 0, 0, 4, 0, 0, 0]⟩⟩
    let own (handle : UInt8) : Posted := ⟨some 23, ⟨[21, 0, 0, 0, handle, 0, 0, 0, 4, 0, 0, 0]⟩⟩
    s.state.LetsReflow ∧ s.state.outbox = some [] ∧ s.state.subscribed = [] ∧
      s.state.listening = [⟨0⟩, ⟨2⟩, ⟨3⟩] ∧
      (∃ (order : List Handle) (new : List Posted), order.Perm [⟨7⟩, ⟨7⟩, ⟨9⟩] ∧
        Reported 4 order new ∧ posted = some new ∧ new.length = 6) ∧
      posted = some [shared, own 7, shared, own 7, shared, own 9] := by
  intro s posted shared own
  have hs : s.state = (observeAll sharedHandle newSession).2.state := rfl
  have hf : s.state.LetsReflow := ⟨rfl, rfl⟩
  have hb : s.state.orientation.blocked = false := rfl
  have ho : s.state.outbox = some [] := rfl
  have hsub : s.state.subscribed = [] := rfl
  have hn : s.state.listening ≠ [] := by decide
  have hc : Fits s.context .free := .inl rfl
  have hl : s.state.listening = [⟨0⟩, ⟨2⟩, ⟨3⟩] := by decide
  have hsc : s.state.screenHandles = [⟨7⟩, ⟨7⟩, ⟨9⟩] := by decide
  have hposted : posted = some [shared, own 7, shared, own 7, shared, own 9] := by decide +kernel
  have hheard : posted ≠ some [] := by
    rw [hposted]
    decide
  obtain ⟨-, -, hpost, hcode, -⟩ := notification_in_pairs start_newSession hs hc (by decide) hf hb ho hn
    hsub (.ofRaw 18)
  obtain ⟨order, new, hperm, hreported, hnew, hlength⟩ := hpost hheard
  rw [hsc] at hperm
  rw [hl] at hlength
  rw [(hcode 18 rfl).code] at hreported
  exact ⟨hf, ho, hsub, hl, ⟨order, new, hperm, hreported, hnew, hlength⟩, hposted⟩

end Session
end ScreenDeck
