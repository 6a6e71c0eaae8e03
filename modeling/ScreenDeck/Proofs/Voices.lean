import ScreenDeck.Proofs.Attendance

/-! Who listens for a screen. Hosts may listen, too, and dispose of screens when they are told. Whoever
listens, the tracker of a screen is only connected as the screen itself has connected it, and no longer
once the screen has been disposed of. -/

namespace ScreenDeck
namespace Deck

variable {d e f : Deck} {s : Ref .screen} {x y : Life}

structure Voiced (d : Deck) : Prop extends Paired d where
  tidy : d.orientation.slots.Tidy
  bounded : ∀ {key t}, d.orientation.slots.get? key = some (.tracker t) → (d.trackers.get? t).isSome
  own : ∀ {s x key}, d.life? s = some x → d.orientation.slots.get? key = some (.tracker x.tracker) →
    x.disposed = false ∧ x.subscription = ⟨key, true⟩

namespace Voiced

theorem start (hscreens : d.screens = {}) (hslots : d.orientation.slots = {})
    (hnamed : d.names.trackers = []) : Voiced d := by
  have hget (key : SlotKey) : d.orientation.slots.get? key = none := by
    rw [hslots]
    simp [Slots.get?]
  have hlife (s : Ref .screen) : d.life? s = none := by
    rw [life?, hscreens]
    rfl
  have hpaired : Paired d := by constructor <;> simp [hlife, hnamed]
  refine { hpaired with tidy := ?_, bounded := fun hk => ?_, own := fun hx _ => ?_ }
  · rw [hslots]
    exact Slots.tidy_empty
  · simp [hget] at hk
  · simp [hlife] at hx

theorem retrack (h : Voiced d) (htidy : e.orientation.slots.Tidy)
    (hslots : ∀ {key t}, e.orientation.slots.get? key = some (.tracker t) →
      d.orientation.slots.get? key = some (.tracker t) ∨ e.Standalone t)
    (hlives : ∀ s, e.life? s = d.life? s)
    (htracker : ∀ {s x}, d.life? s = some x → e.trackers.get? x.tracker = d.trackers.get? x.tracker)
    (hsome : ∀ {t}, (d.trackers.get? t).isSome → (e.trackers.get? t).isSome)
    (hnamed : ∀ {n t}, e.names.trackers.lookup n = some t →
      d.names.trackers.lookup n = some t ∨ e.Standalone t) : Voiced e := by
  refine { h.toPaired.retrack hlives htracker hsome hnamed with
    tidy := htidy, bounded := fun hk => ?_, own := fun {s x} _ hx hk => ?_ }
  · exact (hslots hk).elim (fun hk => hsome (h.bounded hk)) (·.1)
  · rcases hslots hk with hk | halone
    · exact h.own ((hlives s).symm.trans hx) hk
    · exact absurd rfl (halone.2 s x hx)

theorem aside (h : Voiced d) (ha : Aside d e) : Voiced e := by
  refine h.retrack (ha.slots ▸ h.tidy) (fun hk => .inl ?_) ha.lives (fun _ => by rw [ha.trackers])
    (fun ht => by rwa [ha.trackers]) fun ht => .inl ?_
  · rwa [ha.slots] at hk
  · rwa [ha.named] at ht

theorem release (h : Voiced d) (o : Subscription) : Voiced (d.release o).2 := by
  cases ha : o.active with
  | false => rwa [release_of_inactive ha]
  | true =>
    rw [release_of_active ha]
    refine h.retrack (Slots.tidy_remove h.tidy _) (fun {key t} hk => .inl ?_) (fun _ => rfl)
      (fun _ => rfl) id .inl
    rw [Slots.get?_remove] at hk
    split at hk
    · cases hk
    · exact hk

theorem listen (h : Voiced d) {l : Listener} (hl : ∀ t, l = .tracker t → d.Standalone t) :
    Voiced (d.listen l).2 := by
  refine h.retrack (Slots.tidy_insert h.tidy l) (fun {key t} hk => ?_) (fun _ => rfl) (fun _ => rfl) id
    .inl
  have hk : (d.orientation.slots.insert l).2.get? key = some (.tracker t) := hk
  rw [Slots.get?_insert h.tidy] at hk
  split at hk
  · exact .inr (hl t (Option.some.inj hk))
  · exact .inl hk

/-- One screen changes, and is told no longer if it has been disposed of. -/
theorem relive (h : Voiced d) (htidy : e.orientation.slots.Tidy)
    (hslots : ∀ {key t}, e.orientation.slots.get? key = some (.tracker t) →
      d.orientation.slots.get? key = some (.tracker t) ∧
        (t = x.tracker → y.disposed = x.disposed ∧ y.subscription = x.subscription))
    (hx : d.life? s = some x) (hy : e.life? s = some y) (hrest : ∀ r, r ≠ s → e.life? r = d.life? r)
    (hlead : x.Leads y) (htracker : e.trackers.get? x.tracker = some ⟨y.handle, y.alive⟩)
    (hothers : ∀ t, t ≠ x.tracker → e.trackers.get? t = d.trackers.get? t)
    (hnames : e.names = d.names) : Voiced e := by
  refine { h.toPaired.relive hx hy hrest hlead htracker hothers hnames with
    tidy := htidy, bounded := fun {key t} hk => ?_, own := fun hz hk => ?_ }
  · have hthere := h.bounded (hslots hk).1
    by_cases htx : t = x.tracker
    · rw [htx, htracker]
      rfl
    · rwa [hothers t htx]
  · obtain ⟨hk, hsame⟩ := hslots hk
    obtain ⟨rfl, rfl⟩ | ⟨-, hz⟩ := life?_cases hy hrest hz
    · obtain ⟨hdisposed, hsubscription⟩ := hsame hlead.tracker
      rw [hdisposed, hsubscription]
      exact h.own hx (hlead.tracker ▸ hk)
    · exact h.own hz hk

theorem bury (h : Voiced d) (hs : (d.screens.get s).alive = true) : Voiced (d.bury s) := by
  have hx : d.life? s = some (d.screens.get s).life := life?_of_get? (get?_of_alive hs)
  have htracker : (d.bury s).trackers.get? (d.screens.get s).tracker =
      (d.trackers.get? (d.screens.get s).tracker).map fun x => { x with alive := false } :=
    Store.get?_modify_self _ _ _
  refine h.relive h.tidy (fun hk => ⟨hk, fun _ => ?_⟩) hx (life?_bury_self hx)
    (fun _ => life?_bury_ne) ⟨rfl, rfl, rfl, id, nofun⟩
    (htracker.trans (congrArg (Option.map _) (h.tracker hx)))
    (fun t ht => Store.get?_modify_ne _ _ (Ne.symm ht)) rfl
  exact ⟨rfl, rfl⟩

/-- A screen that is disposed of releases its own subscription, and nobody else has its tracker. -/
theorem retire (h : Voiced d) (hs : (d.screens.get s).disposed = false) : Voiced (d.retire s) := by
  have hx : d.life? s = some (d.screens.get s).life := life?_of_get? (get?_of_not_disposed hs)
  have hreleased := h.release (d.screens.get s).subscription
  have hnames : (d.retire s).names = d.names := by rw [Deck.retire, release_eq]; rfl
  have htrackers : (d.retire s).trackers = d.trackers := by rw [Deck.retire, release_eq]; rfl
  refine h.relive hreleased.tidy (fun {key t} hk => ?_) hx (life?_retire_self hx)
    (fun _ => life?_retire_ne) ⟨rfl, rfl, rfl, fun _ => rfl, id⟩ (by rw [htrackers]; exact h.tracker hx)
    (fun _ _ => by rw [htrackers]) hnames
  have hk : (d.release (d.screens.get s).subscription).2.orientation.slots.get? key =
      some (.tracker t) := hk
  -- The tracker has one connection at most, and only as long as the subscription is active.
  cases ha : (d.screens.get s).subscription.active with
  | false =>
    rw [release_of_inactive ha] at hk
    refine ⟨hk, fun ht => ?_⟩
    subst ht
    have hactive := congrArg Subscription.active (h.own hx hk).2
    exact absurd (ha.symm.trans hactive) Bool.false_ne_true
  | true =>
    rw [release_of_active ha] at hk
    have hk : (d.orientation.slots.remove (d.screens.get s).subscription.key).2.get? key =
        some (.tracker t) := hk
    rw [Slots.get?_remove] at hk
    split at hk
    next => cases hk
    next hne =>
      refine ⟨hk, fun ht => ?_⟩
      subst ht
      exact absurd (congrArg Subscription.key (h.own hx hk).2).symm hne

theorem makeScreen (h : Voiced d) (handle : Handle) : Voiced (d.makeScreen handle).2 := by
  have hself := life?_makeScreen_self handle d
  have hrest := life?_makeScreen_ne handle d
  have hslots : (d.makeScreen handle).2.orientation.slots =
      (d.orientation.slots.insert (.tracker d.nextTracker)).2 := rfl
  have hcases {r x} (hx : (d.makeScreen handle).2.life? r = some x) := life?_cases hself hrest hx
  have hold {r x} (hx : d.life? r = some x) : x.tracker ≠ d.nextTracker :=
    ne_nextTracker (Option.isSome_iff_exists.mpr ⟨_, h.tracker hx⟩)
  refine { h.toPaired.makeScreen handle with
    tidy := Slots.tidy_insert h.tidy _, bounded := fun hk => ?_, own := fun hx hk => ?_ }
  · rw [hslots, Slots.get?_insert h.tidy] at hk
    split at hk
    · cases hk
      exact Option.isSome_iff_exists.mpr ⟨_, Store.get?_add d.trackers { handle }⟩
    · exact Store.isSome_get?_add (h.bounded hk) _
  · rw [hslots, Slots.get?_insert h.tidy] at hk
    -- The new tracker is only at the new key, which no older screen holds.
    obtain ⟨-, rfl⟩ | ⟨-, hx⟩ := hcases hx <;> split at hk
    next hkey => exact ⟨rfl, by rw [hkey]; rfl⟩
    next => exact absurd rfl (ne_nextTracker (h.bounded hk))
    next => exact absurd (Listener.tracker.inj (Option.some.inj hk)).symm (hold hx)
    next => exact h.own hx hk

theorem makeTracker (h : Voiced d) (handle : Handle) : Voiced (d.makeTracker handle).2 :=
  h.retrack h.tidy .inl (fun _ => rfl)
    (fun hx => (Store.get?_add_of_get? (h.tracker hx) _).trans (h.tracker hx).symm)
    (fun ht => Store.isSome_get?_add ht _) .inl

theorem endTracker {t : Ref .tracker} (h : Voiced d) (ht : d.Standalone t) : Voiced (d.endTracker t) :=
  h.retrack h.tidy .inl (fun _ => rfl)
    (fun hx => Store.get?_modify_ne _ _ (ht.2 _ _ hx).symm)
    (fun hu => by rwa [Deck.endTracker, modifyTracker, Store.isSome_get?_modify]) .inl

theorem rename (h : Voiced d) {names : Names} (hnamed : ∀ {n t}, names.trackers.lookup n = some t →
    d.names.trackers.lookup n = some t ∨ d.Standalone t) : Voiced { d with names } :=
  h.retrack h.tidy .inl (fun _ => rfl) (fun _ => rfl) id hnamed

theorem nameTracker {t : Ref .tracker} (h : Voiced d) (ht : d.Standalone t) (name : String) :
    Voiced (d.nameTracker name t) := by
  have hnamed : Voiced { d with names.trackers := Names.bind d.names.trackers name t } := by
    refine h.rename fun hu => ?_
    rcases Names.of_lookup_bind hu with hu | rfl
    · exact .inl hu
    · exact .inr ht
  unfold Deck.nameTracker
  cases ho : d.names.trackers.lookup name with
  | none => exact hnamed
  | some o => exact hnamed.endTracker (h.standalone ho)

theorem dropTracker (h : Voiced d) (name : String) : Voiced (d.dropTracker name).2 := by
  unfold Deck.dropTracker
  cases ht : d.names.trackers.lookup name with
  | none => exact h
  | some t =>
    have hnamed : Voiced { d with names.trackers := Names.unbind d.names.trackers name } :=
      h.rename fun hu => .inl (Names.of_lookup_unbind hu)
    exact hnamed.endTracker (h.standalone ht)

theorem attach {t : Ref .tracker} (h : Voiced d) (ht : d.Standalone t) (name : String) :
    Voiced (d.attach name t) := by
  have hlistens : Voiced (d.listen (.tracker t)).2 :=
    h.listen fun u hu => Listener.tracker.inj hu ▸ ht
  have hnamed : Voiced { (d.listen (.tracker t)).2 with
      names.subscriptions := Names.bind (d.listen (.tracker t)).2.names.subscriptions name
        (d.listen (.tracker t)).1 } := hlistens.rename .inl
  unfold Deck.attach nameSubscription
  cases (d.listen (.tracker t)).2.names.subscriptions.lookup name with
  | none => exact hnamed
  | some o => exact hnamed.release o

theorem dropSubscription (h : Voiced d) (name : String) : Voiced (d.dropSubscription name).2 := by
  unfold Deck.dropSubscription
  have hnamed : Voiced { d with
      names.subscriptions := Names.unbind d.names.subscriptions name } := h.rename .inl
  cases d.names.subscriptions.lookup name with
  | none => exact h
  | some o => exact hnamed.release o

end Voiced

/-- Screens are told as before, if they are told at all. -/
def Voices (d e : Deck) : Prop := Voiced d → Voiced e

instance : Act.Steady (Act.OnState Voices) := Act.steady_onState (fun _ => id) fun h h' => h' ∘ h

instance : Spanning Voices where
  aside _ ha h := h.aside ha
  letGo := spans_letGo (fun hs h => h.bury hs) fun o _ h => h.release o
  retire hs h := h.retire hs
  makeScreen handle _ h := h.makeScreen handle
  takeTracker name handle _ h := (h.makeTracker handle).nameTracker (h.toPaired.standalone_makeTracker handle) name
  dropTracker name _ h := h.dropTracker name
  attach ht name h := h.attach (h.standalone ht) name
  releaseNamed {_ o _} _ h := (h.release o).rename .inl
  dropSubscription name _ h := h.dropSubscription name

theorem admits_voices (v : Event) : Admits Voices v := fun hm h => h.aside hm.aside

end Deck
end ScreenDeck
