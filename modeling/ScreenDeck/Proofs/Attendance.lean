import ScreenDeck.Proofs.Listeners
import ScreenDeck.Proofs.SessionHistories

/-! Listening from the start of a session to its end. Screens, trackers and subscriptions come and
go, and the listeners are counted by those that are there. -/

namespace ScreenDeck
namespace Deck

variable {d e f : Deck} {dying : List (Ref .screen)} {s : Ref .screen} {x : Life}

/-! Screens and trackers are made, named and dropped. -/

theorem Attended.start (hscreens : d.screens = {}) (hslots : d.orientation.slots = {})
    (hsubs : d.names.subscriptions = []) (hnamed : d.names.trackers = []) : Attended [] d := by
  have hlife (s : Ref .screen) : d.life? s = none := by
    rw [life?, hscreens]
    rfl
  have hholding : holding (d.line? []) [] = fun _ => none := by
    funext y
    cases y with
    | screen s => simp [holding, line?, hlife]
    | name n => rfl
  constructor
  · rw [hslots, hsubs]
    refine ⟨?_, fun hx => ?_, fun hx => ?_⟩
    · rw [hholding]
      exact ⟨Slots.tidy_empty, by simp [Slots.get?], by simp⟩
    · simp [line?, hlife] at hx
    · cases hx
  · intro s x hx
    simp [hlife] at hx
  · intro s x hx
    simp [hlife] at hx
  · intro s r x y hx
    simp [hlife] at hx
  · intro s x hmem
    cases hmem
  · intro n t ht
    simp [hnamed] at ht
  · rw [hsubs]
    exact List.nodup_nil

def nextTracker (d : Deck) : Ref .tracker := ⟨d.trackers.size⟩

def nextKey (d : Deck) : SlotKey := (d.orientation.slots.insert (.tracker d.nextTracker)).1

def newLife (d : Deck) (handle : Handle) : Life :=
  ⟨handle, d.nextTracker, ⟨d.nextKey, true⟩, false, true⟩

theorem life?_nextScreen (d : Deck) : d.life? ⟨d.screens.size⟩ = none :=
  congrArg (Option.map Screen.life) (Store.get?_fst_add d.screens default)

theorem life?_makeScreen_self (handle : Handle) (d : Deck) :
    (d.makeScreen handle).2.life? ⟨d.screens.size⟩ = some (d.newLife handle) :=
  congrArg (Option.map Screen.life) (Store.get?_add d.screens _)

theorem life?_makeScreen_ne (handle : Handle) (d : Deck) (r : Ref .screen)
    (hr : r ≠ ⟨d.screens.size⟩) : (d.makeScreen handle).2.life? r = d.life? r :=
  congrArg (Option.map Screen.life) (Store.get?_add_ne d.screens _ hr)

theorem ne_nextTracker {t : Ref .tracker} (ht : (d.trackers.get? t).isSome) : t ≠ d.nextTracker :=
  Store.ne_fst_add ht default

theorem Standalone.makeScreen {t : Ref .tracker} (ht : d.Standalone t) (handle : Handle) :
    (d.makeScreen handle).2.Standalone t := by
  have hkept : ((d.makeScreen handle).2.trackers.get? t).isSome := Store.isSome_get?_add ht.1 _
  refine ⟨hkept, fun r x hx => ?_⟩
  obtain ⟨-, rfl⟩ | ⟨-, hx⟩ := life?_cases (life?_makeScreen_self handle d) (life?_makeScreen_ne handle d) hx
  · exact (ne_nextTracker ht.1).symm
  · exact ht.2 r x hx

theorem Paired.makeScreen (h : Paired d) (handle : Handle) : Paired (d.makeScreen handle).2 := by
  have htrackers : (d.makeScreen handle).2.trackers = (d.trackers.add { handle }).2 := rfl
  have hcases {r x} (hx : (d.makeScreen handle).2.life? r = some x) :=
    life?_cases (life?_makeScreen_self handle d) (life?_makeScreen_ne handle d) hx
  have hold {r x} (hx : d.life? r = some x) : x.tracker ≠ d.nextTracker :=
    ne_nextTracker (Option.isSome_iff_exists.mpr ⟨_, h.tracker hx⟩)
  constructor
  · intro r x hx
    rw [htrackers]
    obtain ⟨-, rfl⟩ | ⟨-, hx⟩ := hcases hx
    · exact Store.get?_add _ _
    · exact Store.get?_add_of_get? (h.tracker hx) _
  · intro r q x y hx hy he
    obtain ⟨rfl, rfl⟩ | ⟨-, hx⟩ := hcases hx <;> obtain ⟨rfl, rfl⟩ | ⟨-, hy⟩ := hcases hy
    · rfl
    · exact absurd he.symm (hold hy)
    · exact absurd he (hold hx)
    · exact h.apart hx hy he
  · intro n u hu
    exact (h.standalone hu).makeScreen handle

/-- A new screen connects its tracker under a fresh key and disturbs none of the others. -/
theorem Attended.makeScreen (h : Attended [] d) (handle : Handle) :
    Attended [] (d.makeScreen handle).2 := by
  have hself := life?_makeScreen_self handle d
  have hrest := life?_makeScreen_ne handle d
  have hpaired := h.paired.makeScreen handle
  constructor
  · have hbefore : d.line? [] ⟨d.screens.size⟩ = none := by simp [line?, life?_nextScreen]
    have hafter : (d.makeScreen handle).2.line? [] ⟨d.screens.size⟩ =
        some ⟨true, d.nextKey, d.nextTracker⟩ := by
      simp [line?_of_life? hself, Life.line, newLife]
    have hwired := h.wired.start hbefore hafter fun r hr => line?_congr (hrest r hr) Iff.rfl
    exact hwired.alone_mono fun u hu => hu.makeScreen handle
  · intro r x hx
    obtain ⟨-, rfl⟩ | ⟨-, hx⟩ := life?_cases hself hrest hx
    · rfl
    · exact h.active hx
  · exact hpaired.tracker
  · exact hpaired.apart
  · intro r x hmem
    cases hmem
  · exact hpaired.standalone
  · exact h.distinct

theorem Attended.makeTracker (h : Attended dying d) (handle : Handle) :
    Attended dying (d.makeTracker handle).2 :=
  h.retrack rfl (fun _ => rfl) rfl
    (fun hx => (Store.get?_add_of_get? (h.tracker hx) _).trans (h.tracker hx).symm)
    (fun ht => Store.isSome_get?_add ht _) .inl

theorem Paired.standalone_makeTracker (h : Paired d) (handle : Handle) :
    (d.makeTracker handle).2.Standalone (d.makeTracker handle).1 := by
  refine ⟨Option.isSome_iff_exists.mpr ⟨_, Store.get?_add _ _⟩, fun s x hx he => ?_⟩
  have hthere := h.tracker (s := s) hx
  rw [he] at hthere
  have hnone := Store.get?_fst_add d.trackers { handle }
  exact absurd (hthere.symm.trans hnone) nofun

/-- No screen notices that a tracker ends which stands alone. -/
theorem Attended.endTracker {t : Ref .tracker} (h : Attended dying d) (ht : d.Standalone t) :
    Attended dying (d.endTracker t) := by
  refine h.retrack rfl (fun _ => rfl) rfl (fun hx => ?_) (fun hu => ?_) .inl
  · exact Store.get?_modify_ne _ _ (ht.2 _ _ hx).symm
  · rwa [Deck.endTracker, modifyTracker, Store.isSome_get?_modify]

theorem Attended.nameTracker {t : Ref .tracker} (h : Attended dying d) (ht : d.Standalone t)
    (name : String) : Attended dying (d.nameTracker name t) := by
  have hnamed : Attended dying { d with names.trackers := Names.bind d.names.trackers name t } := by
    refine h.retrack rfl (fun _ => rfl) rfl (fun _ => rfl) id fun hu => ?_
    rcases Names.of_lookup_bind hu with hu | rfl
    · exact .inl hu
    · exact .inr ht
  unfold Deck.nameTracker
  cases ho : d.names.trackers.lookup name with
  | none => exact hnamed
  | some o => exact hnamed.endTracker (h.standalone ho)

theorem Attended.dropTracker (h : Attended dying d) (name : String) :
    Attended dying (d.dropTracker name).2 := by
  unfold Deck.dropTracker
  cases ht : d.names.trackers.lookup name with
  | none => exact h
  | some t =>
    have hnamed : Attended dying
        { d with names.trackers := Names.unbind d.names.trackers name } :=
      h.retrack rfl (fun _ => rfl) rfl (fun _ => rfl) id fun hu => .inl (Names.of_lookup_unbind hu)
    exact hnamed.endTracker (h.standalone ht)

/-! Subscriptions of trackers. -/

/-- Of the deck, only the named subscriptions and the slots of the signal have changed. -/
theorem Attended.resubscribe (h : Attended dying d)
    (hwired : Wired e.orientation.slots (d.line? dying) e.names.subscriptions d.Standalone)
    (hdistinct : Names.Distinct e.names.subscriptions) (hscreens : e.screens = d.screens)
    (htrackers : e.trackers = d.trackers) (hnamed : e.names.trackers = d.names.trackers) :
    Attended dying e := by
  have hlives (s : Ref .screen) : e.life? s = d.life? s := by rw [life?, life?, hscreens]
  have hlife : e.life? = d.life? := funext hlives
  have hpaired : Paired e := by
    refine h.paired.retrack hlives (fun _ => by rw [htrackers]) (fun ht => ?_) fun ht => .inl ?_
    · rwa [htrackers]
    · rwa [← hnamed]
  have hline : e.line? dying = d.line? dying := funext fun s => line?_congr (by rw [hlife]) Iff.rfl
  have halone {t} (ht : d.Standalone t) : e.Standalone t := by
    rw [Standalone, htrackers, hlife]
    exact ht
  constructor
  · rw [hline]
    exact hwired.alone_mono fun t => halone
  · rw [hlife]
    exact h.active
  · exact hpaired.tracker
  · exact hpaired.apart
  · rw [hlife]
    exact h.ended
  · exact hpaired.standalone
  · exact hdistinct

theorem Attended.attach {t : Ref .tracker} (h : Attended dying d) (ht : d.Standalone t)
    (name : String) : Attended dying (d.attach name t) := by
  let key := (d.orientation.slots.insert (.tracker t)).1
  have hself : (Names.bind d.names.subscriptions name ⟨key, true⟩).lookup name = some ⟨key, true⟩ := by
    rw [Names.lookup_bind, if_pos rfl]
  have hrest (m : String) (hm : m ≠ name) :
      (Names.bind d.names.subscriptions name ⟨key, true⟩).lookup m = d.names.subscriptions.lookup m := by
    rw [Names.lookup_bind, if_neg hm]
  have hdistinct := h.distinct.bind name (⟨key, true⟩ : Subscription)
  have hnew (hn : holding (d.line? dying) d.names.subscriptions (.name name) = none) :
      Attended dying { (d.listen (.tracker t)).2 with
        names.subscriptions := Names.bind d.names.subscriptions name ⟨key, true⟩ } :=
    h.resubscribe (h.wired.attach hn ht hself hrest) hdistinct rfl rfl rfl
  unfold Deck.attach nameSubscription
  have hnames : (d.listen (.tracker t)).2.names = d.names := rfl
  rw [hnames]
  cases ho : d.names.subscriptions.lookup name with
  | none => exact hnew (holding_eq_none (by simp [ho]))
  | some o =>
    dsimp only
    cases ha : o.active with
    | false =>
      rw [release_of_inactive ha]
      exact hnew (holding_eq_none (by simp [ho, ha]))
    | true =>
      have hheld : holding (d.line? dying) d.names.subscriptions (.name name) = some o.key := by
        simp [holding, ho, Subscription.key?, ha]
      rw [release_of_active ha]
      exact h.resubscribe (h.wired.reattach hheld ht hself hrest) hdistinct rfl rfl rfl

/-- The connection of one name is given up, and those of all other names stay. -/
theorem Attended.unsubscribe {name : String} {o : Subscription} (h : Attended dying d)
    (ho : d.names.subscriptions.lookup name = some o) {subs : List (String × Subscription)}
    (hself : ∀ y, subs.lookup name = some y → y.active = false)
    (hrest : ∀ m, m ≠ name → subs.lookup m = d.names.subscriptions.lookup m)
    (hdistinct : Names.Distinct subs) :
    Attended dying { (d.release o).2 with names.subscriptions := subs } := by
  cases ha : o.active with
  | false =>
    rw [release_of_inactive ha]
    have hidle := h.wired.idle (n := name) (fun y hy => by
      obtain rfl : o = y := Option.some.inj (ho.symm.trans hy)
      exact ha) hself hrest
    exact h.resubscribe hidle hdistinct rfl rfl rfl
  | true =>
    rw [release_of_active ha]
    exact h.resubscribe (h.wired.detach ho ha hself hrest) hdistinct rfl rfl rfl

theorem Attended.releaseNamed {name : String} {o : Subscription} (h : Attended dying d)
    (ho : d.names.subscriptions.lookup name = some o) :
    Attended dying (releaseNamed name o d).2 := by
  let spent : Subscription := { o with active := false }
  have hself (y : Subscription)
      (hy : (Names.bind d.names.subscriptions name spent).lookup name = some y) : y.active = false := by
    rw [Names.lookup_bind, if_pos rfl] at hy
    cases hy
    rfl
  have hreleased := h.unsubscribe ho hself (fun m hm => by rw [Names.lookup_bind, if_neg hm])
    (h.distinct.bind name _)
  have hsame : (Deck.releaseNamed name o d).2 = { (d.release o).2 with
    names.subscriptions := Names.bind (d.release o).2.names.subscriptions name spent } := rfl
  rw [hsame]
  cases ha : o.active with
  | false =>
    rw [release_of_inactive ha] at hreleased ⊢
    exact hreleased
  | true =>
    rw [release_of_active ha] at hreleased ⊢
    exact hreleased

theorem Attended.dropSubscription (h : Attended dying d) (name : String) :
    Attended dying (d.dropSubscription name).2 := by
  unfold Deck.dropSubscription
  cases ho : d.names.subscriptions.lookup name with
  | none => exact h
  | some o =>
    have hunbound : ∀ (m : String), (Names.unbind d.names.subscriptions name).lookup m =
        if m = name then none else d.names.subscriptions.lookup m := Names.lookup_unbind _ _
    have hdropped := h.unsubscribe ho (fun y hy => by simp [hunbound] at hy)
      (fun m hm => by rw [hunbound, if_neg hm]) (h.distinct.unbind name)
    cases ha : o.active with
    | false =>
      rw [release_of_inactive ha] at hdropped ⊢
      exact hdropped
    | true =>
      rw [release_of_active ha] at hdropped ⊢
      exact hdropped

/-! Sessions. -/

theorem screens_release (o : Subscription) (d : Deck) : (d.release o).2.screens = d.screens := by
  rw [release_eq]

theorem screens_releaseNamed (name : String) (o : Subscription) (d : Deck) :
    (releaseNamed name o d).2.screens = d.screens := screens_release o d

theorem screens_dropSubscription (name : String) (d : Deck) :
    (d.dropSubscription name).2.screens = d.screens := by
  unfold Deck.dropSubscription
  cases d.names.subscriptions.lookup name with
  | none => rfl
  | some o => exact screens_release o _

theorem screens_dropTracker (name : String) (d : Deck) :
    (d.dropTracker name).2.screens = d.screens := by
  unfold Deck.dropTracker
  cases d.names.trackers.lookup name <;> rfl

structure Attends (d e : Deck) : Prop where
  attended : Attended [] d → Attended [] e
  leads : ∀ s x, d.life? s = some x → ∃ y, e.life? s = some y ∧ x.Leads y

namespace Attends

theorem of_lives (ha : Attended [] d → Attended [] e) (hl : ∀ s x, d.life? s = some x →
    e.life? s = some x) : Attends d e := ⟨ha, fun s x hx => ⟨x, hl s x hx, .refl x⟩⟩

theorem of_screens (ha : Attended [] d → Attended [] e) (hs : e.screens = d.screens) :
    Attends d e := of_lives ha fun s x hx => by rwa [life?, hs]

theorem refl (d : Deck) : Attends d d := of_screens id rfl

theorem trans (h : Attends d e) (h' : Attends e f) : Attends d f where
  attended := h'.attended ∘ h.attended
  leads s x hx := by
    obtain ⟨y, hy, hxy⟩ := h.leads s x hx
    obtain ⟨z, hz, hyz⟩ := h'.leads s y hy
    exact ⟨z, hz, hxy.trans hyz⟩

theorem aside (h : Aside d e) : Attends d e :=
  of_lives (fun hd => hd.aside h) fun s _ hx => (h.lives s).trans hx

theorem letGo (cs : List Child) (d : Deck) : Attends d (d.letGo cs) where
  attended := (LetsGo.letGo cs d).attended
  leads _ _ := (LetsGo.letGo cs d).fades.leads

theorem retire (hs : (d.screens.get s).disposed = false) : Attends d (d.retire s) where
  attended h := h.retire hs
  leads r x hx := by
    by_cases hr : r = s
    · subst hr
      exact ⟨x.retired, life?_retire_self hx, rfl, rfl, rfl, fun _ => rfl, id⟩
    · exact ⟨x, (life?_retire_ne hr).trans hx, .refl x⟩

theorem makeScreen (handle : Handle) (d : Deck) : Attends d (d.makeScreen handle).2 := by
  refine of_lives (fun h => h.makeScreen handle) fun s x hx => ?_
  obtain ⟨y, hy, rfl⟩ := Option.map_eq_some_iff.mp hx
  exact life?_of_get? (Store.get?_add_of_get? hy _)

theorem takeTracker (name : String) (handle : Handle) (d : Deck) :
    Attends d (d.takeTracker name handle) := by
  refine of_screens (fun h => ?_) ?_
  · exact (h.makeTracker handle).nameTracker (h.paired.standalone_makeTracker handle) name
  · unfold Deck.takeTracker nameTracker
    cases (d.makeTracker handle).2.names.trackers.lookup name <;> rfl

theorem dropTracker (name : String) (d : Deck) : Attends d (d.dropTracker name).2 :=
  of_screens (fun h => h.dropTracker name) (screens_dropTracker name d)

theorem attach {other : String} {t : Ref .tracker} (ht : d.names.trackers.lookup other = some t)
    (name : String) : Attends d (d.attach name t) := by
  refine of_screens (fun h => h.attach (h.standalone ht) name) ?_
  unfold Deck.attach nameSubscription
  cases (d.listen (.tracker t)).2.names.subscriptions.lookup name with
  | none => rfl
  | some o => exact screens_release o _

theorem releaseNamed {name : String} {o : Subscription}
    (ho : d.names.subscriptions.lookup name = some o) : Attends d (releaseNamed name o d).2 :=
  of_screens (fun h => h.releaseNamed ho) (screens_releaseNamed name o d)

theorem dropSubscription (name : String) (d : Deck) : Attends d (d.dropSubscription name).2 :=
  of_screens (fun h => h.dropSubscription name) (screens_dropSubscription name d)

end Attends

instance : Spanning Attends where
  toSteady := Act.steady_onState Attends.refl Attends.trans
  aside _ := .aside
  letGo := Attends.letGo
  retire := .retire
  makeScreen := Attends.makeScreen
  takeTracker := Attends.takeTracker
  dropTracker := Attends.dropTracker
  attach := .attach
  releaseNamed := .releaseNamed
  dropSubscription := Attends.dropSubscription

theorem admits_attends (v : Event) : Admits Attends v := fun hm => .aside hm.aside

/-! Counting. -/

def listening (d : Deck) : List (Ref .screen) :=
  ((List.range d.screens.size).map Ref.mk).filter fun s =>
    (d.screens.get s).alive && !(d.screens.get s).disposed

def subscribed (d : Deck) : List (String × Subscription) := d.names.subscriptions.filter (·.2.active)

theorem mem_listening : s ∈ d.listening ↔
    ∃ x, d.screens.get? s = some x ∧ x.alive = true ∧ x.disposed = false := by
  simp only [listening, List.mem_filter, List.mem_map, List.mem_range, Bool.and_eq_true,
    Bool.not_eq_true']
  constructor
  · rintro ⟨-, halive, hdisposed⟩
    exact ⟨_, get?_of_alive halive, halive, hdisposed⟩
  · rintro ⟨x, hx, halive, hdisposed⟩
    have hlt := (List.getElem?_eq_some_iff.mp hx).1
    rw [Store.get_of_get? hx]
    exact ⟨⟨s.index, hlt, rfl⟩, halive, hdisposed⟩

theorem listening_nodup (d : Deck) : d.listening.Nodup := by
  refine List.Nodup.filter _ (List.Nodup.map (fun i j h => ?_) List.nodup_range)
  cases h
  rfl

theorem mem_subscribed (h : Attended dying d) {n : String} {o : Subscription} :
    (n, o) ∈ d.subscribed ↔ d.names.subscriptions.lookup n = some o ∧ o.active = true := by
  rw [subscribed, List.mem_filter, h.distinct.lookup_eq_some_iff]

def holders (d : Deck) : List Holder :=
  d.listening.map Holder.screen ++ d.subscribed.map fun x => Holder.name x.1

theorem Attended.holders_nodup (h : Attended dying d) : d.holders.Nodup := by
  have hscreens : (d.listening.map Holder.screen).Nodup :=
    d.listening_nodup.map fun s r hsr => Holder.screen.inj hsr
  have hnames : (d.subscribed.map fun x => Holder.name x.1).Nodup := by
    have hfst : (d.subscribed.map Prod.fst).Nodup := h.distinct.sublist (List.filter_sublist.map _)
    have hname := hfst.map (f := Holder.name) fun n m hnm => Holder.name.inj hnm
    rwa [List.map_map] at hname
  refine List.nodup_append.mpr ⟨hscreens, hnames, ?_⟩
  intro y hy z hz he
  obtain ⟨s, -, rfl⟩ := List.mem_map.mp hy
  obtain ⟨x, -, rfl⟩ := List.mem_map.mp hz
  cases he

theorem holding_screen (h : s ∈ d.listening) :
    holding (d.line? []) d.names.subscriptions (.screen s) = some (d.screens.get s).subscription.key := by
  obtain ⟨x, hx, halive, hdisposed⟩ := mem_listening.mp h
  have hline : d.line? [] s = some (x.life.line false) := line?_of_life? (life?_of_get? hx)
  simp [holding, hline, Life.line, Line.key?, Store.get_of_get? hx, Screen.life, halive, hdisposed]

theorem Attended.holding_name (h : Attended dying d) {n : String} {o : Subscription}
    (ho : (n, o) ∈ d.subscribed) :
    holding (d.line? dying) d.names.subscriptions (.name n) = some o.key := by
  obtain ⟨hl, ha⟩ := (mem_subscribed h).mp ho
  simp [holding, hl, Subscription.key?, ha]

theorem Attended.mem_holders_iff (h : Attended [] d) (y : Holder) :
    y ∈ d.holders ↔ (holding (d.line? []) d.names.subscriptions y).isSome := by
  rw [holders, List.mem_append, List.mem_map, List.mem_map]
  constructor
  · rintro (⟨s, hs, rfl⟩ | ⟨⟨n, o⟩, ho, rfl⟩)
    · rw [holding_screen hs]
      rfl
    · rw [h.holding_name ho]
      rfl
  · intro hy
    cases y with
    | screen s =>
      cases hs : d.screens.get? s with
      | none => simp [holding, line?, life?, hs] at hy
      | some x =>
        have hline : d.line? [] s = some (x.life.line false) := line?_of_life? (life?_of_get? hs)
        refine .inl ⟨s, mem_listening.mpr ⟨x, hs, ?_⟩, rfl⟩
        by_contra hnot
        have hclosed : (Life.line false x.life).isOpen = false := by
          simpa [Life.line, Screen.life, imp_iff_or_not, not_and_or, or_comm] using hnot
        simp [holding, hline, Line.key?, hclosed] at hy
    | name n =>
      cases ho : d.names.subscriptions.lookup n with
      | none => simp [holding, ho] at hy
      | some o =>
        cases ha : o.active with
        | false => simp [holding, ho, Subscription.key?, ha] at hy
        | true => exact .inr ⟨(n, o), (mem_subscribed h).mpr ⟨ho, ha⟩, rfl⟩

/-- Holders and keys correspond one to one, so counting keys is counting holders. -/
theorem Attended.count_eq (h : Attended [] d) :
    d.orientation.count = d.listening.length + d.subscribed.length := by
  have hsize := h.wired.held.size_eq h.holders_nodup h.mem_holders_iff
  simpa [holders, Signal.count] using hsize

/-! Who is told. -/

/-- Those who listen through named subscriptions. -/
def attachedListeners (d : Deck) : List Listener :=
  d.subscribed.filterMap fun x => d.orientation.slots.get? x.2.key

theorem Attended.get?_of_listening (h : Attended [] d) (hs : s ∈ d.listening) :
    d.orientation.slots.get? (d.screens.get s).subscription.key =
      some (.tracker (d.screens.get s).tracker) := by
  obtain ⟨x, hx, halive, hdisposed⟩ := mem_listening.mp hs
  have hstands := h.wired.stands (line?_of_life? (life?_of_get? hx))
  simpa [Line.Stands, Life.line, Store.get_of_get? hx, Screen.life, halive, hdisposed] using hstands

/-- Those who are connected are the trackers of the screens that listen and the named subscriptions, each of
them once. -/
theorem Attended.values_perm (h : Attended [] d) : d.orientation.slots.values.Perm
    (d.listening.map (fun s => Listener.tracker (d.screens.get s).tracker) ++ d.attachedListeners) := by
  have hperm := h.wired.held.values_perm h.holders_nodup fun y hy => (h.mem_holders_iff y).mpr hy
  rw [holders, List.filterMap_append, List.filterMap_map, List.filterMap_map] at hperm
  have hscreens : d.listening.filterMap ((fun y => (holding (d.line? []) d.names.subscriptions y).bind
      d.orientation.slots.get?) ∘ Holder.screen) =
      d.listening.map fun s => Listener.tracker (d.screens.get s).tracker := by
    rw [← List.filterMap_eq_map]
    refine List.filterMap_congr fun s hs => ?_
    rw [Function.comp_apply, holding_screen hs]
    exact h.get?_of_listening hs
  have hnames : d.subscribed.filterMap ((fun y => (holding (d.line? []) d.names.subscriptions y).bind
      d.orientation.slots.get?) ∘ fun x => Holder.name x.1) = d.attachedListeners := by
    refine List.filterMap_congr fun x hx => ?_
    rw [Function.comp_apply, h.holding_name hx]
    rfl
  rwa [hscreens, hnames] at hperm

theorem Attended.tracker_of_mem (h : Attended [] d) {l : Listener}
    (hl : l ∈ d.orientation.slots.values) : ∃ t, l = .tracker t := by
  rcases List.mem_append.mp (h.values_perm.mem_iff.mp hl) with hl | hl
  · obtain ⟨s, -, rfl⟩ := List.mem_map.mp hl
    exact ⟨_, rfl⟩
  · obtain ⟨⟨n, o⟩, ho, hget⟩ := List.mem_filterMap.mp hl
    obtain ⟨hlookup, hactive⟩ := (mem_subscribed h).mp ho
    obtain ⟨t, ht, -⟩ := h.wired.attached hlookup hactive
    exact ⟨t, Option.some.inj (hget.symm.trans ht)⟩

end Deck

namespace Session

open Deck

theorem attended_start {setup : Setup} {start : Scene Deck} (h : setup.start = .ok start) :
    Attended [] start.state := by
  obtain ⟨settings, -, rfl⟩ := start_eq_ok h
  have hnew : (setup.deck settings).screens = {} ∧ (setup.deck settings).orientation.slots = {} ∧
      (setup.deck settings).names.subscriptions = [] ∧ (setup.deck settings).names.trackers = [] := by
    unfold Setup.deck
    cases setup.withPage <;> exact ⟨rfl, rfl, rfl, rfl⟩
  exact .start hnew.1 hnew.2.1 hnew.2.2.1 hnew.2.2.2

theorem attends_observeAll (steps : List (Via × Step)) (s : Scene Deck) :
    Attends s.state (observeAll steps s).2.state :=
  spans_observeAll (fun _ _ v _ => admits_attends v) s

theorem attended_observeAll {setup : Setup} {start : Scene Deck} (h : setup.start = .ok start)
    (steps : List (Via × Step)) : Attended [] (observeAll steps start).2.state :=
  (attends_observeAll steps start).attended (attended_start h)

end Session
end ScreenDeck
