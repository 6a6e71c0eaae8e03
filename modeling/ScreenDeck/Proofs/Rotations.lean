import ScreenDeck.Proofs.Disposal

/-! Rotations under a host that fails. A tracker lays the page out and posts its two records, or it fails
and has done nothing. In a notification its failure goes no further: the next listener is told all the
same, and finds the host as it is by then. -/

namespace ScreenDeck.Deck

open ScreenDeck.Action (Place Fits)
open Act (Composed)

variable {d e : Deck} {s u v : Scene Deck} {device : DeviceOrientation} {handle : Handle}
  {place : Place}

/-- A rotation that came to the orientation `o` has been carried out. Its two records reach whoever receives
records, and the page has the size for this orientation, unless that is not recognised. -/
structure CarriedOut (device : DeviceOrientation) (handle : Handle) (o : ScreenOrientation)
    (d e : Deck) : Prop where
  orientation : o.code = device.reported
  listed : ∀ raw, device = .ofRaw raw → device.Listed raw
  posted : ∃ x y, Broadcasts o.code x ∧ Addresses handle o.code y ∧
    e.outbox = d.outbox.map (· ++ [x, y])
  resized : ∀ size, device.laidOut d.contentSize = some size → e.page.map (·.size) = some size
  untouched : ¬ device.Recognised → e.page = d.page
  content : e.shownGrid = d.shownGrid
  bar : e.attachedBar = d.attachedBar
  others : e = { d with page := e.page, outbox := e.outbox }

/-- The records and the size are those that the lists give for the orientation. -/
theorem carriedOut_told (h : d.page.isSome) :
    CarriedOut device handle (.ofDevice device) d (d.told device [handle]) := by
  obtain ⟨page, hp⟩ := Option.isSome_iff_exists.mp h
  have hreacted : Reacted device [handle] d (d.told device [handle]) := reacted_told device [handle] d
  refine ⟨DeviceOrientation.code_ofDevice device, fun raw hraw => ?_, ?_, fun size hsize => ?_, fun hn => ?_,
    hreacted.content, hreacted.bar, hreacted.others⟩
  · exact hraw ▸ DeviceOrientation.listed_ofRaw raw
  · exact ⟨_, _, broadcasts_broadcast _, addresses_addressed handle _, by simp [told, reports]⟩
  · rw [hreacted.resized (List.cons_ne_nil _ _) hsize, hp, Option.map_some]
  · exact hreacted.untouched (.inr hn)

/-- Who fails the first check or the second has changed nothing yet. -/
theorem handleOrientation_cases (hc : Fits s.context place) (hp : place ≠ .helper)
    (hf : s.state.faults .pageSize ≠ .panic) (handle : Handle) (device : DeviceOrientation) :
    let r := handleOrientation handle device s
    (Rotates device s ∧ r.1 = .ok (.ofDevice device) ∧
      CarriedOut device handle (.ofDevice device) s.state r.2.state) ∨
    (¬ Rotates device s ∧ (∃ f, r.1 = .error (.failed f)) ∧ r.2.state = s.state) := by
  intro r
  have hcomposed : Composed Evolves (handleOrientation handle device) :=
    composed_handleOrientation (fun _ _ => admits_evolves _) handle
  by_cases h : Rotates device s
  · have hend := handleOrientation_rotated (s := s.flat) handle rfl h
    obtain ⟨hr, hd⟩ := ends_of_flat hc hp hcomposed hend
    refine .inl ⟨h, hr, ?_⟩
    rw [hd]
    exact carriedOut_told h.1.2
  · obtain ⟨f, hend⟩ := handleOrientation_refused (s := s.flat) handle rfl hf h
    obtain ⟨hr, hd⟩ := ends_of_flat hc hp hcomposed hend
    exact .inr ⟨h, ⟨f, hr⟩, hd⟩

/-! Notifications. -/

/-- What the turn of a listener comes to. -/
inductive Turn (device : DeviceOrientation) (s u : Scene Deck) : Listener → Prop
  | rotated {t : Ref .tracker} {o : ScreenOrientation} (ht : (s.state.trackers.get t).alive = true)
      (hr : (trackerHandle t device s).1 = .ok o)
      (hu : CarriedOut device (s.state.trackers.get t).handle o s.state u.state) :
      Turn device s u (.tracker t)
  | refused {t : Ref .tracker} {f : Failure} (ht : (s.state.trackers.get t).alive = true)
      (hr : (trackerHandle t device s).1 = .error (.failed f)) (hu : u.state = s.state) :
      Turn device s u (.tracker t)
  | gone {t : Ref .tracker} (ht : (s.state.trackers.get t).alive = false) (hu : u.state = s.state) :
      Turn device s u (.tracker t)
  | disposes {q : Ref .screen} (hu : u.state = (dispose q s).2.state) : Turn device s u (.disposer q)

/-- Turns one after the other. Before each of them the host may do something. -/
inductive Turns (host : Listener → Do Unit) (device : DeviceOrientation) :
    List Listener → Scene Deck → Scene Deck → Prop
  | done (s : Scene Deck) : Turns host device [] s s
  | turn {l : Listener} {ls : List Listener} {s u v : Scene Deck} (h : Turn device (host l s).2 u l)
      (rest : Turns host device ls u v) : Turns host device (l :: ls) s v

/-- A notification by a host that does something before each listener is told. -/
def notifyAmid (host : Listener → Do Unit) (device : DeviceOrientation) : Do Unit := do
  (← Act.state).orientation.audience.forM fun l => do
    host l
    receive device l

theorem notifyAmid_pure (device : DeviceOrientation) :
    notifyAmid (fun _ => pure ()) device = notifyOrientation device := rfl

/-- What the host does comes to an end, and it does not make the size of the page panic. -/
def EndsWell (place : Place) (host : Listener → Do Unit) : Prop :=
  ∀ l s, Fits s.context place → s.state.faults .pageSize ≠ .panic →
    (host l s).1 = .ok () ∧ Fits (host l s).2.context place ∧
      (host l s).2.state.faults .pageSize ≠ .panic

theorem receive_tracker_alike {t : Ref .tracker} (ht : (s.state.trackers.get t).alive = true) :
    (receive device (.tracker t) s).2.Alike (trackerHandle t device s).2 := by
  rw [receive, Act.bind_apply_ok (Act.state_apply s), if_pos ht, Act.bind_apply, Act.attempt_apply]
  rcases trackerHandle t device s with ⟨(_ | _ | _) | _, u⟩ <;> exact ⟨rfl, rfl⟩

section Fitting

variable (hc : Fits s.context place) (hp : place ≠ .helper) (hf : s.state.faults .pageSize ≠ .panic)
include hc hp hf

/-- A listener returns from its turn whatever comes of it, and leaves the host as it was. -/
theorem turn_receive (device : DeviceOrientation) (l : Listener) :
    let r := receive device l s
    r.1 = .ok () ∧ Turn device s r.2 l ∧ Fits r.2.context place ∧ r.2.state.faults = s.state.faults := by
  intro r
  have hcomposed : Composed Evolves (receive device l) := composed_receive (fun _ _ => admits_evolves _) l
  obtain ⟨e, hend, hheard⟩ := heard_receive (s := s.flat) rfl hf device l
  obtain ⟨hok, hstate⟩ := ends_of_flat hc hp hcomposed hend
  refine ⟨hok, ?_, (hcomposed.plain place s hc hp).fits, by rw [hstate, hheard.faults]; rfl⟩
  cases l with
  | disposer q => exact .disposes rfl
  | tracker t =>
    have hhandle : trackerHandle t device s =
        handleOrientation (s.state.trackers.get t).handle device s := Act.bind_apply_ok (Act.state_apply s)
    cases ht : (s.state.trackers.get t).alive with
    | false => exact .gone ht (ends_receive_dead ht).state
    | true =>
      have hsame : r.2.state = (trackerHandle t device s).2.state := (receive_tracker_alike ht).2
      have hcases := handleOrientation_cases hc hp hf (s.state.trackers.get t).handle device
      rw [← hhandle] at hcases
      rcases hcases with ⟨-, hr, hu⟩ | ⟨-, ⟨f, hr⟩, hu⟩
      · exact .rotated ht hr (hsame ▸ hu)
      · exact .refused ht hr (hsame.trans hu)

/-- Nobody's failure keeps those who come later from their turn. -/
theorem turns_forM {host : Listener → Do Unit} (hhost : EndsWell place host) (device : DeviceOrientation)
    (ls : List Listener) :
    let a : Do Unit := ls.forM fun l => do
      host l
      receive device l
    (a s).1 = .ok () ∧ Turns host device ls s (a s).2 := by
  induction ls generalizing s with
  | nil => exact ⟨rfl, .done s⟩
  | cons l ls ih =>
    obtain ⟨hok, hc', hf'⟩ := hhost l s hc hf
    obtain ⟨hok', hturn, hc'', hfaults⟩ := turn_receive hc' hp hf' device l
    obtain ⟨hrest, hturns⟩ := ih hc'' (by rwa [hfaults])
    have hfirst : (do host l; receive device l : Do Unit) s =
        (.ok (), (receive device l (host l s).2).2) := by
      rw [Act.bind_apply_ok (Prod.ext hok rfl)]
      exact Prod.ext hok' rfl
    intro a
    have hrun : a s = (ls.forM fun l => do host l; receive device l : Do Unit)
        (receive device l (host l s).2).2 := Act.bind_apply_ok hfirst
    rw [hrun]
    exact ⟨hrest, .turn hturn hturns⟩

/-- A rotation that fails leaves everything as it was, and one that succeeds has been carried out, which
it is exactly when the page tells its size and takes the new one, if there is one. In a notification, no
matter how the host changes from turn to turn, this holds of each tracker, and all have their turns. -/
theorem rotation_all_or_nothing (handle : Handle) (device : DeviceOrientation) :
    let r := handleOrientation handle device s
    (∀ e, r.1 = .error e → (∃ f, e = .failed f) ∧ r.2.state = s.state) ∧
      (∀ o, r.1 = .ok o → CarriedOut device handle o s.state r.2.state) ∧
      ((∃ o, r.1 = .ok o) ↔ Rotates device s) ∧
      ∀ host, EndsWell place host → (notifyAmid host device s).1 = .ok () ∧
        Turns host device s.state.orientation.audience s (notifyAmid host device s).2 := by
  intro r
  have hnotified (host : Listener → Do Unit) (hhost : EndsWell place host) :
      (notifyAmid host device s).1 = .ok () ∧
        Turns host device s.state.orientation.audience s (notifyAmid host device s).2 := by
    rw [notifyAmid, Act.bind_apply_ok (Act.state_apply s)]
    exact turns_forM hc hp hf hhost device _
  obtain ⟨h, hr, hu⟩ | ⟨h, ⟨f, hr⟩, hu⟩ := handleOrientation_cases hc hp hf handle device
  · refine ⟨fun e he => ?_, fun o ho => ?_, ⟨fun _ => h, fun _ => ⟨_, hr⟩⟩, hnotified⟩
    · cases hr.symm.trans he
    · cases hr.symm.trans ho
      exact hu
  · refine ⟨fun e he => ?_, fun o ho => ?_, ⟨?_, fun hrotates => absurd hrotates h⟩, hnotified⟩
    · cases hr.symm.trans he
      exact ⟨⟨f, rfl⟩, hu⟩
    · cases hr.symm.trans ho
    · rintro ⟨o, ho⟩
      cases hr.symm.trans ho

end Fitting

def panicsForFirst (l : Listener) : Do Unit :=
  Act.modifyState fun d => { d with
    faults := fun call => if call = .resizePage ∧ l = .tracker ⟨0⟩ then .panic else .pass }

/-- The rotation of the first tracker fails in the work. The second one rotates all the same. Only its records
are posted, and the page lies on its side. -/
theorem second_tracker_rotates :
    let s := Session.barOfFirst
    let t := (panicsForFirst (.tracker ⟨0⟩) s).2
    let r := notifyAmid panicsForFirst .landscapeLeft s
    (handleOrientation ⟨1⟩ .landscapeLeft t).1 = .error (.failed (.dispatch .workPanicked)) ∧
      (handleOrientation ⟨1⟩ .landscapeLeft t).2.state = t.state ∧
      EndsWell .free panicsForFirst ∧ r.1 = .ok () ∧
      Turns panicsForFirst .landscapeLeft [.tracker ⟨0⟩, .tracker ⟨1⟩] s r.2 ∧
      r.2.state.outbox =
        some [⟨none, ⟨[45, 0, 0, 0, 4, 0, 0, 0]⟩⟩, ⟨some 23, ⟨[21, 0, 0, 0, 2, 0, 0, 0, 4, 0, 0, 0]⟩⟩] ∧
      s.state.page.map (·.size) = some ⟨⟨0x43f00000⟩, ⟨0x44480000⟩⟩ ∧
      r.2.state.page.map (·.size) = some ⟨⟨0x44480000⟩, ⟨0x43f00000⟩⟩ ∧
      (notifyOrientation .landscapeLeft s).1 = .ok () := by
  intro s t r
  have hc : Fits s.context .free := .inl rfl
  have hct : Fits t.context .free := .inl rfl
  have hhost : EndsWell .free panicsForFirst := fun l s hs _ =>
    ⟨rfl, hs, by simp [panicsForFirst, Act.modifyState_apply]⟩
  have hpure : EndsWell .free fun _ => pure () := fun l s hs hf => ⟨rfl, hs, hf⟩
  have he : (handleOrientation ⟨1⟩ .landscapeLeft t).1 = .error (.failed (.dispatch .workPanicked)) := rfl
  obtain ⟨hfailed, -, -, -⟩ := rotation_all_or_nothing hct (by decide) (by decide) ⟨1⟩ .landscapeLeft
  obtain ⟨-, -, -, hnotified⟩ := rotation_all_or_nothing hc (by decide) (by decide) ⟨1⟩ .landscapeLeft
  obtain ⟨hok, hturns⟩ := hnotified panicsForFirst hhost
  obtain ⟨hplain, -⟩ := hnotified _ hpure
  rw [notifyAmid_pure] at hplain
  exact ⟨he, (hfailed _ he).2, hhost, hok, hturns, by decide +kernel, by decide +kernel, by decide +kernel,
    hplain⟩

end ScreenDeck.Deck
