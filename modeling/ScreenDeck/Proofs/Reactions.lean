import ScreenDeck.Proofs.PageCalls
import ScreenDeck.Proofs.PlainActions
import ScreenDeck.Proofs.Reports

/-! What trackers do when a frame tells them of an orientation. All of them find the same page and
the same context, so they all react or none does, and each that reacts posts its two records. -/

namespace ScreenDeck.Deck

open ScreenDeck.Action (Place Fits)

/-- How an action ends and what it leaves behind but for notices. -/
structure Ends {α : Type} (a : Do α) (s : Scene Deck) (r : Except Abort α) (d : Deck) : Prop where
  result : (a s).1 = r
  context : (a s).2.context = s.context
  state : (a s).2.state = d

namespace Ends

variable {α β : Type} {a : Do α} {f : α → Do β} {s : Scene Deck} {d e : Deck}

theorem follow {x : α} {r : Except Abort β} (h : Ends a s (.ok x) d) (hf : Ends (f x) (a s).2 r e) :
    Ends (a >>= f) s r e := by
  have hrun : (a >>= f) s = f x (a s).2 := Act.bind_apply_ok (Prod.ext h.result rfl)
  exact ⟨by rw [hrun, hf.result], by rw [hrun, hf.context, h.context], by rw [hrun, hf.state]⟩

theorem bind {x : α} {r : Except Abort β} (h : Ends a s (.ok x) d)
    (hf : ∀ t : Scene Deck, t.context = s.context → t.state = d → Ends (f x) t r e) :
    Ends (a >>= f) s r e := h.follow (hf _ h.context h.state)

theorem bind_error {x : Abort} (h : Ends a s (.error x) d) : Ends (a >>= f) s (.error x) d := by
  have hrun : (a >>= f) s = (.error x, (a s).2) := by
    rw [Act.bind_apply]
    rw [show a s = (.error x, (a s).2) from Prod.ext h.result rfl]
  exact ⟨by rw [hrun], by rw [hrun, h.context], by rw [hrun, h.state]⟩

theorem of_state {r : Except Abort α} (h : Ends a s r d) (hd : d = e) : Ends a s r e := hd ▸ h

theorem pure (x : α) : Ends (Pure.pure x) s (.ok x) s.state := ⟨rfl, rfl, rfl⟩

theorem note (n : Notice) : Ends (Act.note n) s (.ok ()) s.state := ⟨rfl, rfl, rfl⟩

theorem read {f : Deck → Do α} {r : Except Abort α} (h : Ends (f s.state) s r d) :
    Ends (Act.state >>= f) s r d := by
  have hrun : (Act.state >>= f) s = f s.state s := Act.bind_apply_ok (Act.state_apply s)
  exact ⟨by rw [hrun, h.result], by rw [hrun, h.context], by rw [hrun, h.state]⟩

theorem attempt {r : Except Abort α} (h : Ends a s r d) : Ends (Act.attempt a) s (.ok r) d :=
  ⟨congrArg Except.ok h.result, h.context, h.state⟩

end Ends

variable {device : DeviceOrientation} {handle : Handle} {handles : List Handle} {d : Deck}
  {s : Scene Deck}

def LetsReflow (d : Deck) : Prop := d.faults .pageSize = .pass ∧ d.faults .resizePage = .pass

instance (d : Deck) : Decidable d.LetsReflow := inferInstanceAs (Decidable (_ ∧ _))

/-- Nothing comes of the orientation. -/
def Silent (device : DeviceOrientation) (s : Scene Deck) : Prop :=
  s.state.page = none ∨ device.Recognised ∧ s.context.running = false

instance (device : DeviceOrientation) (s : Scene Deck) : Decidable (Silent device s) :=
  inferInstanceAs (Decidable (_ ∨ _))

/-- A tracker comes to report: the page tells its size, and takes the new one if there is to be one. -/
def Rotates (device : DeviceOrientation) (s : Scene Deck) : Prop :=
  s.state.Takes .pageSize ∧
    (device.Recognised → s.context.running = true ∧ s.state.Takes .resizePage)

instance (device : DeviceOrientation) (s : Scene Deck) : Decidable (Rotates device s) :=
  inferInstanceAs (Decidable (_ ∧ (_ → _)))

theorem LetsReflow.silent_iff (hf : s.state.LetsReflow) : Silent device s ↔ ¬ Rotates device s := by
  cases hp : s.state.page <;> simp [Silent, Rotates, Takes, hf.1, hf.2, hp]

theorem LetsReflow.pageSize_ne_panic (hf : d.LetsReflow) : d.faults .pageSize ≠ .panic := by
  rw [hf.1]
  exact nofun

def reflow (device : DeviceOrientation) (content : Size) (page : Page) : Page :=
  match device.group with
  | some group => { page with size := group.pageSize content }
  | none => page

def reports (device : DeviceOrientation) (handle : Handle) : List Posted :=
  let o := ScreenOrientation.ofDevice device
  [⟨none, Event.broadcast o⟩, ⟨some Event.widgetCategory, Event.addressed handle o⟩]

/-- The deck after trackers with these handles have reacted one after the other. -/
def told (device : DeviceOrientation) (handles : List Handle) (d : Deck) : Deck :=
  { d with
    page := if handles = [] then d.page else d.page.map (reflow device d.contentSize)
    outbox := d.outbox.map (· ++ handles.flatMap (reports device)) }

theorem reported_reports (device : DeviceOrientation) (handles : List Handle) :
    Reported device.reported handles (handles.flatMap (reports device)) := by
  rw [← DeviceOrientation.code_ofDevice]
  induction handles with
  | nil => exact .nil
  | cons handle handles ih => exact .cons (broadcasts_broadcast _) (addresses_addressed handle _) ih

theorem reflow_reflow (device : DeviceOrientation) (content : Size) (page : Page) :
    reflow device content (reflow device content page) = reflow device content page := by
  unfold reflow
  cases device.group <;> rfl

theorem told_nil (device : DeviceOrientation) (d : Deck) : d.told device [] = d := by
  have houtbox : d.outbox.map (· ++ []) = d.outbox := by simp
  rw [told, if_pos rfl, List.flatMap_nil, houtbox]

/-- The page is laid out from the content, so that doing it again changes nothing. -/
theorem told_cons (device : DeviceOrientation) (handle : Handle) (handles : List Handle) (d : Deck) :
    d.told device (handle :: handles) = (d.told device [handle]).told device handles := by
  by_cases hn : handles = []
  · subst hn
    rw [told_nil]
  · have hpage : (d.page.map (reflow device d.contentSize)).map (reflow device d.contentSize) =
        d.page.map (reflow device d.contentSize) := by
      rw [Option.map_map]
      exact congrArg (Option.map · _) (funext fun page => reflow_reflow device _ page)
    cases ho : d.outbox <;> simp [told, hn, hpage, ho]

theorem told_append (device : DeviceOrientation) (as bs : List Handle) (d : Deck) :
    d.told device (as ++ bs) = (d.told device as).told device bs := by
  induction as generalizing d with
  | nil => rw [told_nil, List.nil_append]
  | cons a as ih => rw [List.cons_append, told_cons, ih, ← told_cons]

theorem page_told_eq_none : (d.told device handles).page = none ↔ d.page = none := by
  unfold told
  split <;> simp

/-! One tracker. -/

theorem post_apply (category : Option Int32) (record : Record) (s : Scene Deck) :
    post category record s = match s.state.outbox with
      | some posted =>
        (.ok (), { s with state := { s.state with outbox := some (posted ++ [⟨category, record⟩]) } })
      | none => (.ok (), { s with notices := s.notices ++ [.eventDiscarded] }) := by
  rw [post, Act.bind_apply_ok (Act.state_apply s)]
  cases s.state.outbox <;> rfl

/-- A record that nobody receives is discarded with a notice. -/
theorem ends_post (category : Option Int32) (record : Record) : Ends (post category record) s (.ok ())
    { s.state with outbox := s.state.outbox.map (· ++ [⟨category, record⟩]) } := by
  have hpost := post_apply category record s
  cases ho : s.state.outbox with
  | none =>
    have hsame : { s.state with
        outbox := s.state.outbox.map (· ++ [(⟨category, record⟩ : Posted)]) } = s.state := by
      rw [ho, Option.map_none, ← ho]
    rw [ho] at hpost hsame
    rw [hsame]
    exact ⟨by rw [hpost], by rw [hpost], by rw [hpost]⟩
  | some posted =>
    rw [ho] at hpost
    exact ⟨by rw [hpost], by rw [hpost], by rw [hpost]; rfl⟩

theorem ends_pageSize (s : Scene Deck) : Ends (discard pageSize) s
    (if s.state.Takes .pageSize then .ok () else .error (s.state.pageRefusal .pageSize)) s.state := by
  have hsize : (discard pageSize : Do Unit) s =
      (if s.state.Takes .pageSize then .ok () else .error (s.state.pageRefusal .pageSize), s) := by
    change (pageSize >>= fun _ => pure ()) s = _
    rw [pageSize, Act.bind_apply, Act.bind_apply, consult_apply]
    cases hf : s.state.faults .pageSize with
    | refuse => simp [Takes, pageRefusal, hf]
    | panic => simp [Takes, pageRefusal, hf]
    | pass =>
      cases hp : s.state.page <;> simp [Takes, pageRefusal, hf, hp, activePage, Act.bind_apply,
        Act.state_apply, Act.fail_apply, Act.pure_apply]
  exact ⟨by rw [hsize], by rw [hsize], by rw [hsize]⟩

theorem ends_resizePage (hm : s.context.mode = .inPlace) (size : Size) :
    Ends (Act.runSync (resizePage size)) s
      (if s.context.running then
        if s.state.Takes .resizePage then .ok ()
        else Act.containment (.error (s.state.pageRefusal .resizePage))
      else .error (.failed (.dispatch .stopped)))
      (if s.context.running = true ∧ s.state.Takes .resizePage then
        { s.state with page := s.state.page.map fun page => { page with size } }
      else s.state) := by
  cases hr : s.context.running with
  | false =>
    have hstopped : Act.runSync (resizePage size) s = _ := Act.runSync_apply_of_stopped hr
    exact ⟨by rw [hstopped]; rfl, by rw [hstopped], by rw [hstopped]; simp⟩
  | true =>
    have hrun : Act.runSync (resizePage size) s = Act.contained (resizePage size) s :=
      Act.runSync_apply_of_home hr (.inl hm)
    have hresize : resizePage size s = _ := consulted_apply .resizePage _ s
    obtain ⟨hcontext, hstate⟩ := Act.contained_alike (resizePage size) s
    rw [hresize] at hcontext hstate
    refine ⟨?_, ?_, ?_⟩
    · rw [hrun, Act.contained_fst, hresize]
      split <;> rfl
    · rw [hrun, hcontext]
      split <;> rfl
    · rw [hrun, hstate]
      by_cases ht : s.state.Takes .resizePage <;> simp [ht]

theorem ends_report (device : DeviceOrientation) (handle : Handle) (s : Scene Deck) :
    Ends (do
      Act.note .orientationChanged
      postBroadcast (.ofDevice device)
      postAddressed handle (.ofDevice device)
      return ScreenOrientation.ofDevice device) s (.ok (.ofDevice device))
      { s.state with outbox := s.state.outbox.map (· ++ reports device handle) } := by
  refine (Ends.note _).bind fun t _ ht => (ends_post _ _).bind fun u _ hu =>
    (ends_post _ _).bind fun v _ hv => ?_
  have hstate : v.state = { s.state with outbox := s.state.outbox.map (· ++ reports device handle) } := by
    rw [hv, hu, ht]
    cases s.state.outbox <;> simp [reports]
  exact ⟨rfl, rfl, hstate⟩

/-- Where the page does not tell its size, or does not take the new one, nothing has been done. -/
theorem handleOrientation_refused (handle : Handle) (hm : s.context.mode = .inPlace)
    (hf : s.state.faults .pageSize ≠ .panic) (h : ¬ Rotates device s) :
    ∃ f, Ends (handleOrientation handle device) s (.error (.failed f)) s.state := by
  have hsize := ends_pageSize s
  by_cases hp : s.state.Takes .pageSize
  · obtain ⟨hgroup, hno⟩ := Classical.not_imp.mp fun hresize => h ⟨hp, hresize⟩
    obtain ⟨group, hgroup⟩ := Option.isSome_iff_exists.mp (DeviceOrientation.isSome_group_iff.mpr hgroup)
    rw [if_pos hp] at hsize
    have hresize {t : Scene Deck} (hc : t.context = s.context) (ht : t.state = s.state) (size : Size) :
        ∃ f, Ends (Act.runSync (resizePage size)) t (.error (.failed f)) s.state := by
      have hend := ends_resizePage (s := t) (by rw [hc, hm]) size
      rw [hc, ht, if_neg hno] at hend
      cases hr : s.context.running with
      | false => exact ⟨_, by simpa [hr] using hend⟩
      | true =>
        rw [hr, if_pos rfl, if_neg fun htakes => hno ⟨hr, htakes⟩] at hend
        obtain ⟨f, hf⟩ := containment_pageRefusal Unit s.state .resizePage
        exact ⟨f, hf ▸ hend⟩
    obtain ⟨f, hend⟩ := hresize hsize.context hsize.state (group.pageSize s.state.contentSize)
    refine ⟨f, hsize.follow ?_⟩
    simp only [hgroup]
    refine Ends.read ?_
    rw [hsize.state]
    exact hend.bind_error
  · have hrefusal : ∃ f, s.state.pageRefusal .pageSize = .failed f := by
      unfold pageRefusal
      cases hfault : s.state.faults .pageSize with
      | panic => exact absurd hfault hf
      | _ => exact ⟨_, rfl⟩
    obtain ⟨f, hrefusal⟩ := hrefusal
    rw [if_neg hp, hrefusal] at hsize
    exact ⟨f, hsize.bind_error⟩

/-- The page is laid out before the first record is posted. -/
theorem handleOrientation_rotated (handle : Handle) (hm : s.context.mode = .inPlace)
    (h : Rotates device s) : Ends (handleOrientation handle device) s (.ok (.ofDevice device))
      (s.state.told device [handle]) := by
  obtain ⟨hp, hresize⟩ := h
  obtain ⟨page, hpage⟩ := Option.isSome_iff_exists.mp hp.2
  have hsize := ends_pageSize s
  rw [if_pos hp] at hsize
  refine hsize.bind fun t hc ht => ?_
  cases hg : device.group with
  | none =>
    refine (Ends.note _).bind fun u _ hu => ?_
    have hreport := ends_report device handle u
    have htold : s.state.told device [handle] =
        { s.state with outbox := s.state.outbox.map (· ++ reports device handle) } := by
      simp [told, hpage, reflow, hg]
    exact hreport.of_state (by rw [htold, hu, ht])
  | some group =>
    obtain ⟨hon, htakes⟩ := hresize (DeviceOrientation.isSome_group_iff.mp (by rw [hg]; rfl))
    have hend := ends_resizePage (s := t) (by rw [hc, hm]) (group.pageSize t.state.contentSize)
    rw [hc, ht, hon, if_pos rfl, if_pos htakes, if_pos ⟨rfl, htakes⟩] at hend
    rw [← ht] at hend
    refine Ends.read (hend.bind fun v _ hv => ?_)
    have hreport := ends_report device handle v
    have htold : s.state.told device [handle] =
        { v.state with outbox := v.state.outbox.map (· ++ reports device handle) } := by
      rw [hv, ht]
      simp [told, hpage, reflow, hg]
    exact hreport.of_state htold.symm

/-! All who are told. -/

/-- The handle under which a listener reacts, unless its tracker is gone. -/
def hearer? (d : Deck) : Listener → Option Handle
  | .tracker t => if (d.trackers.get t).alive then some (d.trackers.get t).handle else none
  | .disposer _ => none

def hearers (d : Deck) (ls : List Listener) : List Handle := ls.filterMap d.hearer?

theorem silent_told {t : Scene Deck} (hc : t.context = s.context)
    (ht : t.state = s.state.told device handles) : Silent device t ↔ Silent device s := by
  rw [Silent, Silent, hc, ht, page_told_eq_none]

theorem ends_receive_dead {r : Ref .tracker} (h : (s.state.trackers.get r).alive = false) :
    Ends (receive device (.tracker r)) s (.ok ()) s.state := by
  refine Ends.read ?_
  rw [h]
  exact .pure _

theorem ends_receive_alive {r : Ref .tracker} (h : (s.state.trackers.get r).alive = true) {d : Deck}
    {e : Except Failure ScreenOrientation}
    (hend : Ends (handleOrientation (s.state.trackers.get r).handle device) s (e.mapError .failed) d) :
    Ends (receive device (.tracker r)) s (.ok ()) d := by
  refine Ends.read ?_
  rw [if_pos h]
  have hhandle : Ends (trackerHandle r device) s (e.mapError .failed) d := Ends.read hend
  cases e with
  | error f => exact hhandle.attempt.bind fun u _ hu => (Ends.note _).of_state hu
  | ok o => exact hhandle.attempt.bind fun u _ hu => ⟨rfl, rfl, hu⟩

/-- The failure of a tracker goes no further. -/
theorem ends_receive (hm : s.context.mode = .inPlace) (hf : s.state.faults .pageSize ≠ .panic)
    (r : Ref .tracker) : Ends (receive device (.tracker r)) s (.ok ())
      (if Rotates device s then s.state.told device (s.state.hearers [.tracker r]) else s.state) := by
  cases ha : (s.state.trackers.get r).alive with
  | false =>
    have hhear : s.state.hearers [.tracker r] = [] := by simp [hearers, hearer?, ha]
    rw [hhear, told_nil, ite_self]
    exact ends_receive_dead ha
  | true =>
    have hhear : s.state.hearers [.tracker r] = [(s.state.trackers.get r).handle] := by
      simp [hearers, hearer?, ha]
    by_cases h : Rotates device s
    · rw [if_pos h, hhear]
      exact ends_receive_alive (e := .ok _) ha (handleOrientation_rotated _ hm h)
    · obtain ⟨f, hend⟩ := handleOrientation_refused (s.state.trackers.get r).handle hm hf h
      rw [if_neg h]
      exact ends_receive_alive (e := .error f) ha hend

theorem receive_inline (hm : s.context.mode = .inPlace) (hf : s.state.LetsReflow)
    (r : Ref .tracker) : Ends (receive device (.tracker r)) s (.ok ())
      (if Silent device s then s.state else s.state.told device (s.state.hearers [.tracker r])) := by
  have hend : Ends (receive device (.tracker r)) s (.ok ()) _ := ends_receive hm hf.pageSize_ne_panic r
  simpa only [hf.silent_iff, ite_not] using hend

/-- No tracker keeps the others from reacting. -/
theorem forM_receive_inline (hm : s.context.mode = .inPlace) (hf : s.state.LetsReflow)
    {ls : List Listener} (hl : ∀ l ∈ ls, ∃ t, l = .tracker t) :
    Ends (ls.forM (receive device)) s (.ok ())
      (if Silent device s then s.state else s.state.told device (s.state.hearers ls)) := by
  induction ls generalizing s with
  | nil =>
    have hhear : s.state.hearers [] = [] := rfl
    rw [hhear, told_nil, ite_self]
    exact .pure ()
  | cons l ls ih =>
    obtain ⟨r, rfl⟩ := hl l List.mem_cons_self
    have hrest := fun l h => hl l (List.mem_cons_of_mem _ h)
    refine (receive_inline hm hf r).bind fun t hc ht => ?_
    by_cases hs : Silent device s
    · rw [if_pos hs] at ht ⊢
      have hend := ih (s := t) (by rw [hc, hm]) (by rw [ht]; exact hf) hrest
      have hst : Silent device t := by rwa [Silent, hc, ht]
      rw [if_pos hst] at hend
      exact hend.of_state ht
    · rw [if_neg hs] at ht ⊢
      have hend := ih (s := t) (by rw [hc, hm]) (by rw [ht]; exact hf) hrest
      have hst : ¬ Silent device t := fun h => hs ((silent_told hc ht).mp h)
      rw [if_neg hst, ht] at hend
      have hsplit : s.state.hearers (.tracker r :: ls) =
          s.state.hearers [.tracker r] ++ s.state.hearers ls := List.filterMap_append (l := [_])
      refine hend.of_state ?_
      rw [hsplit, told_append]
      rfl

/-- Trackers that are gone do nothing, on whichever context. -/
theorem forM_receive_dead {ls : List Listener}
    (hl : ∀ l ∈ ls, ∃ t, l = .tracker t ∧ (s.state.trackers.get t).alive = false) :
    Ends (ls.forM (receive device)) s (.ok ()) s.state := by
  induction ls generalizing s with
  | nil => exact .pure ()
  | cons l ls ih =>
    obtain ⟨r, rfl, hr⟩ := hl l List.mem_cons_self
    refine (ends_receive_dead hr).bind fun t _ ht => ?_
    have hrest := ih (s := t) (by rw [ht]; exact fun l h => hl l (List.mem_cons_of_mem _ h))
    exact hrest.of_state ht

theorem notifyOrientation_unheard
    (hl : ∀ l ∈ s.state.orientation.audience, ∃ t, l = .tracker t)
    (hn : s.state.hearers s.state.orientation.audience = []) :
    (notifyOrientation device s).2.state = s.state := by
  have hdead : ∀ l ∈ s.state.orientation.audience,
      ∃ t, l = .tracker t ∧ (s.state.trackers.get t).alive = false := by
    intro l hmem
    obtain ⟨t, rfl⟩ := hl l hmem
    have hnone := List.filterMap_eq_nil_iff.mp hn _ hmem
    exact ⟨t, rfl, by simpa [hearer?] using hnone⟩
  exact (Ends.read (forM_receive_dead hdead) : Ends (notifyOrientation device) s _ _).state

/-! On any context that fits. -/

section Fitting

variable {place : Place} (hc : Fits s.context place) (hp : place ≠ .helper)
include hc hp

theorem ends_of_flat {α : Type} {a : Do α} {r : Except Abort α} (ha : Act.Composed Evolves a)
    (h : Ends a s.flat r d) : (a s).1 = r ∧ (a s).2.state = d := by
  have htracks := ha.plain place s hc hp
  exact ⟨htracks.result.symm.trans h.result,
    (congrArg Scene.state htracks.flat).symm.trans h.state⟩

/-- All who are told react, or none of them does. -/
theorem notifyOrientation_told (device : DeviceOrientation) (hf : s.state.LetsReflow)
    (hl : ∀ l ∈ s.state.orientation.audience, ∃ t, l = .tracker t) :
    (notifyOrientation device s).1 = .ok () ∧ (notifyOrientation device s).2.state =
      if Silent device s then s.state
      else s.state.told device (s.state.hearers s.state.orientation.audience) := by
  have hend : Ends (notifyOrientation device) s.flat (.ok ()) _ :=
    Ends.read (forM_receive_inline (s := s.flat) rfl hf hl)
  exact ends_of_flat hc hp (composed_notifyOrientation fun _ _ => admits_evolves _) hend

theorem handleOrientation_told (device : DeviceOrientation) (hf : s.state.LetsReflow) (handle : Handle) :
    (handleOrientation handle device s).2.state =
      if Silent device s then s.state else s.state.told device [handle] := by
  have hcomposed : Act.Composed Evolves (handleOrientation handle device) :=
    composed_handleOrientation (fun _ _ => admits_evolves _) handle
  by_cases h : Rotates device s
  · have hend := handleOrientation_rotated (s := s.flat) handle rfl h
    rw [if_neg fun hs => hf.silent_iff.mp hs h]
    exact (ends_of_flat hc hp hcomposed hend).2
  · obtain ⟨f, hend⟩ := handleOrientation_refused (s := s.flat) handle rfl hf.pageSize_ne_panic h
    rw [if_pos (hf.silent_iff.mpr h)]
    exact (ends_of_flat hc hp hcomposed hend).2

end Fitting

end ScreenDeck.Deck
