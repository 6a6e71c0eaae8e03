import ScreenDeck.Proofs.ChildrenInStep

/-! Children that are taken out. A removal finds its child by place or by handle, but what goes from
the list is the first entry of that child, and from the grid the first cell with its view. -/

namespace ScreenDeck

section Lists

variable {α β : Type} {xs : List α} {a : α} {i : Nat}

/-- No other entry lies between an earlier one that is the same and this one. -/
def InFirstRun (xs : List α) (i : Nat) : Prop :=
  ∀ j k, j ≤ k → k ≤ i → xs[j]? = xs[i]? → xs[k]? = xs[i]?

instance [DecidableEq α] (xs : List α) (i : Nat) : Decidable (InFirstRun xs i) :=
  decidable_of_iff (∀ k ≤ i, ∀ j ≤ k, xs[j]? = xs[i]? → xs[k]? = xs[i]?)
    ⟨fun h j k hjk hk => h k hk j hjk, fun h k hk j hjk => h j k hjk hk⟩

theorem inFirstRun_zero (xs : List α) : InFirstRun xs 0 := by
  intro j k _ hk _
  rw [Nat.le_zero.mp hk]

theorem inFirstRun_cons_succ_of_ne {x : α} (hx : x ≠ a) (hi : xs[i]? = some a) :
    InFirstRun (x :: xs) (i + 1) ↔ InFirstRun xs i := by
  constructor
  · intro h j k hjk hk hj
    have hs := h (j + 1) (k + 1) (by omega) (by omega)
    simp only [List.getElem?_cons_succ] at hs
    exact hs hj
  · intro h j k hjk hk hj
    -- The run begins behind `x`, which is another entry.
    rw [List.getElem?_cons_succ, hi] at hj ⊢
    cases j with
    | zero => simp [hx] at hj
    | succ j =>
      cases k with
      | zero => omega
      | succ k =>
        rw [List.getElem?_cons_succ] at hj ⊢
        exact (h j k (by omega) (by omega) (hj.trans hi.symm)).trans hi

theorem inFirstRun_cons_succ_self (hi : xs[i]? = some a) :
    InFirstRun (a :: xs) (i + 1) ↔ ∀ k ≤ i, xs[k]? = some a := by
  constructor
  · intro h k hk
    have hs := h 0 (k + 1) (by omega) (by omega)
    simp only [List.getElem?_cons_succ, hi] at hs
    exact hs rfl
  · intro h j k _ hk _
    rw [List.getElem?_cons_succ, hi]
    cases k with
    | zero => rfl
    | succ k => exact h k (by omega)

/-- To move an entry to the front changes nothing exactly if all entries before it are the same. -/
theorem cons_eraseIdx_eq_self_iff (hi : xs[i]? = some a) :
    a :: xs.eraseIdx i = xs ↔ ∀ k ≤ i, xs[k]? = some a := by
  induction xs generalizing i with
  | nil => simp at hi
  | cons x xs ih =>
    cases i with
    | zero =>
      obtain rfl : x = a := by simpa using hi
      simp
    | succ i =>
      rw [List.getElem?_cons_succ] at hi
      rw [List.eraseIdx_cons_succ, List.cons.injEq]
      constructor
      · rintro ⟨rfl, h⟩ k hk
        cases k with
        | zero => rfl
        | succ k => exact (ih hi).mp h k (by omega)
      · intro h
        obtain rfl : x = a := by simpa using h 0 (by omega)
        exact ⟨rfl, (ih hi).mpr fun k hk => by simpa using h (k + 1) (by omega)⟩

variable [DecidableEq α] [DecidableEq β]

/-- The first entry that is the same may go in place of this one as long as they are in one run. -/
theorem erase_eq_eraseIdx_iff (hi : xs[i]? = some a) :
    xs.erase a = xs.eraseIdx i ↔ InFirstRun xs i := by
  induction xs generalizing i with
  | nil => simp at hi
  | cons x xs ih =>
    cases i with
    | zero =>
      obtain rfl : x = a := by simpa using hi
      simp [inFirstRun_zero]
    | succ i =>
      rw [List.getElem?_cons_succ] at hi
      rw [List.eraseIdx_cons_succ]
      by_cases hx : x = a
      · subst hx
        rw [List.erase_cons_head, inFirstRun_cons_succ_self hi, ← cons_eraseIdx_eq_self_iff hi, eq_comm]
      · rw [List.erase_cons_tail (by simpa using hx), List.cons.injEq, inFirstRun_cons_succ_of_ne hx hi,
          ← ih hi, and_iff_right rfl]

/-- What a search finds first is the first entry that is the same. -/
theorem erase_eq_eraseIdx_of_find? {p : α → Bool} (h : xs.find? p = some a) :
    xs.erase a = xs.eraseIdx (xs.findIdx p) := by
  induction xs with
  | nil => cases h
  | cons x xs ih =>
    by_cases hp : p x = true
    · obtain rfl : x = a := by simpa [hp] using h
      simp [List.findIdx_cons, hp]
    · have hx : x ≠ a := by
        rintro rfl
        exact hp (List.find?_some h)
      rw [List.find?_cons_of_neg hp] at h
      rw [List.erase_cons_tail (by simpa using hx), ih h, List.findIdx_cons]
      simp [hp]

/-- Only at the end does it show that the two lists are searched by different keys. -/
theorem getLast?_erase_map_iff {f : α → β} (ha : a ∈ xs) :
    ((xs.map f).erase (f a)).getLast? = ((xs.erase a).map f).getLast? ↔
      ¬ ∃ rest, xs = rest ++ [a] ∧ a ∉ rest ∧ f a ∈ rest.map f ∧
        (rest.map f).getLast? ≠ some (f a) := by
  obtain ⟨rest, b, rfl⟩ : ∃ rest b, xs = rest ++ [b] := by
    rcases List.eq_nil_or_concat xs with rfl | ⟨rest, b, rfl⟩
    · cases ha
    · exact ⟨rest, b, List.concat_eq_append⟩
  rw [List.map_append]
  by_cases hr : a ∈ rest
  · have hf : f a ∈ rest.map f := List.mem_map_of_mem hr
    rw [List.erase_append_left _ hf, List.erase_append_left _ hr, List.map_append]
    simp only [List.map_cons, List.map_nil, List.getLast?_concat, true_iff]
    rintro ⟨rest', he, hn, -⟩
    obtain rfl := (List.append_inj' he rfl).1
    exact hn hr
  · obtain rfl : a = b := by simpa [hr] using ha
    have hlist : (rest ++ [a]).erase a = rest := by simp [List.erase_append_right _ hr]
    rw [hlist]
    by_cases hf : f a ∈ rest.map f
    · rw [List.erase_append_left _ hf]
      simp only [List.map_cons, List.map_nil, List.getLast?_concat]
      constructor
      · rintro h ⟨rest', he, -, -, hne⟩
        obtain rfl := (List.append_inj' he rfl).1
        exact hne h.symm
      · intro h
        refine Decidable.not_not.mp fun hne => h ⟨rest, rfl, hr, hf, ?_⟩
        exact fun he => hne he.symm
    · rw [List.erase_append_right _ hf]
      simp only [List.map_cons, List.map_nil, List.erase_cons_head, List.append_nil, true_iff]
      rintro ⟨rest', he, -, hf', -⟩
      obtain rfl := (List.append_inj' he rfl).1
      exact hf hf'

end Lists

namespace Deck

variable {d e : Deck} {t : Ref .tree} {c : Child} {s : Scene Deck}

/-- The last child is the one on display. -/
def ShowsLast (t : Ref .tree) (d : Deck) : Prop :=
  (d.gridOf t).visibleView? = (d.children t).getLast?.map d.viewOf

/-- The child is listed at the end only, and its view is that of another one, but not of the one right
before it. -/
def Overlaid (t : Ref .tree) (c : Child) (d : Deck) : Prop :=
  ∃ rest, d.children t = rest ++ [c] ∧ c ∉ rest ∧ d.viewOf c ∈ rest.map d.viewOf ∧
    (rest.map d.viewOf).getLast? ≠ some (d.viewOf c)

/-- What is left of the children when one of them has been taken out. -/
structure TakenOut (t : Ref .tree) (c : Child) (d e : Deck) : Prop where
  children : e.children t = (d.children t).erase c
  views : ∀ a, e.viewOf a = d.viewOf a
  visible : (e.gridOf t).visibleView? = ((d.gridOf t).views.erase (d.viewOf c)).getLast?

theorem Kept.takenOut {log : Log} (h : Kept t d log e) (c : Child) : TakenOut t c e (e.removed t c) where
  children := h.tended.children_removed c
  views := h.tended.viewOf_removed c
  visible := by
    rw [h.tended.gridOf_removed, h.inStep.pinned.detach_eq, Grid.visibleView?_eq, Grid.views_removeView]

theorem TakenOut.showsLast_iff (h : TakenOut t c d e) (hc : c ∈ d.children t)
    (ho : (d.children t).map d.viewOf = (d.gridOf t).views) : ShowsLast t e ↔ ¬ Overlaid t c d := by
  have hlast : (e.children t).getLast?.map e.viewOf = (((d.children t).erase c).map d.viewOf).getLast? := by
    rw [h.children, funext h.views, List.getLast?_map]
  rw [ShowsLast, hlast, h.visible, ← ho, getLast?_erase_map_iff hc]
  rfl

theorem dropFound_some_apply (hs : s.context.Serves) (t : Ref .tree) (c : Child) :
    dropFound t (some c) s = (.ok (some c), { s with
      context := s.context.outside s.context.inside, state := s.state.removed t c }) := by
  rw [dropFound, Act.bind_apply, dropChild_apply, if_pos hs]
  rfl

/-- With a view for each child, cells and children stand in the same order. -/
theorem Kept.showsLast {log : Log} (h : Kept t d log e) (hd : Distinct log e) (hc : c ∈ e.children t)
    {f : Deck} (hf : TakenOut t c e f) : ShowsLast t f := by
  have hviews : e.viewOf = d.viewOf := funext h.views
  have hordered : (e.children t).map e.viewOf = (e.gridOf t).views := by
    rw [Distinct, hviews] at hd
    rw [hviews]
    exact h.ordered hd
  rw [hf.showsLast_iff hc hordered]
  rintro ⟨rest, he, hn, hv, -⟩
  -- Whoever has the view of `c` is `c`, and that is not in front of the end.
  obtain ⟨a, ha, hac⟩ := List.mem_map.mp hv
  have hmem : a ∈ e.children t := he ▸ List.mem_append_left _ ha
  have hsame := hd a c (h.wasAdded a hmem) (h.wasAdded c hc) hac
  exact hn (hsame ▸ ha)

end Deck

namespace Session

open Deck

/-- What is meant is taken out of the tree of a named screen, whatever calls were made before. By
handle it goes from where it was found. By place it goes from its first entry, so the rest is in
order only if no other child is in between. What is on display is the last child that is left, if
no two children share a view. -/
theorem taken_out_by_place_iff {setup : Setup} {start : Scene Deck} {es : List Event} {d : Deck}
    {r : Ref .screen} {x : Screen} {log : Log} {s : Scene Deck} (hs : setup.start = .ok start)
    (h : History start.state es d) (hx : d.screens.get? r = some x) (hr : d.Named r)
    (hc : d.children x.tree = []) (hg : (d.gridOf x.tree).cells = [])
    (hlog : Called x.tree d log s.state) (hserves : s.context.Serves) :
    let cs := s.state.children x.tree
    (∀ (i : Int32) c, 0 ≤ i → cs[i.toInt.toNat]? = some c →
      ∃ t, removeChildAt x.tree i s = (.ok (some c), t) ∧ TakenOut x.tree c s.state t.state ∧
        (t.state.children x.tree = cs.eraseIdx i.toInt.toNat ↔ InFirstRun cs i.toInt.toNat)) ∧
      (∀ handle c, cs.find? (fun a => s.state.handleOf a = handle) = some c →
        ∃ t, removeChild x.tree handle s = (.ok (some c), t) ∧ TakenOut x.tree c s.state t.state ∧
          t.state.children x.tree =
            cs.eraseIdx (cs.findIdx fun a => s.state.handleOf a = handle)) ∧
      (∀ c ∈ cs, ∀ e, TakenOut x.tree c s.state e →
        (Distinct log s.state → ShowsLast x.tree e) ∧
          (cs.map s.state.viewOf = (s.state.gridOf x.tree).views →
            (ShowsLast x.tree e ↔ ¬ Overlaid x.tree c s.state))) ∧
      (∀ i : Int32, i < 0 ∨ cs.length ≤ i.toInt.toNat → removeChildAt x.tree i s = (.ok none, s)) ∧
      ∀ handle, (∀ c ∈ cs, s.state.handleOf c ≠ handle) →
        removeChild x.tree handle s = (.ok none, s) := by
  intro cs
  have hrooted := h.rooted (.of_no_screen (start_state hs).2)
  obtain ⟨tree, htree, hgrid⟩ := hrooted.tree hx
  have hkept := hlog.kept (.start ⟨⟨tree, htree, hgrid⟩, hrooted.held hx hr⟩ hc hg)
  let left (c : Child) : Scene Deck :=
    { s with context := s.context.outside s.context.inside, state := s.state.removed x.tree c }
  refine ⟨?_, ?_, ?_, ?_, ?_⟩
  · intro i c hi hfound
    have hout := hkept.takenOut c
    refine ⟨left c, ?_, hout, ?_⟩
    · rw [removeChildAt_apply, if_neg (Int32.not_lt.mpr hi), hfound, dropFound_some_apply hserves]
    · rw [hout.children]
      exact erase_eq_eraseIdx_iff hfound
  · intro handle c hfound
    have hout := hkept.takenOut c
    refine ⟨left c, ?_, hout, ?_⟩
    · rw [removeChild_apply, hfound, dropFound_some_apply hserves]
    · rw [hout.children]
      exact erase_eq_eraseIdx_of_find? hfound
  · intro c hmem e hout
    exact ⟨fun hd => hkept.showsLast hd hmem hout, fun ho => hout.showsLast_iff hmem ho⟩
  · intro i hi
    have hnone : (if i < 0 then none else cs[i.toInt.toNat]?) = none := by
      rcases hi with hi | hi
      · exact if_pos hi
      · rw [List.getElem?_eq_none hi, ite_self]
    rw [removeChildAt_apply, hnone]
    rfl
  · intro handle hother
    have hnone : cs.find? (fun a => s.state.handleOf a = handle) = none :=
      List.find?_eq_none.mpr fun c hc => by simpa using hother c hc
    rw [removeChild_apply, hnone]
    rfl

/-- Three widgets, of which the last one shares the view of the first, and a screen. -/
def sharedView : Deck :=
  let d := (makeWidget ⟨8⟩ none (makeWidget ⟨7⟩ none newSession.state).2).2
  let d := (makeWidget ⟨9⟩ (some ⟨1⟩) d).2
  let d := (d.makeScreen ⟨1⟩).2
  { d with names.screens := [("screen", ⟨0⟩)] }

theorem history_sharedView : History newSession.state [] sharedView :=
  ((((History.start.move (.makeWidget ⟨7⟩ none)).move (.makeWidget ⟨8⟩ none)).move
    (.makeWidget ⟨9⟩ (some ⟨1⟩))).move (.makeScreen ⟨1⟩)).move (.names _)

def addedInTurn (ws : List (Ref .widget)) : Deck :=
  ws.foldl (fun d w => ((TreeCall.add (.widget w)).perform ⟨0⟩ (sceneOf true d)).2.state) sharedView

/-- The last of the three goes from its place, but what is on display then is the first widget. -/
theorem first_is_on_display :
    let s := sceneOf true (addedInTurn [⟨0⟩, ⟨1⟩, ⟨2⟩])
    let t := (removeChildAt ⟨0⟩ 2 s).2
    s.state.children ⟨0⟩ = [.widget ⟨0⟩, .widget ⟨1⟩, .widget ⟨2⟩] ∧
      (removeChildAt ⟨0⟩ 2 s).1 = .ok (some (.widget ⟨2⟩)) ∧
      t.state.children ⟨0⟩ = [.widget ⟨0⟩, .widget ⟨1⟩] ∧ ¬ ShowsLast ⟨0⟩ t.state := by
  intro s t
  have hfirst := Called.start.call (s := sceneOf true sharedView) (.add (.widget ⟨0⟩)) (t := ⟨0⟩)
  have hsecond := hfirst.call (s := sceneOf true (addedInTurn [⟨0⟩])) (.add (.widget ⟨1⟩))
  have hthird := hsecond.call (s := sceneOf true (addedInTurn [⟨0⟩, ⟨1⟩])) (.add (.widget ⟨2⟩))
  obtain ⟨hplace, -, hdisplay, -, -⟩ := taken_out_by_place_iff (s := s) start_newSession
    history_sharedView (r := ⟨0⟩) rfl ⟨_, List.mem_singleton_self _, rfl⟩ rfl rfl hthird (by decide)
  obtain ⟨u, hu, hout, hiff⟩ := hplace 2 (.widget ⟨2⟩) (by decide) rfl
  obtain rfl : t = u := congrArg Prod.snd hu
  refine ⟨rfl, congrArg Prod.fst hu, hiff.mpr (by decide), fun hshows => ?_⟩
  have hover : Overlaid ⟨0⟩ (.widget ⟨2⟩) s.state :=
    ⟨[.widget ⟨0⟩, .widget ⟨1⟩], rfl, by decide, by decide, by decide⟩
  exact ((hdisplay _ (by decide) _ hout).2 rfl).mp hshows hover

/-- The first widget is there twice. It is taken out at the end by its place, but goes from the
front. -/
theorem front_entry_is_taken_out :
    let s := sceneOf true (addedInTurn [⟨0⟩, ⟨1⟩, ⟨0⟩])
    s.state.children ⟨0⟩ = [.widget ⟨0⟩, .widget ⟨1⟩, .widget ⟨0⟩] ∧
      (removeChildAt ⟨0⟩ 2 s).1 = .ok (some (.widget ⟨0⟩)) ∧
      (removeChildAt ⟨0⟩ 2 s).2.state.children ⟨0⟩ = [.widget ⟨1⟩, .widget ⟨0⟩] ∧
      (s.state.children ⟨0⟩).eraseIdx 2 = [.widget ⟨0⟩, .widget ⟨1⟩] := ⟨rfl, rfl, rfl, rfl⟩

end Session
end ScreenDeck
