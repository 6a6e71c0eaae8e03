import ScreenDeck.Deck.Basic
import ScreenDeck.Proofs.SlotHolders

/-! The connections of a frame and who holds them. A screen has a line of its own, which is open from
the start and closed once, and a name may hold a subscription of a tracker that no screen has. -/

namespace ScreenDeck

/-! Names. -/

namespace Names

variable {α : Type} {name other : String}

theorem lookup_unbind (xs : List (String × α)) (name other : String) :
    (unbind xs name).lookup other = if other = name then none else xs.lookup other := by
  induction xs with
  | nil => simp [unbind]
  | cons x xs ih =>
    obtain ⟨n, a⟩ := x
    rw [unbind] at ih ⊢
    by_cases hn : n = name
    · subst hn
      rw [List.filter_cons_of_neg (by simp), ih]
      by_cases ho : other = n
      · simp [ho]
      · simp [ho, List.lookup_cons, beq_eq_false_iff_ne.mpr ho]
    · rw [List.filter_cons_of_pos (by simpa using hn), List.lookup_cons, List.lookup_cons, ih]
      by_cases ho : other = n
      · simp [ho, hn]
      · simp [beq_eq_false_iff_ne.mpr ho]

theorem lookup_bind (xs : List (String × α)) (name : String) (a : α) (other : String) :
    (bind xs name a).lookup other = if other = name then some a else xs.lookup other := by
  rw [show bind xs name a = (name, a) :: unbind xs name from rfl, List.lookup_cons, lookup_unbind]
  by_cases ho : other = name
  · simp [ho]
  · simp [ho, beq_eq_false_iff_ne.mpr ho]

theorem of_lookup_unbind {xs : List (String × α)} {a : α} (h : (unbind xs name).lookup other = some a) :
    xs.lookup other = some a := by
  rw [lookup_unbind] at h
  split at h
  · cases h
  · exact h

theorem of_lookup_bind {xs : List (String × α)} {a b : α} (h : (bind xs name a).lookup other = some b) :
    xs.lookup other = some b ∨ b = a := by
  rw [lookup_bind] at h
  split at h
  · exact .inr (Option.some.inj h).symm
  · exact .inl h

theorem mem_of_lookup {xs : List (String × α)} {name : String} {a : α}
    (h : xs.lookup name = some a) : (name, a) ∈ xs := by
  obtain ⟨pre, post, he, -⟩ := List.lookup_eq_some_iff.mp h
  simp [he]

def Distinct (xs : List (String × α)) : Prop := (xs.map Prod.fst).Nodup

theorem Distinct.unbind {xs : List (String × α)} (h : Distinct xs) (name : String) :
    Distinct (unbind xs name) := List.Nodup.sublist (List.filter_sublist.map Prod.fst) h

theorem Distinct.bind {xs : List (String × α)} (h : Distinct xs) (name : String) (a : α) :
    Distinct (bind xs name a) := by
  refine List.nodup_cons.mpr ⟨fun hm => ?_, h.unbind name⟩
  obtain ⟨x, hx, he⟩ := List.mem_map.mp hm
  have hne := (List.mem_filter.mp hx).2
  simp only [decide_eq_true_eq] at hne
  exact hne he

theorem Distinct.lookup_eq_some_iff {xs : List (String × α)} (h : Distinct xs) {n : String} {a : α} :
    xs.lookup n = some a ↔ (n, a) ∈ xs := by
  constructor
  · exact mem_of_lookup
  · intro hm
    cases hl : xs.lookup n with
    | none =>
      have hne := List.lookup_eq_none_iff.mp hl (n, a) hm
      simp at hne
    | some b =>
      have hsame := List.inj_on_of_nodup_map h (mem_of_lookup hl) hm rfl
      exact congrArg (fun x => some x.2) hsame

end Names

/-! Lines. -/

structure Line where
  isOpen : Bool
  key : SlotKey
  tracker : Ref .tracker

inductive Holder where
  | screen (s : Ref .screen)
  | name (n : String)
deriving DecidableEq

namespace Line

/-- Through an open line the tracker listens, and a closed one is spent. -/
def Stands (slots : Slots Listener) (x : Line) : Prop :=
  if x.isOpen then slots.get? x.key = some (.tracker x.tracker) else slots.Spent x.key

def key? (x : Line) : Option SlotKey := if x.isOpen then some x.key else none

end Line

def Subscription.key? (x : Subscription) : Option SlotKey := if x.active then some x.key else none

def holding (lines : Ref .screen → Option Line) (subscriptions : List (String × Subscription)) :
    Holder → Option SlotKey
  | .screen s => (lines s).bind Line.key?
  | .name n => (subscriptions.lookup n).bind Subscription.key?

theorem holding_of_screens {lines lines' : Ref .screen → Option Line} {s : Ref .screen}
    (h : ∀ r, r ≠ s → lines' r = lines r) (subscriptions : List (String × Subscription)) (y : Holder)
    (hy : y ≠ .screen s) : holding lines' subscriptions y = holding lines subscriptions y := by
  cases y with
  | screen r => simp only [holding, h r fun he => hy (congrArg Holder.screen he)]
  | name n => rfl

theorem holding_of_names {subscriptions subscriptions' : List (String × Subscription)} {n : String}
    (h : ∀ m, m ≠ n → subscriptions'.lookup m = subscriptions.lookup m)
    (lines : Ref .screen → Option Line) (y : Holder) (hy : y ≠ .name n) :
    holding lines subscriptions' y = holding lines subscriptions y := by
  cases y with
  | screen r => rfl
  | name m => simp only [holding, h m fun he => hy (congrArg Holder.name he)]

theorem holding_eq_none {subscriptions : List (String × Subscription)} {n : String}
    {lines : Ref .screen → Option Line}
    (h : ∀ x, subscriptions.lookup n = some x → x.active = false) :
    holding lines subscriptions (.name n) = none := by
  cases hl : subscriptions.lookup n with
  | none => simp [holding, hl]
  | some x => simp [holding, hl, Subscription.key?, h x hl]

variable {slots slots' : Slots Listener} {lines lines' : Ref .screen → Option Line}
  {subscriptions subscriptions' : List (String × Subscription)} {alone alone' : Ref .tracker → Prop}

/-- Every connection is that of an open line or of an active subscription, whose tracker stands
alone. -/
structure Wired (slots : Slots Listener) (lines : Ref .screen → Option Line)
    (subscriptions : List (String × Subscription)) (alone : Ref .tracker → Prop) : Prop where
  held : slots.HeldBy (holding lines subscriptions)
  stands : ∀ {s x}, lines s = some x → x.Stands slots
  attached : ∀ {n x}, subscriptions.lookup n = some x → x.active = true →
    ∃ t, slots.get? x.key = some (.tracker t) ∧ alone t

namespace Wired

theorem alone_mono (h : Wired slots lines subscriptions alone) (ha : ∀ t, alone t → alone' t) :
    Wired slots lines subscriptions alone' where
  held := h.held
  stands := h.stands
  attached hx hactive := by
    obtain ⟨t, ht, hal⟩ := h.attached hx hactive
    exact ⟨t, ht, ha t hal⟩

/-- What happens to one holder leaves the connections of the others as they are. -/
theorem change {x : Holder} (h : Wired slots lines subscriptions alone)
    (hheld : slots'.HeldBy (holding lines' subscriptions'))
    (hlines : ∀ r, .screen r ≠ x → lines' r = lines r)
    (hnames : ∀ m, .name m ≠ x → subscriptions'.lookup m = subscriptions.lookup m)
    (hget : ∀ y key, y ≠ x → holding lines subscriptions y = some key →
      slots'.get? key = slots.get? key)
    (hspent : ∀ key, slots.Spent key → slots'.Spent key)
    (hline : ∀ r y, .screen r = x → lines' r = some y → y.Stands slots')
    (hname : ∀ m y, .name m = x → subscriptions'.lookup m = some y → y.active = true →
      ∃ t, slots'.get? y.key = some (.tracker t) ∧ alone t) :
    Wired slots' lines' subscriptions' alone where
  held := hheld
  stands {r y} hy := by
    by_cases hr : .screen r = x
    · exact hline r y hr hy
    · have hl := (hlines r hr).symm.trans hy
      have hstood := h.stands hl
      unfold Line.Stands at hstood ⊢
      cases ho : y.isOpen with
      | false => simpa [ho] using hspent _ (by simpa [ho] using hstood)
      | true =>
        have hkey := hget (.screen r) y.key hr (by simp [holding, hl, Line.key?, ho])
        simpa [ho, hkey] using hstood
  attached {m y} hy hactive := by
    by_cases hm : .name m = x
    · exact hname m y hm hy hactive
    · have hl := (hnames m hm).symm.trans hy
      obtain ⟨t, ht, hal⟩ := h.attached hl hactive
      have hkey := hget (.name m) y.key hm (by simp [holding, hl, Subscription.key?, hactive])
      exact ⟨t, hkey.trans ht, hal⟩

theorem get?_insert_of_held {y : Holder} {key : SlotKey} (h : Wired slots lines subscriptions alone)
    (l : Listener) (hy : holding lines subscriptions y = some key) :
    (slots.insert l).2.get? key = slots.get? key := by
  rw [Slots.get?_insert h.held.toTidy, if_neg (h.held.ne_fst_insert hy l)]

theorem get?_remove_of_held {x y : Holder} {key other : SlotKey}
    (h : Wired slots lines subscriptions alone) (hx : holding lines subscriptions x = some key)
    (hyx : y ≠ x) (hy : holding lines subscriptions y = some other) :
    (slots.remove key).2.get? other = slots.get? other := by
  have hne : other ≠ key := fun he => hyx (h.held.apart hy (he ▸ hx))
  rw [Slots.get?_remove, if_neg hne]

/-- The line of a new screen is open, and its key is one that nobody holds. -/
theorem start {s : Ref .screen} {t : Ref .tracker} (h : Wired slots lines subscriptions alone)
    (hs : lines s = none) (hs' : lines' s = some ⟨true, (slots.insert (.tracker t)).1, t⟩)
    (hrest : ∀ r, r ≠ s → lines' r = lines r) :
    Wired (slots.insert (.tracker t)).2 lines' subscriptions alone := by
  have hheld : (slots.insert (.tracker t)).2.HeldBy (holding lines' subscriptions) := by
    refine h.held.insert (x := .screen s) _ ?_ ?_ (holding_of_screens hrest _)
    · simp [holding, hs]
    · simp [holding, hs', Line.key?]
  refine h.change (x := .screen s) hheld (fun r hr => hrest r fun he => hr (congrArg _ he))
    (fun _ _ => rfl) (fun y key _ hy => h.get?_insert_of_held _ hy)
    (fun key hk => hk.insert h.held.toTidy _) ?_ nofun
  rintro r x ⟨rfl⟩ hx
  obtain rfl : _ = x := Option.some.inj (hs'.symm.trans hx)
  simp [Line.Stands, Slots.get?_insert h.held.toTidy]

/-- A line is closed when its connection is removed. -/
theorem close {s : Ref .screen} {x : Line} (h : Wired slots lines subscriptions alone)
    (hs : lines s = some x) (ho : x.isOpen = true) (hs' : lines' s = some { x with isOpen := false })
    (hrest : ∀ r, r ≠ s → lines' r = lines r) :
    Wired (slots.remove x.key).2 lines' subscriptions alone := by
  have hx : holding lines subscriptions (.screen s) = some x.key := by
    simp [holding, hs, Line.key?, ho]
  have hheld : (slots.remove x.key).2.HeldBy (holding lines' subscriptions) := by
    refine h.held.remove hx ?_ (holding_of_screens hrest _)
    simp [holding, hs', Line.key?]
  refine h.change (x := .screen s) hheld (fun r hr => hrest r fun he => hr (congrArg _ he))
    (fun _ _ => rfl) (fun y key hyx hy => h.get?_remove_of_held hx hyx hy)
    (fun key hk => hk.remove _) ?_ nofun
  rintro r y ⟨rfl⟩ hy
  obtain rfl : _ = y := Option.some.inj (hs'.symm.trans hy)
  simpa [Line.Stands] using Slots.spent_remove (h.held.get?_isSome hx)

/-- A named subscription is given up. Whatever the name holds afterwards is not active. -/
theorem detach {n : String} {x : Subscription} (h : Wired slots lines subscriptions alone)
    (hn : subscriptions.lookup n = some x) (ha : x.active = true)
    (hn' : ∀ y, subscriptions'.lookup n = some y → y.active = false)
    (hrest : ∀ m, m ≠ n → subscriptions'.lookup m = subscriptions.lookup m) :
    Wired (slots.remove x.key).2 lines subscriptions' alone := by
  have hx : holding lines subscriptions (.name n) = some x.key := by
    simp [holding, hn, Subscription.key?, ha]
  have hheld : (slots.remove x.key).2.HeldBy (holding lines subscriptions') := by
    exact h.held.remove hx (holding_eq_none hn') (holding_of_names hrest _)
  refine h.change (x := .name n) hheld (fun _ _ => rfl)
    (fun m hm => hrest m fun he => hm (congrArg _ he))
    (fun y key hyx hy => h.get?_remove_of_held hx hyx hy) (fun key hk => hk.remove _) nofun ?_
  rintro m y ⟨rfl⟩ hy hactive
  rw [hn' y hy] at hactive
  cases hactive

/-- A subscription that is not active holds nothing, so it may come and go. -/
theorem idle {n : String} (h : Wired slots lines subscriptions alone)
    (hn : ∀ y, subscriptions.lookup n = some y → y.active = false)
    (hn' : ∀ y, subscriptions'.lookup n = some y → y.active = false)
    (hrest : ∀ m, m ≠ n → subscriptions'.lookup m = subscriptions.lookup m) :
    Wired slots lines subscriptions' alone := by
  have hsame : holding lines subscriptions' = holding lines subscriptions := by
    funext y
    by_cases hy : y = .name n
    · rw [hy, holding_eq_none hn, holding_eq_none hn']
    · exact holding_of_names hrest lines y hy
  refine h.change (x := .name n) (hsame ▸ h.held) (fun _ _ => rfl)
    (fun m hm => hrest m fun he => hm (congrArg _ he)) (fun _ _ _ _ => rfl) (fun _ hk => hk) nofun ?_
  rintro m y ⟨rfl⟩ hy hactive
  rw [hn' y hy] at hactive
  cases hactive

theorem attach {n : String} {t : Ref .tracker} (h : Wired slots lines subscriptions alone)
    (hn : holding lines subscriptions (.name n) = none) (ht : alone t)
    (hn' : subscriptions'.lookup n = some ⟨(slots.insert (.tracker t)).1, true⟩)
    (hrest : ∀ m, m ≠ n → subscriptions'.lookup m = subscriptions.lookup m) :
    Wired (slots.insert (.tracker t)).2 lines subscriptions' alone := by
  have hheld : (slots.insert (.tracker t)).2.HeldBy (holding lines subscriptions') := by
    refine h.held.insert _ hn ?_ (holding_of_names hrest _)
    simp [holding, hn', Subscription.key?]
  refine h.change (x := .name n) hheld (fun _ _ => rfl)
    (fun m hm => hrest m fun he => hm (congrArg _ he))
    (fun y key _ hy => h.get?_insert_of_held _ hy) (fun key hk => hk.insert h.held.toTidy _) nofun ?_
  rintro m y ⟨rfl⟩ hy -
  refine ⟨t, ?_, ht⟩
  obtain rfl : _ = y := Option.some.inj (hn'.symm.trans hy)
  simp [Slots.get?_insert h.held.toTidy]

/-- A tracker is connected under a name, and what the name held before is given up. -/
theorem reattach {n : String} {t : Ref .tracker} {key : SlotKey}
    (h : Wired slots lines subscriptions alone)
    (hn : holding lines subscriptions (.name n) = some key) (ht : alone t)
    (hn' : subscriptions'.lookup n = some ⟨(slots.insert (.tracker t)).1, true⟩)
    (hrest : ∀ m, m ≠ n → subscriptions'.lookup m = subscriptions.lookup m) :
    Wired ((slots.insert (.tracker t)).2.remove key).2 lines subscriptions' alone := by
  have htidy := h.held.toTidy
  have hheld : ((slots.insert (.tracker t)).2.remove key).2.HeldBy (holding lines subscriptions') := by
    refine h.held.replace _ hn ?_ (holding_of_names hrest _)
    simp [holding, hn', Subscription.key?]
  have hget (y : Holder) (other : SlotKey) (hyn : y ≠ .name n)
      (hy : holding lines subscriptions y = some other) :
      ((slots.insert (.tracker t)).2.remove key).2.get? other = slots.get? other := by
    have hne : other ≠ key := fun he => hyn (h.held.apart hy (he ▸ hn))
    rw [Slots.get?_remove, if_neg hne, h.get?_insert_of_held _ hy]
  refine h.change (x := .name n) hheld (fun _ _ => rfl)
    (fun m hm => hrest m fun he => hm (congrArg _ he)) hget
    (fun key hk => (hk.insert htidy _).remove _) nofun ?_
  rintro m y ⟨rfl⟩ hy -
  refine ⟨t, ?_, ht⟩
  obtain rfl : _ = y := Option.some.inj (hn'.symm.trans hy)
  have hne : (slots.insert (.tracker t)).1 ≠ key := (h.held.ne_fst_insert hn _).symm
  rw [Slots.get?_remove, if_neg hne, Slots.get?_insert htidy, if_pos rfl]

end Wired
end ScreenDeck
