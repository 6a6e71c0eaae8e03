/-! Numbered objects. Objects of one kind are numbered in the order in which they are made, and a
reference is such a number. -/

namespace ScreenDeck

inductive Kind where
  | widget
  | container
  | panel
  | bar
  | manager
  | grid
  | tree
  | presenter
  | tracker
  | screen
deriving DecidableEq

structure Ref (kind : Kind) where
  index : Nat
deriving DecidableEq, Inhabited

structure Store (kind : Kind) (α : Type) where
  items : List α := []

namespace Store

variable {kind : Kind} {α : Type}

def size (s : Store kind α) : Nat := s.items.length

def get? (s : Store kind α) (r : Ref kind) : Option α := s.items[r.index]?

def get [Inhabited α] (s : Store kind α) (r : Ref kind) : α := (s.get? r).getD default

def add (s : Store kind α) (a : α) : Ref kind × Store kind α := (⟨s.size⟩, ⟨s.items ++ [a]⟩)

def modify (s : Store kind α) (r : Ref kind) (f : α → α) : Store kind α :=
  ⟨s.items.modify r.index f⟩

theorem get?_modify_self (s : Store kind α) (r : Ref kind) (f : α → α) :
    (s.modify r f).get? r = (s.get? r).map f := by
  simp [get?, modify]

theorem get?_modify_ne (s : Store kind α) {r q : Ref kind} (f : α → α) (h : r ≠ q) :
    (s.modify r f).get? q = s.get? q := by
  have hi : r.index ≠ q.index := fun he => h (by cases r; cases q; simp_all)
  simp [get?, modify, hi]

theorem get?_add (s : Store kind α) (a : α) : (s.add a).2.get? (s.add a).1 = some a := by
  simp [get?, add, size]

theorem get?_add_of_lt (s : Store kind α) (a : α) {r : Ref kind} (h : r.index < s.size) :
    (s.add a).2.get? r = s.get? r := by
  simp [get?, add, size] at h ⊢
  exact List.getElem?_append_left h

theorem get?_add_of_get? {s : Store kind α} {r : Ref kind} {b : α} (h : s.get? r = some b) (a : α) :
    (s.add a).2.get? r = some b := by
  obtain ⟨hr, -⟩ := List.getElem?_eq_some_iff.mp h
  rw [get?_add_of_lt s a hr, h]

theorem get?_fst_add (s : Store kind α) (a : α) : s.get? (s.add a).1 = none := by
  simp [get?, add, size]

theorem isSome_get?_add {s : Store kind α} {r : Ref kind} (h : (s.get? r).isSome) (a : α) :
    ((s.add a).2.get? r).isSome := by
  obtain ⟨x, hx⟩ := Option.isSome_iff_exists.mp h
  rw [get?_add_of_get? hx]
  rfl

theorem ne_fst_add {s : Store kind α} {r : Ref kind} (h : (s.get? r).isSome) (a : α) :
    r ≠ (s.add a).1 := by
  rintro rfl
  rw [get?_fst_add] at h
  cases h

theorem get?_add_ne (s : Store kind α) (a : α) {r : Ref kind} (h : r ≠ (s.add a).1) :
    (s.add a).2.get? r = s.get? r := by
  have hi : r.index ≠ s.items.length := fun he => h (by cases r; simp_all [add, size])
  rcases Nat.lt_or_gt_of_ne hi with hlt | hgt
  · exact get?_add_of_lt s a hlt
  · have hnew : (s.items ++ [a])[r.index]? = none := List.getElem?_eq_none (by simp; omega)
    have hold : s.items[r.index]? = none := List.getElem?_eq_none (by omega)
    exact hnew.trans hold.symm

theorem get?_add_eq_some {s : Store kind α} {a b : α} {r : Ref kind}
    (h : (s.add a).2.get? r = some b) : s.get? r = some b ∨ r = (s.add a).1 ∧ b = a := by
  by_cases hr : r.index < s.size
  · rw [get?_add_of_lt s a hr] at h
    exact .inl h
  · have hi : (s.items ++ [a])[r.index]? = some b := h
    have hlast : r.index = s.size := by
      obtain ⟨hlt, -⟩ := List.getElem?_eq_some_iff.mp hi
      simp [size] at hlt hr ⊢
      omega
    have hb : a = b := by simpa [hlast, size] using hi
    exact .inr ⟨by cases r; simp_all [add], hb.symm⟩

theorem get?_modify_eq_some {s : Store kind α} {f : α → α} {b : α} {r q : Ref kind}
    (h : (s.modify r f).get? q = some b) : ∃ a, s.get? q = some a ∧ (b = a ∨ b = f a) := by
  by_cases hr : r = q
  · subst hr
    rw [get?_modify_self] at h
    obtain ⟨a, ha, hb⟩ := Option.map_eq_some_iff.mp h
    exact ⟨a, ha, .inr hb.symm⟩
  · rw [get?_modify_ne s f hr] at h
    exact ⟨b, h, .inl rfl⟩

theorem get?_modify_cases {s : Store kind α} {f : α → α} {b : α} {r q : Ref kind}
    (h : (s.modify r f).get? q = some b) :
    (r = q ∧ ∃ a, s.get? q = some a ∧ f a = b) ∨ r ≠ q ∧ s.get? q = some b := by
  by_cases hr : r = q
  · subst hr
    rw [get?_modify_self] at h
    exact .inl ⟨rfl, Option.map_eq_some_iff.mp h⟩
  · rw [get?_modify_ne s f hr] at h
    exact .inr ⟨hr, h⟩

/-- What is dead stays so. -/
theorem modify_dead {s : Store kind α} {alive : α → Bool} {f : α → α} {r : Ref kind}
    (hf : ∀ a, alive a = false → alive (f a) = false) (q : Ref kind)
    (h : ∃ a, s.get? r = some a ∧ alive a = false) :
    ∃ a, (s.modify q f).get? r = some a ∧ alive a = false := by
  obtain ⟨a, ha, hdead⟩ := h
  by_cases hq : q = r
  · subst hq
    rw [get?_modify_self, ha]
    exact ⟨f a, rfl, hf a hdead⟩
  · rw [get?_modify_ne s f hq]
    exact ⟨a, ha, hdead⟩

theorem get_of_get? [Inhabited α] {s : Store kind α} {r : Ref kind} {a : α}
    (h : s.get? r = some a) : s.get r = a := by
  rw [get, h]
  rfl

theorem isSome_get?_modify (s : Store kind α) (r q : Ref kind) (f : α → α) :
    ((s.modify r f).get? q).isSome = (s.get? q).isSome := by
  by_cases hr : r = q
  · subst hr
    rw [get?_modify_self, Option.isSome_map]
  · rw [get?_modify_ne s f hr]

theorem map_get?_modify {β : Type} {f : α → α} {p : α → β} (s : Store kind α) (r q : Ref kind)
    (hf : ∀ a, p (f a) = p a) : ((s.modify r f).get? q).map p = (s.get? q).map p := by
  by_cases hr : r = q
  · subst hr
    rw [get?_modify_self, Option.map_map]
    exact congrArg (Option.map · _) (funext hf)
  · rw [get?_modify_ne _ _ hr]

/-- What a change leaves alone reads as before, whichever object is changed. -/
theorem apply_get_modify {β : Type} [Inhabited α] {f : α → α} {p : α → β} (s : Store kind α)
    (r q : Ref kind) (hf : ∀ a, p (f a) = p a) : p ((s.modify r f).get q) = p (s.get q) := by
  by_cases hr : r = q
  · subst hr
    rw [get, get, get?_modify_self]
    cases s.get? r with
    | none => rfl
    | some a => exact hf a
  · rw [get, get, get?_modify_ne s f hr]

theorem ext_get? {s t : Store kind α} (h : ∀ r, s.get? r = t.get? r) : s = t :=
  congrArg mk (List.ext_getElem? fun i => h ⟨i⟩)

/-- Only what the change makes of the object that is there matters. -/
theorem modify_congr {s : Store kind α} {r : Ref kind} {f g : α → α}
    (h : ∀ a, s.get? r = some a → f a = g a) : s.modify r f = s.modify r g := by
  refine ext_get? fun q => ?_
  by_cases hr : r = q
  · subst hr
    rw [get?_modify_self, get?_modify_self]
    exact Option.map_congr h
  · rw [get?_modify_ne s f hr, get?_modify_ne s g hr]

theorem modify_eq_self {s : Store kind α} {r : Ref kind} {f : α → α}
    (h : ∀ a, s.get? r = some a → f a = a) : s.modify r f = s := by
  have hid : s.modify r f = s.modify r id := modify_congr h
  rw [hid, modify, List.modify_id]

theorem modify_modify (s : Store kind α) (r : Ref kind) (f g : α → α) :
    (s.modify r f).modify r g = s.modify r (g ∘ f) := by
  refine ext_get? fun q => ?_
  by_cases hr : r = q
  · subst hr
    rw [get?_modify_self, get?_modify_self, get?_modify_self, Option.map_map]
  · rw [get?_modify_ne _ g hr, get?_modify_ne _ f hr, get?_modify_ne _ _ hr]

theorem modify_comm {s : Store kind α} {r q : Ref kind} {f g : α → α} (h : r = q → ∀ a, g (f a) = f (g a)) :
    (s.modify r f).modify q g = (s.modify q g).modify r f := by
  refine ext_get? fun x => ?_
  by_cases hr : r = x <;> by_cases hq : q = x
  · subst hr hq
    simp only [get?_modify_self, Option.map_map]
    exact congrArg (Option.map · _) (funext (h rfl))
  · subst hr
    rw [get?_modify_ne _ _ hq, get?_modify_self, get?_modify_self, get?_modify_ne _ _ hq]
  · subst hq
    rw [get?_modify_ne _ _ hr, get?_modify_self, get?_modify_self, get?_modify_ne _ _ hr]
  · rw [get?_modify_ne _ _ hq, get?_modify_ne _ _ hr, get?_modify_ne _ _ hr, get?_modify_ne _ _ hq]

theorem add_modify {s : Store kind α} {r : Ref kind} (h : (s.get? r).isSome) (f : α → α) (a : α) :
    (s.modify r f).add a = ((s.add a).1, (s.add a).2.modify r f) := by
  have hnew : ((s.modify r f).add a).1 = (s.add a).1 := congrArg Ref.mk (List.length_modify ..)
  refine Prod.ext hnew (ext_get? fun q => ?_)
  by_cases hq : q = (s.add a).1
  · rw [hq, get?_modify_ne _ _ (ne_fst_add h a), get?_add, ← hnew, get?_add]
  · rw [get?_add_ne _ _ (hnew ▸ hq)]
    by_cases hr : r = q
    · subst hr
      rw [get?_modify_self, get?_modify_self, get?_add_ne s a hq]
    · rw [get?_modify_ne _ _ hr, get?_modify_ne _ _ hr, get?_add_ne s a hq]

end Store
end ScreenDeck
