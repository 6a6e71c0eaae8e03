import ScreenDeck.Proofs.SlotTables

/-! Who holds the keys of a table of slots. Whatever is in a table that is held has exactly one
holder, so its entries can be counted by their holders. -/

namespace ScreenDeck.Slots

variable {α : Type} {s : Slots α} {key : SlotKey}

theorem get?_fst_insert (h : s.Tidy) (a : α) : s.get? (s.insert a).1 = none := by
  cases hf : s.free with
  | nil =>
    rw [insert_of_full hf]
    exact get?_of_outside (Nat.le_refl _)
  | cons i rest =>
    obtain ⟨cell, hc, hv⟩ := h.vacant i (by simp [hf])
    rw [insert_of_free hf hc]
    exact get?_of_vacant hc hv

/-- The use that the key names has ended. Its slot only serves later keys. -/
def Spent (s : Slots α) (key : SlotKey) : Prop :=
  ∃ cell, s.cells[key.index]? = some cell ∧ key.version < cell.version

theorem Spent.get? (h : s.Spent key) : s.get? key = none := by
  obtain ⟨cell, hc, hlt⟩ := h
  have hv : cell.version ≠ key.version := by omega
  simp [Slots.get?, hc, hv]

/-- When the slot is used again its version is a later one, so the key stays spent. -/
theorem Spent.insert (h : s.Spent key) (ht : s.Tidy) (a : α) : (s.insert a).2.Spent key := by
  obtain ⟨cell, hc, hlt⟩ := h
  cases hf : s.free with
  | nil =>
    have hi := (List.getElem?_eq_some_iff.mp hc).1
    rw [insert_of_full hf]
    exact ⟨cell, by simp [List.getElem?_append_left hi, hc], hlt⟩
  | cons i rest =>
    obtain ⟨free, hfree, -⟩ := ht.vacant i (by simp [hf])
    rw [insert_of_free hf hfree]
    by_cases hi : i = key.index
    · exact ⟨{ cell with value := some a }, by simp [hi, hc], hlt⟩
    · exact ⟨cell, by simp [hi, hc], hlt⟩

theorem Spent.remove (h : s.Spent key) (other : SlotKey) : (s.remove other).2.Spent key := by
  obtain ⟨cell, hc, hlt⟩ := h
  cases ho : s.get? other with
  | none =>
    rw [remove_of_get?_none ho]
    exact ⟨cell, hc, hlt⟩
  | some a =>
    rw [remove_of_get? ho]
    by_cases hi : other.index = key.index
    · exact ⟨⟨cell.version + 1, none⟩, by simp [hi, hc], Nat.lt_succ_of_lt hlt⟩
    · exact ⟨cell, by simp [hi, hc], hlt⟩

theorem spent_remove (h : (s.get? key).isSome) : (s.remove key).2.Spent key := by
  obtain ⟨a, ha⟩ := Option.isSome_iff_exists.mp h
  have hc := get?_eq_some_iff.mp ha
  rw [remove_of_get? ha]
  exact ⟨⟨key.version + 1, none⟩, by simp [hc], Nat.lt_succ_self _⟩

variable {H : Type} {holds holds' : H → Option SlotKey} {x : H}

/-- Somebody holds each key that finds something, and nobody else does. -/
structure HeldBy (s : Slots α) (holds : H → Option SlotKey) : Prop extends s.Tidy where
  present : ∀ key, (s.get? key).isSome ↔ ∃ x, holds x = some key
  apart : ∀ {x y key}, holds x = some key → holds y = some key → x = y

namespace HeldBy

theorem get?_isSome (h : s.HeldBy holds) (hx : holds x = some key) : (s.get? key).isSome :=
  (h.present key).mpr ⟨x, hx⟩

theorem ne_fst_insert (h : s.HeldBy holds) (hx : holds x = some key) (a : α) :
    key ≠ (s.insert a).1 := by
  intro he
  have hsome := h.get?_isSome hx
  rw [he, get?_fst_insert h.toTidy] at hsome
  cases hsome

/-- One holder comes to hold another key or none, and the table changes for that key only. -/
theorem change {t : Slots α} (h : s.HeldBy holds) (ht : t.Tidy)
    (hrest : ∀ y, y ≠ x → holds' y = holds y)
    (hget : ∀ key, (t.get? key).isSome ↔
      holds' x = some key ∨ holds x ≠ some key ∧ (s.get? key).isSome)
    (hnew : ∀ key, holds' x = some key → s.get? key = none) : t.HeldBy holds' where
  toTidy := ht
  present := by
    intro key
    rw [hget, h.present]
    constructor
    · rintro (hx | ⟨hx, y, hy⟩)
      · exact ⟨x, hx⟩
      · have hyx : y ≠ x := fun he => hx (he ▸ hy)
        exact ⟨y, (hrest y hyx).trans hy⟩
    · rintro ⟨y, hy⟩
      by_cases hyx : y = x
      · exact .inl (hyx ▸ hy)
      · rw [hrest y hyx] at hy
        exact .inr ⟨fun hx => hyx (h.apart hy hx), y, hy⟩
  apart := by
    have hmixed {y key} (hy : holds y = some key) (hx : holds' x = some key) : False := by
      have hsome := h.get?_isSome hy
      rw [hnew key hx] at hsome
      cases hsome
    intro y z key hy hz
    by_cases hyx : y = x <;> by_cases hzx : z = x
    · rw [hyx, hzx]
    · exact (hmixed ((hrest z hzx).symm.trans hz) (hyx ▸ hy)).elim
    · exact (hmixed ((hrest y hyx).symm.trans hy) (hzx ▸ hz)).elim
    · exact h.apart ((hrest y hyx).symm.trans hy) ((hrest z hzx).symm.trans hz)

theorem insert (h : s.HeldBy holds) (a : α) (hx : holds x = none)
    (hnew : holds' x = some (s.insert a).1) (hrest : ∀ y, y ≠ x → holds' y = holds y) :
    (s.insert a).2.HeldBy holds' := by
  refine h.change (tidy_insert h.toTidy a) hrest (fun key => ?_) fun key hk => ?_
  · rw [get?_insert h.toTidy, hx, hnew]
    by_cases hk : key = (s.insert a).1
    · simp [hk]
    · simp [hk, Ne.symm hk]
  · rw [hnew] at hk
    rw [← Option.some.inj hk, get?_fst_insert h.toTidy]

theorem remove (h : s.HeldBy holds) (hx : holds x = some key) (hgone : holds' x = none)
    (hrest : ∀ y, y ≠ x → holds' y = holds y) : (s.remove key).2.HeldBy holds' := by
  refine h.change (tidy_remove h.toTidy key) hrest (fun other => ?_) fun other ho => ?_
  · rw [get?_remove, hx, hgone]
    by_cases ho : other = key
    · simp [ho]
    · simp [ho, Ne.symm ho]
  · rw [hgone] at ho
    cases ho

/-- The old key is removed after the new one was given out. -/
theorem replace (h : s.HeldBy holds) (a : α) (hx : holds x = some key)
    (hnew : holds' x = some (s.insert a).1) (hrest : ∀ y, y ≠ x → holds' y = holds y) :
    ((s.insert a).2.remove key).2.HeldBy holds' := by
  have hne : (s.insert a).1 ≠ key := (h.ne_fst_insert hx a).symm
  refine h.change (tidy_remove (tidy_insert h.toTidy a) key) hrest (fun other => ?_) fun other ho => ?_
  · rw [get?_remove, get?_insert h.toTidy, hx, hnew]
    by_cases ho : other = key
    · simp [ho, hne]
    · by_cases hi : other = (s.insert a).1
      · simp [hi, hne]
      · simp [ho, hi, Ne.symm ho, Ne.symm hi]
  · rw [hnew] at ho
    rw [← Option.some.inj ho, get?_fst_insert h.toTidy]

theorem keys_perm (h : s.HeldBy holds) {xs : List H} (hn : xs.Nodup)
    (hxs : ∀ x, (holds x).isSome → x ∈ xs) : s.keys.Perm (xs.filterMap holds) := by
  have hnodup : (xs.filterMap holds).Nodup :=
    hn.filterMap fun y z key hy hz => h.apart (Option.mem_def.mp hy) (Option.mem_def.mp hz)
  rw [List.perm_ext_iff_of_nodup s.keys_nodup hnodup]
  intro key
  rw [mem_keys, h.present, List.mem_filterMap]
  constructor
  · rintro ⟨x, hx⟩
    exact ⟨x, hxs x (by simp [hx]), hx⟩
  · rintro ⟨x, -, hx⟩
    exact ⟨x, hx⟩

theorem values_perm (h : s.HeldBy holds) {xs : List H} (hn : xs.Nodup)
    (hxs : ∀ x, (holds x).isSome → x ∈ xs) :
    s.values.Perm (xs.filterMap fun x => (holds x).bind s.get?) := by
  have hperm := (h.keys_perm hn hxs).filterMap s.get?
  rwa [filterMap_get?_keys, List.filterMap_filterMap] at hperm

theorem size_eq (h : s.HeldBy holds) {xs : List H} (hn : xs.Nodup)
    (hxs : ∀ x, x ∈ xs ↔ (holds x).isSome) : s.size = xs.length := by
  have hperm := h.keys_perm hn fun x => (hxs x).mpr
  rw [← length_keys, hperm.length_eq]
  exact List.filterMap_length_eq_length.mpr fun x hx => (hxs x).mp hx

end HeldBy
end ScreenDeck.Slots
