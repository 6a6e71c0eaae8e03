import Mathlib.Data.List.Nodup
import ScreenDeck.Slots

/-! What a table of slots knows of its keys. It finds a key exactly from the insertion that gave it
out to its removal, however often the slot of the key is used again. -/

namespace ScreenDeck.Slots

variable {α : Type}

/-- No slot is free twice, and a free slot holds nothing. -/
structure Tidy (s : Slots α) : Prop where
  vacant : ∀ i ∈ s.free, ∃ cell, s.cells[i]? = some cell ∧ cell.value = none
  nodup : s.free.Nodup

theorem tidy_empty : Tidy ({} : Slots α) := ⟨by simp, List.nodup_nil⟩

theorem get?_eq_some_iff {s : Slots α} {key : SlotKey} {a : α} :
    s.get? key = some a ↔ s.cells[key.index]? = some ⟨key.version, some a⟩ := by
  unfold get?
  cases hc : s.cells[key.index]? with
  | none => simp
  | some cell =>
    obtain ⟨version, value⟩ := cell
    by_cases hv : version = key.version
    · simp [hv]
    · simp [hv]

theorem get?_of_vacant {s : Slots α} {key : SlotKey} {cell : Slot α}
    (hc : s.cells[key.index]? = some cell) (hv : cell.value = none) : s.get? key = none := by
  simp [get?, hc, hv]

theorem get?_of_outside {s : Slots α} {key : SlotKey} (h : s.cells.length ≤ key.index) :
    s.get? key = none := by
  simp [get?, List.getElem?_eq_none h]

theorem insert_of_full {s : Slots α} (h : s.free = []) (a : α) :
    s.insert a = (⟨s.cells.length, 0⟩, { s with cells := s.cells ++ [⟨0, some a⟩] }) := by
  simp [insert, h]

theorem insert_of_free {s : Slots α} {i : Nat} {rest : List Nat} {cell : Slot α}
    (hf : s.free = i :: rest) (hc : s.cells[i]? = some cell) (a : α) :
    s.insert a =
      (⟨i, cell.version⟩, ⟨s.cells.modify i fun c => { c with value := some a }, rest⟩) := by
  simp [insert, hf, hc]

/-- An insertion takes a free slot and disturbs no other key. -/
theorem get?_insert {s : Slots α} (h : s.Tidy) (a : α) (key : SlotKey) :
    (s.insert a).2.get? key = if key = (s.insert a).1 then some a else s.get? key := by
  obtain ⟨i, v⟩ := key
  cases hf : s.free with
  | nil =>
    rw [insert_of_full hf]
    rcases Nat.lt_trichotomy i s.cells.length with hi | hi | hi
    · have hne : i ≠ s.cells.length := by omega
      simp [get?, List.getElem?_append_left hi, hne]
    · subst hi
      by_cases hv : v = 0
      · simp [get?, hv]
      · have hv' : ¬ 0 = v := fun h0 => hv h0.symm
        simp [get?, hv, hv']
    · have hne : i ≠ s.cells.length := by omega
      have hn : s.get? ⟨i, v⟩ = none := get?_of_outside (by simp; omega)
      rw [if_neg (by simp [hne]), hn]
      exact get?_of_outside (by simp; omega)
  | cons j rest =>
    obtain ⟨cell, hc, hvacant⟩ := h.vacant j (by simp [hf])
    rw [insert_of_free hf hc]
    by_cases hi : i = j
    · subst hi
      -- The slot is in no use, so that before the insertion it was found by no key at all.
      have hn : s.get? ⟨i, v⟩ = none := get?_of_vacant hc hvacant
      by_cases hv : cell.version = v
      · subst hv
        simp [get?, hc]
      · have hv' : ¬ v = cell.version := fun he => hv he.symm
        rw [if_neg (by simp [hv']), hn]
        simp [get?, hc, hv]
    · have hji : ¬ j = i := fun he => hi he.symm
      simp [get?, hi, hji]

theorem tidy_insert {s : Slots α} (h : s.Tidy) (a : α) : (s.insert a).2.Tidy := by
  cases hf : s.free with
  | nil =>
    rw [insert_of_full hf]
    refine ⟨?_, ?_⟩
    · simp [hf]
    · simp [hf]
  | cons i rest =>
    have hn : (i :: rest).Nodup := hf ▸ h.nodup
    obtain ⟨hi, hrest⟩ := List.nodup_cons.mp hn
    obtain ⟨cell, hc, -⟩ := h.vacant i (by simp [hf])
    rw [insert_of_free hf hc]
    refine ⟨fun j hj => ?_, hrest⟩
    obtain ⟨cell', hc', hv'⟩ := h.vacant j (by simp [hf, hj])
    have hji : ¬ i = j := fun he => hi (he ▸ hj)
    exact ⟨cell', by simp [hji, hc'], hv'⟩

theorem remove_of_get? {s : Slots α} {key : SlotKey} {a : α} (h : s.get? key = some a) :
    s.remove key = (true, ⟨s.cells.modify key.index fun cell => ⟨cell.version + 1, none⟩,
      key.index :: s.free⟩) := by
  simp [remove, h]

/-- A removal ends one use of its slot and disturbs no other key. -/
theorem get?_remove (s : Slots α) (key other : SlotKey) :
    (s.remove key).2.get? other = if other = key then none else s.get? other := by
  cases hk : s.get? key with
  | none =>
    rw [remove_of_get?_none hk]
    split
    · subst other
      exact hk
    · rfl
  | some a =>
    have hc := get?_eq_some_iff.mp hk
    rw [remove_of_get? hk]
    by_cases hi : key.index = other.index
    · have hgone : (⟨s.cells.modify key.index fun cell => ⟨cell.version + 1, none⟩,
          key.index :: s.free⟩ : Slots α).get? other = none := by
        rw [hi] at hc ⊢
        have hvacant : (s.cells.modify other.index fun cell => ⟨cell.version + 1, none⟩)[other.index]? =
            some ⟨key.version + 1, none⟩ := by simp [hc]
        exact get?_of_vacant hvacant rfl
      rw [hgone]
      split
      · rfl
      · rename_i hne
        have hv : ¬ key.version = other.version := by
          intro hv
          apply hne
          cases key
          cases other
          simp_all
        rw [hi] at hc
        simp [get?, hc, hv]
    · have hne : other ≠ key := fun he => hi (by rw [he])
      simp [get?, hi, hne]

theorem tidy_remove {s : Slots α} (h : s.Tidy) (key : SlotKey) : (s.remove key).2.Tidy := by
  cases hk : s.get? key with
  | none =>
    rw [remove_of_get?_none hk]
    exact h
  | some a =>
    have hc := get?_eq_some_iff.mp hk
    rw [remove_of_get? hk]
    refine ⟨fun i hi => ?_, List.nodup_cons.mpr ⟨fun hi => ?_, h.nodup⟩⟩
    · rcases List.mem_cons.mp hi with rfl | hi
      · exact ⟨⟨key.version + 1, none⟩, by simp [hc], rfl⟩
      · obtain ⟨cell, hcell, hv⟩ := h.vacant i hi
        by_cases hki : key.index = i
        · exact ⟨⟨cell.version + 1, none⟩, by simp [hki, hcell], rfl⟩
        · exact ⟨cell, by simp [hki, hcell], hv⟩
    · obtain ⟨cell, hcell, hv⟩ := h.vacant _ hi
      rw [hc] at hcell
      cases hcell
      cases hv

/-! The keys of a table in the order of its slots. -/

def keys (s : Slots α) : List SlotKey :=
  s.cells.zipIdx.filterMap fun x => x.1.value.map fun _ => ⟨x.2, x.1.version⟩

theorem mem_keys {s : Slots α} {key : SlotKey} : key ∈ s.keys ↔ (s.get? key).isSome := by
  rw [Option.isSome_iff_exists]
  simp only [keys, List.mem_filterMap, List.mem_zipIdx_iff_getElem?, get?_eq_some_iff]
  constructor
  · rintro ⟨⟨⟨version, value⟩, i⟩, hi, hx⟩
    obtain ⟨a, ha, rfl⟩ := Option.map_eq_some_iff.mp hx
    cases ha
    exact ⟨a, hi⟩
  · rintro ⟨a, ha⟩
    exact ⟨(⟨key.version, some a⟩, key.index), ha, rfl⟩

/-- Keys are listed by slot and not by age. -/
theorem keys_sorted (s : Slots α) : s.keys.Pairwise fun j k => j.index < k.index := by
  rw [keys, List.pairwise_filterMap]
  have hidx : s.cells.zipIdx.Pairwise fun x y => x.2 < y.2 := by
    have h : (s.cells.zipIdx.map Prod.snd).Pairwise (· < ·) := by
      rw [List.zipIdx_map_snd]
      exact List.pairwise_lt_range'
    exact List.pairwise_map.mp h
  refine hidx.imp fun {x y} hxy j hj k hk => ?_
  obtain ⟨_, -, rfl⟩ := Option.map_eq_some_iff.mp hj
  obtain ⟨_, -, rfl⟩ := Option.map_eq_some_iff.mp hk
  exact hxy

theorem keys_nodup (s : Slots α) : s.keys.Nodup :=
  s.keys_sorted.imp fun hlt he => by simp [he] at hlt

theorem filterMap_get?_keys (s : Slots α) : s.keys.filterMap s.get? = s.values := by
  rw [keys, List.filterMap_filterMap, values]
  have h : ∀ x ∈ s.cells.zipIdx,
      ((x.1.value.map fun _ => (⟨x.2, x.1.version⟩ : SlotKey)).bind s.get?) = x.1.value := by
    intro x hx
    have hc := List.mem_zipIdx_iff_getElem?.mp hx
    cases hv : x.1.value with
    | none => rfl
    | some a => simp [get?, hc, hv]
  rw [List.filterMap_congr h]
  exact (List.filterMap_map ..).symm.trans (by rw [List.zipIdx_map_fst])

theorem exists_of_mem_values {s : Slots α} {a : α} (h : a ∈ s.values) :
    ∃ key, s.get? key = some a := by
  rw [← filterMap_get?_keys] at h
  obtain ⟨key, -, hk⟩ := List.mem_filterMap.mp h
  exact ⟨key, hk⟩

theorem length_keys (s : Slots α) : s.keys.length = s.size := by
  have h := congrArg List.length s.filterMap_get?_keys
  rw [size, ← h]
  exact (List.filterMap_length_eq_length.mpr fun key hkey => mem_keys.mp hkey).symm

/-! Accounts. -/

/-- A table after insertions that gave out the keys `made`, and removals of the keys `gone`. -/
structure Accounts (s : Slots α) (made gone : List SlotKey) : Prop extends s.Tidy where
  present : ∀ key, (s.get? key).isSome ↔ key ∈ made ∧ key ∉ gone
  /-- The next key of a slot is a new one. -/
  used : ∀ key ∈ made, ∃ cell, s.cells[key.index]? = some cell ∧
    (key.version < cell.version ∨ key.version = cell.version ∧ cell.value.isSome)
  made_nodup : made.Nodup
  gone_nodup : gone.Nodup
  gone_made : ∀ key ∈ gone, key ∈ made

namespace Accounts

variable {s : Slots α} {made gone : List SlotKey}

theorem empty : Accounts ({} : Slots α) [] [] where
  toTidy := tidy_empty
  present := by simp [get?]
  used := by simp
  made_nodup := List.nodup_nil
  gone_nodup := List.nodup_nil
  gone_made := by simp

/-- Versions grow with each use of a slot, so no key is given out twice. -/
theorem fresh (h : s.Accounts made gone) (a : α) : (s.insert a).1 ∉ made := by
  intro hm
  obtain ⟨cell, hc, hu⟩ := h.used _ hm
  cases hf : s.free with
  | nil =>
    rw [insert_of_full hf] at hc
    simp at hc
  | cons i rest =>
    obtain ⟨free, hfree, hv⟩ := h.vacant i (by simp [hf])
    rw [insert_of_free hf hfree] at hc hu
    simp only [hfree, Option.some.injEq] at hc
    subst hc
    simp [hv] at hu

theorem insert (h : s.Accounts made gone) (a : α) :
    (s.insert a).2.Accounts (made ++ [(s.insert a).1]) gone where
  toTidy := tidy_insert h.toTidy a
  present := by
    intro key
    have hfresh := h.fresh a
    have hgone : (s.insert a).1 ∉ gone := fun hg => hfresh (h.gone_made _ hg)
    rw [get?_insert h.toTidy]
    by_cases hk : key = (s.insert a).1
    · simp [hk, hgone]
    · simp [hk, h.present]
  used := by
    have hself : ∃ cell, (s.insert a).2.cells[(s.insert a).1.index]? = some cell ∧
        (s.insert a).1.version = cell.version ∧ cell.value.isSome := by
      have hget := get?_eq_some_iff.mp (show (s.insert a).2.get? (s.insert a).1 = some a by
        simp [get?_insert h.toTidy])
      exact ⟨_, hget, rfl, rfl⟩
    intro key hkey
    rcases List.mem_append.mp hkey with hkey | hkey
    · obtain ⟨cell, hc, hu⟩ := h.used key hkey
      cases hf : s.free with
      | nil =>
        have hlt := (List.getElem?_eq_some_iff.mp hc).1
        rw [insert_of_full hf]
        exact ⟨cell, by simp [List.getElem?_append_left hlt, hc], hu⟩
      | cons i rest =>
        obtain ⟨free, hfree, hv⟩ := h.vacant i (by simp [hf])
        rw [insert_of_free hf hfree]
        by_cases hi : i = key.index
        · rw [hi, hc] at hfree
          cases hfree
          exact ⟨{ cell with value := some a }, by simp [hi, hc], .inl (by simpa [hv] using hu)⟩
        · exact ⟨cell, by simp [hi, hc], hu⟩
    · rw [List.mem_singleton.mp hkey]
      obtain ⟨cell, hc, hu⟩ := hself
      exact ⟨cell, hc, .inr hu⟩
  made_nodup := by
    refine List.nodup_append.mpr ⟨h.made_nodup, List.nodup_singleton _, ?_⟩
    intro key hkey k hk he
    rw [List.mem_singleton] at hk
    exact h.fresh a (hk ▸ he ▸ hkey)
  gone_nodup := h.gone_nodup
  gone_made := fun key hkey => List.mem_append_left _ (h.gone_made key hkey)

/-- A removal succeeds exactly for a key that was given out and has not been removed. -/
theorem fst_remove_eq_true_iff (h : s.Accounts made gone) (key : SlotKey) :
    (s.remove key).1 = true ↔ key ∈ made ∧ key ∉ gone := by
  rw [fst_remove]
  exact h.present key

theorem remove (h : s.Accounts made gone) (key : SlotKey) :
    (s.remove key).2.Accounts made (gone ++ if (s.remove key).1 then [key] else []) := by
  cases hr : (s.remove key).1 with
  | false =>
    have hn : s.get? key = none := by simpa [fst_remove] using hr
    rw [remove_of_get?_none hn]
    simpa using h
  | true =>
    -- The version of the slot moves on, past every key that was given out for it.
    obtain ⟨hm, hg⟩ := (h.fst_remove_eq_true_iff key).mp hr
    obtain ⟨a, ha⟩ := Option.isSome_iff_exists.mp ((h.present key).mpr ⟨hm, hg⟩)
    rw [if_pos rfl]
    refine ⟨tidy_remove h.toTidy key, ?_, ?_, h.made_nodup, ?_, ?_⟩
    · intro other
      rw [get?_remove]
      by_cases ho : other = key
      · simp [ho]
      · simp [ho, h.present]
    · rw [remove_of_get? ha]
      intro other hother
      obtain ⟨cell, hc, hu⟩ := h.used other hother
      by_cases hi : key.index = other.index
      · refine ⟨⟨cell.version + 1, none⟩, by simp [hi, hc], .inl ?_⟩
        change other.version < cell.version + 1
        omega
      · exact ⟨cell, by simp [hi, hc], hu⟩
    · refine List.nodup_append.mpr ⟨h.gone_nodup, List.nodup_singleton _, ?_⟩
      intro j hj k hk he
      rw [List.mem_singleton] at hk
      exact hg (hk ▸ he ▸ hj)
    · intro j hj
      rcases List.mem_append.mp hj with hj | hj
      · exact h.gone_made j hj
      · rwa [List.mem_singleton.mp hj]

theorem keys_perm (h : s.Accounts made gone) : s.keys.Perm (made.filter (· ∉ gone)) := by
  rw [List.perm_ext_iff_of_nodup s.keys_nodup (h.made_nodup.filter _)]
  intro key
  simp [mem_keys, h.present]

theorem size_add_length (h : s.Accounts made gone) : s.size + gone.length = made.length := by
  have hsize : s.size = (made.filter (· ∉ gone)).length := by
    rw [← length_keys, h.keys_perm.length_eq]
  -- No key is given out or removed twice, so the removed ones are counted once on each side.
  have hgone : (made.filter (· ∈ gone)).Perm gone := by
    rw [List.perm_ext_iff_of_nodup (h.made_nodup.filter _) h.gone_nodup]
    intro key
    simpa using h.gone_made key
  have hsplit := List.length_eq_length_filter_add (l := made) (· ∈ gone)
  rw [hsize, ← hgone.length_eq, hsplit]
  simp only [decide_not]
  omega

end Accounts
end ScreenDeck.Slots
