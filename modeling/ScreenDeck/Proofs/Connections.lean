import ScreenDeck.Proofs.SignalBooks

/-! Connections answer for themselves. A slot of a table is used again and again, but a key or a
subscription of an earlier use answers as if it never were. -/

namespace ScreenDeck.Script.Bench

def find? (b : Bench) (n : Nat) (key : SlotKey) : Option Listener :=
  (b.table? n).bind (·.get? key)

theorem find?_eq_none_of_later {b : Bench} {n : Nat} (h : b.number < n) (key : SlotKey) :
    b.find? n key = none := by
  have hs : b.source? n = none := by
    cases hs : b.source? n with
    | none => rfl
    | some s =>
      have := le_number_of_source? hs
      omega
  simp [find?, table?, hs]

theorem source?_of_le {b : Bench} {n : Nat} (h : n ≤ b.number) : ∃ s, b.source? n = some s := by
  by_cases hn : n = b.number
  · exact ⟨b.current, by rw [hn, source?_number]⟩
  · have hlt : n < b.retired.length := Nat.lt_of_le_of_ne h hn
    exact ⟨b.retired[n], by rw [source?, if_neg hn, List.getElem?_eq_getElem hlt]⟩

/-- What is done with connections next answers by what was done with them before. A key or a
subscription whose connection is gone does nothing, although the slot may be in use again. -/
structure Answers (es : List Event) (b : Bench) : Prop where
  present : ∀ n key, (b.find? n key).isSome ↔ key ∈ made es n ∧ key ∉ gone es n
  count : ∀ n s, b.source? n = some s →
    s.signal.count + (gone es n).length = (made es n).length
  disconnect : ∀ n s, b.source? n = some s → ∀ key ∈ made es n,
    ((s.signal.disconnect key).1 = true ↔ key ∉ gone es n)
  release : ∀ x ∈ b.held, ((b.release x.2).1 = true ↔
    .released x.2.source x.2.subscription.key ∉ es ∧ b.alive x.2.source = true ∧
      x.2.subscription.key ∉ gone es x.2.source)
  stale : ∀ n s, b.source? n = some s → ∀ key ∈ gone es n, (s.signal.disconnect key).2 = s.signal
  spent : ∀ x ∈ b.held, .released x.2.source x.2.subscription.key ∈ es ∨
    x.2.subscription.key ∈ gone es x.2.source → (b.release x.2).2 = b

theorem Books.accounts {es : List Event} {b : Bench} (h : Books es b) {n : Nat} {s : Source}
    (hs : b.source? n = some s) : s.signal.slots.Accounts (made es n) (gone es n) :=
  h.table n _ (by rw [table?, hs]; rfl)

theorem Books.present {es : List Event} {b : Bench} (h : Books es b) (n : Nat) (key : SlotKey) :
    (b.find? n key).isSome ↔ key ∈ made es n ∧ key ∉ gone es n := by
  by_cases hn : n ≤ b.number
  · obtain ⟨s, hs⟩ := source?_of_le hn
    have hfind : b.find? n key = s.signal.slots.get? key := by
      rw [find?, table?, hs]
      rfl
    rw [hfind]
    exact (h.accounts hs).present key
  · have hlater := Nat.lt_of_not_le hn
    rw [find?_eq_none_of_later hlater, (h.later n hlater).1]
    simp

/-- A release succeeds once, as long as its signal lives and nobody else has removed the connection. -/
theorem fst_release_eq_true_iff {es : List Event} {b : Bench} (hb : Books es b)
    (hh : Holdings es b.held) {x : String × Held} (hx : x ∈ b.held) :
    (b.release x.2).1 = true ↔ .released x.2.source x.2.subscription.key ∉ es ∧
      b.alive x.2.source = true ∧ x.2.subscription.key ∉ gone es x.2.source := by
  have hmade := hh.made x hx
  rw [← hh.active x hx]
  constructor
  · intro h
    rcases release_cases b x.2 with hr | ⟨ha, hl, s, hs, hr⟩
    · rw [hr] at h
      cases h
    · rw [hr] at h
      exact ⟨ha, hl, (((hb.accounts hs).fst_remove_eq_true_iff _).mp h).2⟩
  · rintro ⟨ha, hl, hg⟩
    obtain ⟨s, hs⟩ := source?_of_alive hl
    rw [release_of_live hs ha hl]
    exact ((hb.accounts hs).fst_remove_eq_true_iff _).mpr ⟨hmade, hg⟩

theorem answers_of_booked {es : List Event} {b : Bench} (hb : Books es b)
    (hh : Holdings es b.held) : Answers es b where
  present := hb.present
  count := fun _ _ hs => (hb.accounts hs).size_add_length
  disconnect := by
    intro n s hs key hkey
    have hr := (hb.accounts hs).fst_remove_eq_true_iff key
    exact hr.trans (and_iff_right hkey)
  release := fun x hx => fst_release_eq_true_iff hb hh hx
  stale := by
    intro n s hs key hkey
    have hn : s.signal.slots.get? key = none := by
      have hp := (hb.accounts hs).present key
      simpa [hkey] using hp
    rw [Signal.disconnect, Slots.remove_of_get?_none hn]
  spent := by
    intro x hx hspent
    apply release_of_refused
    rw [← Bool.not_eq_true, fst_release_eq_true_iff hb hh hx]
    rintro ⟨hr, -, hg⟩
    exact hspent.elim hr hg

def midEmission : Bench :=
  (({} : Bench).perform (.connect "first" [])).2.modifySource 0 fun s =>
    { s with emissions := s.emissions + 1 }

/-- In the middle of an emission a connection is removed, and a subscription takes its slot. -/
def reusedSlot : Bench :=
  let b := midEmission.modifySource 0 fun s =>
    { s with signal := (midEmission.current.signal.disconnect ⟨0, 0⟩).2 }
  (b.perform (.subscribe "second" [])).2

end ScreenDeck.Script.Bench
