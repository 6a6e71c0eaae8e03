import ScreenDeck.Proofs.SignalBooks

/-! The order of calls. An emission calls its listeners in the order of the table. That is the order
in which they were connected as long as no listener has taken the slot of one that was removed
before a listener that is older than itself. -/

namespace ScreenDeck.Script.Bench

/-- The connections that are there, in the order in which they were made. -/
def live (es : List Event) (n : Nat) : List SlotKey := (made es n).filter (· ∉ gone es n)

/-- Listeners without commands are called in the order of the list, and nothing else is logged. -/
theorem calls_callAll (emission : Int32 → Bench → Option Bench) (value : Int32)
    {ls : List Listener} (hq : ∀ l ∈ ls, l.body = []) (b : Bench) :
    ∃ c, ls.foldlM (callWith emission value) b = some c ∧
      c.calls.toList = b.calls.toList ++ ls.map fun l => .called l.slot value := by
  induction ls generalizing b with
  | nil => exact ⟨b, rfl, by simp⟩
  | cons l ls ih =>
    -- A listener without commands is called, and that is all.
    have hl : callWith emission value b l = some (b.note (.called l.slot value)) := by
      rw [callWith, hq l (by simp)]
      rfl
    obtain ⟨c, hc, hcalls⟩ := ih (fun k hk => hq k (by simp [hk])) (b.note (.called l.slot value))
    refine ⟨c, ?_, ?_⟩
    · rw [List.foldlM_cons, hl]
      exact hc
    · rw [hcalls]
      simp [note]

@[simp]
theorem calls_modifySource (b : Bench) (n : Nat) (f : Source → Source) :
    (b.modifySource n f).calls = b.calls := by
  unfold modifySource
  split <;> rfl

theorem calls_emit (depth : Nat) (value : Int32) {b : Bench}
    (hq : ∀ l ∈ b.current.signal.audience, l.body = []) :
    ∃ c, emit (depth + 1) value b = some c ∧ c.calls.toList =
      b.calls.toList ++ b.current.signal.audience.map fun l => .called l.slot value := by
  obtain ⟨c, hc, hcalls⟩ := calls_callAll (emit depth) value hq
    (b.modifySource b.number fun s => { s with emissions := s.emissions + 1 })
  refine ⟨c.modifySource b.number fun s => { s with emissions := s.emissions - 1 }, ?_, ?_⟩
  · simp only [emit, hc]
    rfl
  · simpa using hcalls

/-- The table lists its keys by index. That is the order of connection exactly if each connection has a
higher index than those made before it. -/
theorem keys_eq_live_iff {es : List Event} {b : Bench} (h : Books es b) :
    b.current.signal.slots.keys = live es b.number ↔
      (live es b.number).Pairwise fun j k => j.index < k.index := by
  have hsorted := b.current.signal.slots.keys_sorted
  constructor
  · intro he
    rwa [he] at hsorted
  · intro hlive
    -- Both lists have the same keys, and only one order of them has increasing indices.
    refine h.current.keys_perm.eq_of_pairwise ?_ hsorted hlive
    intro j k _ _ hjk hkj
    omega

/-- An emission calls who is connected, in the order of the table. This is the order of connection
exactly when no listener has a slot before that of an older one. -/
theorem called_in_order_of_connection_iff {es : List Event} {b : Bench} (h : History {} es b)
    (hb : b.current.signal.blocked = false) :
    let signal := b.current.signal
    signal.audience = signal.slots.keys.filterMap signal.slots.get? ∧
      signal.slots.keys.Perm (live es b.number) ∧
      (∀ depth value, (∀ l ∈ signal.audience, l.body = []) →
        ∃ c, emit (depth + 1) value b = some c ∧
          c.calls.toList = b.calls.toList ++ signal.audience.map fun l => .called l.slot value) ∧
      (signal.slots.keys = live es b.number ↔
        (live es b.number).Pairwise fun j k => j.index < k.index) := by
  have hbooks := h.booked.1
  refine ⟨?_, hbooks.current.keys_perm, fun depth value hq => calls_emit depth value hq,
    keys_eq_live_iff hbooks⟩
  rw [Signal.audience, if_neg (by simp [hb]), Slots.filterMap_get?_keys]

def twoConnected : Bench :=
  ((({} : Bench).perform (.connect "first" [])).2.perform (.connect "second" [])).2

def thirdConnected (key : SlotKey) : Bench :=
  ((twoConnected.modifySource 0 fun s =>
    { s with signal := (twoConnected.current.signal.disconnect key).2 }).perform
      (.connect "third" [])).2

theorem history_twoConnected :
    History {} [.connected 0 ⟨0, 0⟩, .connected 0 ⟨1, 0⟩] twoConnected :=
  (History.start.move (.perform (.connect "first" []))).move (.perform (.connect "second" []))

/-- The slot of the second listener comes after the first. -/
theorem third_is_called_last :
    let es := [Event.connected 0 ⟨0, 0⟩, .connected 0 ⟨1, 0⟩, .removed 0 ⟨1, 0⟩,
      .connected 0 ⟨1, 1⟩]
    let b := thirdConnected ⟨1, 0⟩
    History {} es b ∧ b.current.signal.blocked = false ∧ live es 0 = [⟨0, 0⟩, ⟨1, 1⟩] ∧
      b.current.signal.slots.keys = live es 0 := by
  intro es b
  have h : History {} es b :=
    (history_twoConnected.move (.disconnect (source?_number twoConnected) ⟨1, 0⟩)).move
      (.perform (.connect "third" []))
  obtain ⟨-, -, -, horder⟩ := called_in_order_of_connection_iff h rfl
  exact ⟨h, rfl, by decide, horder.mpr (by decide)⟩

/-- The slot of the first listener comes before the second, although that is older than the third. -/
theorem third_is_called_before_second :
    let es := [Event.connected 0 ⟨0, 0⟩, .connected 0 ⟨1, 0⟩, .removed 0 ⟨0, 0⟩,
      .connected 0 ⟨0, 1⟩]
    let b := thirdConnected ⟨0, 0⟩
    History {} es b ∧ live es 0 = [⟨1, 0⟩, ⟨0, 1⟩] ∧
      b.current.signal.slots.keys = [⟨0, 1⟩, ⟨1, 0⟩] ∧
      (emit 1 7 b).map (·.calls.toList) = some [.called "third" 7, .called "second" 7] := by
  intro es b
  have h : History {} es b :=
    (history_twoConnected.move (.disconnect (source?_number twoConnected) ⟨0, 0⟩)).move
      (.perform (.connect "third" []))
  exact ⟨h, by decide, by decide, rfl⟩

end ScreenDeck.Script.Bench
