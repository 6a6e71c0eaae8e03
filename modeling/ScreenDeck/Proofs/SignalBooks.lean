import ScreenDeck.Proofs.SignalHistories
import ScreenDeck.Proofs.SlotTables

/-! What signals and subscriptions know of their history. The table of each signal accounts for the
connections made and removed on it, and each subscription that is held has one of its own. -/

namespace ScreenDeck.Script.Bench

/-! The table of each signal. -/

def table? (b : Bench) (n : Nat) : Option (Slots Listener) :=
  (b.source? n).map (·.signal.slots)

@[simp]
theorem number_modifySource (b : Bench) (n : Nat) (f : Source → Source) :
    (b.modifySource n f).number = b.number := by
  unfold modifySource
  split <;> simp [number]

@[simp]
theorem held_modifySource (b : Bench) (n : Nat) (f : Source → Source) :
    (b.modifySource n f).held = b.held := by
  unfold modifySource
  split <;> rfl

theorem source?_modifySource (b : Bench) (m n : Nat) (f : Source → Source) :
    (b.modifySource m f).source? n = if m = n then (b.source? n).map f else b.source? n := by
  rw [source?, source?, number_modifySource]
  unfold modifySource
  by_cases hm : m = b.number
  · subst hm
    by_cases hn : b.number = n
    · simp [hn]
    · have hn' : ¬ n = b.number := fun he => hn he.symm
      simp [hn, hn']
  · by_cases hn : n = b.number
    · subst hn
      simp [hm]
    · simp only [hm, hn, if_false, List.getElem?_modify]
      split <;> simp

theorem le_number_of_source? {b : Bench} {n : Nat} {s : Source} (h : b.source? n = some s) :
    n ≤ b.number := by
  unfold source? at h
  split at h
  · omega
  · have hlt := (List.getElem?_eq_some_iff.mp h).1
    exact Nat.le_of_lt hlt

theorem source?_number (b : Bench) : b.source? b.number = some b.current := if_pos rfl

theorem modifySource_eq_self {b : Bench} {n : Nat} {s : Source} {f : Source → Source}
    (hs : b.source? n = some s) (hf : f s = s) : b.modifySource n f = b := by
  unfold source? at hs
  unfold modifySource
  split at hs
  · cases hs
    rw [if_pos ‹_›, hf]
  · have hr : b.retired.modify n f = b.retired := by
      apply List.ext_getElem?
      intro i
      by_cases hi : n = i
      · subst hi
        simp [hs, hf]
      · simp [hi]
    rw [if_neg ‹_›, hr]

theorem table?_modifySource (b : Bench) (m n : Nat) (f : Source → Source) :
    (b.modifySource m f).table? n =
      if m = n then (b.source? n).map fun s => (f s).signal.slots else b.table? n := by
  rw [table?, source?_modifySource]
  split
  · rw [Option.map_map]
    rfl
  · rfl

/-- The tables agree with the events so far, and later signals have none. -/
structure Books (es : List Event) (b : Bench) : Prop where
  table : ∀ n t, b.table? n = some t → t.Accounts (made es n) (gone es n)
  later : ∀ n, b.number < n → made es n = [] ∧ gone es n = []

namespace Books

variable {es : List Event} {b c : Bench}

theorem start : Books [] {} where
  table := by
    intro n t ht
    obtain ⟨s, hs, rfl⟩ := Option.map_eq_some_iff.mp ht
    have hn := le_number_of_source? hs
    obtain rfl : n = 0 := by simpa [number] using hn
    cases hs
    exact .empty
  later := by simp

theorem congr (h : Books es b) (hn : c.number = b.number) (ht : ∀ n, c.table? n = b.table? n) :
    Books es c where
  table := by
    intro n t htable
    exact h.table n t (ht n ▸ htable)
  later := by
    intro n hlater
    exact h.later n (hn ▸ hlater)

theorem append (h : Books es b) {fs : List Event} (hm : ∀ n, made fs n = [])
    (hg : ∀ n, gone fs n = []) : Books (es ++ fs) b where
  table := by simpa [hm, hg] using h.table
  later := by simpa [hm, hg] using h.later

theorem modifySource (h : Books es b) (n : Nat) {f : Source → Source}
    (hf : ∀ s, (f s).signal.slots = s.signal.slots) : Books es (b.modifySource n f) := by
  refine h.congr (number_modifySource b n f) fun m => ?_
  rw [table?_modifySource]
  split
  · subst m
    simp only [hf]
    rfl
  · rfl

theorem current (h : Books es b) :
    b.current.signal.slots.Accounts (made es b.number) (gone es b.number) :=
  h.table b.number _ (by rw [table?, source?_number]; rfl)

/-- The key of a new connection was never given out before. -/
theorem connect (h : Books es b) (l : Listener) :
    Books (es ++ [.connected b.number (b.connect l).1]) (b.connect l).2 where
  table := by
    have hc : (b.connect l).2 =
        b.modifySource b.number fun s => { s with signal := (b.current.signal.connect l).2 } := by
      simp [Bench.modifySource, Bench.connect]
    intro n t ht
    rw [hc, table?_modifySource] at ht
    by_cases hn : b.number = n
    · subst hn
      rw [if_pos rfl, source?_number] at ht
      cases ht
      rw [made_append, gone_append, made_connected, gone_connected, if_pos rfl, List.append_nil]
      exact h.current.insert l
    · rw [if_neg hn] at ht
      simpa [hn] using h.table n t ht
  later := by
    intro n hlater
    have hn : ¬ b.number = n := by
      have hnum : (b.connect l).2.number = b.number := rfl
      omega
    simpa [hn] using h.later n hlater

/-- The event is only there if the removal finds something. -/
theorem remove (h : Books es b) {n : Nat} {s : Source} (hs : b.source? n = some s) (key : SlotKey) :
    Books (es ++ removal n key (s.signal.disconnect key).1)
      (b.modifySource n fun x => { x with signal := (s.signal.disconnect key).2 }) where
  table := by
    intro m t ht
    rw [table?_modifySource] at ht
    by_cases hm : n = m
    · subst hm
      rw [if_pos rfl, hs] at ht
      cases ht
      have ha := (h.table n s.signal.slots (by rw [table?, hs]; rfl)).remove key
      change (s.signal.slots.remove key).2.Accounts _ _
      cases hr : (s.signal.slots.remove key).1 <;>
        simpa [hr, removal, Signal.disconnect] using ha
    · rw [if_neg hm] at ht
      have ha := h.table m t ht
      unfold removal
      split <;> simpa [hm] using ha
  later := by
    intro m hlater
    rw [number_modifySource] at hlater
    have hm : ¬ n = m := by
      have := le_number_of_source? hs
      omega
    have hl := h.later m hlater
    unfold removal
    split <;> simpa [hm] using hl

end Books

theorem Books.disconnect {es : List Event} {b : Bench} (h : Books es b) (key : SlotKey) :
    Books (es ++ removal b.number key (b.current.signal.disconnect key).1)
      { b with current.signal := (b.current.signal.disconnect key).2 } := by
  have hr := h.remove (source?_number b) key
  rwa [Bench.modifySource, if_pos rfl] at hr

@[simp]
theorem not_released_mem_removal (m n : Nat) (j key : SlotKey) (removed : Bool) :
    .released m j ∉ removal n key removed := by
  cases removed <;> simp [removal]

/-! Subscriptions that are held. -/

theorem release_of_live {b : Bench} {h : Held} {s : Source} (hs : b.source? h.source = some s)
    (ha : h.subscription.active = true) (hl : b.alive h.source = true) :
    b.release h = ((s.signal.disconnect h.subscription.key).1,
      b.modifySource h.source fun x =>
        { x with signal := (s.signal.disconnect h.subscription.key).2 }) := by
  simp [release, hs, ha, hl]

theorem release_of_spent {b : Bench} {h : Held} (ha : h.subscription.active = false) :
    b.release h = (false, b) := by
  unfold release
  split <;> simp [ha]

theorem release_of_dead {b : Bench} {h : Held} (hl : b.alive h.source = false) :
    b.release h = (false, b) := by
  unfold release
  split <;> simp [hl]

theorem source?_of_alive {b : Bench} {n : Nat} (hl : b.alive n = true) :
    ∃ s, b.source? n = some s := by
  unfold alive at hl
  by_cases hn : n = b.number
  · exact ⟨b.current, by rw [hn, source?_number]⟩
  · cases hs : b.source? n with
    | none => simp [hn, hs] at hl
    | some s => exact ⟨s, rfl⟩

/-- A release disconnects nothing, or it is the first one on a living signal. -/
theorem release_cases (b : Bench) (h : Held) :
    b.release h = (false, b) ∨ h.subscription.active = true ∧ b.alive h.source = true ∧
      ∃ s, b.source? h.source = some s ∧
        b.release h = ((s.signal.disconnect h.subscription.key).1,
          b.modifySource h.source fun x =>
            { x with signal := (s.signal.disconnect h.subscription.key).2 }) := by
  cases ha : h.subscription.active with
  | false => exact .inl (release_of_spent ha)
  | true =>
    cases hl : b.alive h.source with
    | false => exact .inl (release_of_dead hl)
    | true =>
      obtain ⟨s, hs⟩ := source?_of_alive hl
      exact .inr ⟨rfl, rfl, s, hs, release_of_live hs ha hl⟩

theorem release_of_refused {b : Bench} {h : Held} (hr : (b.release h).1 = false) :
    (b.release h).2 = b := by
  rcases release_cases b h with hc | ⟨-, -, s, hs, hc⟩
  · rw [hc]
  · rw [hc] at hr ⊢
    have hn : s.signal.slots.get? h.subscription.key = none := by
      rw [← Option.not_isSome_iff_eq_none, ← Slots.fst_remove, Bool.not_eq_true]
      exact hr
    refine modifySource_eq_self hs ?_
    rw [Signal.disconnect, Slots.remove_of_get?_none hn]

theorem held_release (b : Bench) (h : Held) : (b.release h).2.held = b.held := by
  rcases release_cases b h with hr | ⟨-, -, s, -, hr⟩
  · rw [hr]
  · rw [hr, held_modifySource]

theorem Books.release {es : List Event} {b : Bench} (hb : Books es b) (h : Held) :
    Books (es ++ b.releaseEvents h) (b.release h).2 := by
  rw [releaseEvents, ← List.append_assoc]
  refine append ?_ (fun _ => rfl) fun _ => rfl
  rcases release_cases b h with hr | ⟨-, -, s, hs, hr⟩
  · rw [hr]
    simpa [removal] using hb
  · rw [hr]
    exact hb.remove hs _

def Held.id (h : Held) : Nat × SlotKey := (h.source, h.subscription.key)

/-- Every subscription that is held has a connection of its own, and is active until it is
released. -/
structure Holdings (es : List Event) (held : List (String × Held)) : Prop where
  made : ∀ x ∈ held, x.2.subscription.key ∈ made es x.2.source
  active : ∀ x ∈ held, x.2.subscription.active = true ↔
    .released x.2.source x.2.subscription.key ∉ es
  distinct : (held.map fun x => Held.id x.2).Nodup
  released : ∀ n key, .released n key ∈ es → key ∈ Script.made es n

namespace Holdings

variable {es fs : List Event} {held : List (String × Held)}

theorem start : Holdings [] [] where
  made := by simp
  active := by simp
  distinct := List.nodup_nil
  released := by simp

theorem append (h : Holdings es held) (hf : ∀ n key, .released n key ∉ fs) :
    Holdings (es ++ fs) held where
  made := by
    intro x hx
    rw [made_append]
    exact List.mem_append_left _ (h.made x hx)
  active := by
    intro x hx
    rw [h.active x hx, List.mem_append, not_or]
    simp [hf]
  distinct := h.distinct
  released := by
    intro n key hr
    rw [made_append]
    refine List.mem_append_left _ (h.released n key ?_)
    exact (List.mem_append.mp hr).resolve_right (hf n key)

theorem push (h : Holdings es held) (slot : String) {x : Held}
    (hm : x.subscription.key ∈ Script.made es x.source)
    (ha : x.subscription.active = true ↔ .released x.source x.subscription.key ∉ es)
    (hd : Held.id x ∉ held.map fun y => Held.id y.2) : Holdings es ((slot, x) :: held) where
  made := by
    intro y hy
    rcases List.mem_cons.mp hy with rfl | hy
    · exact hm
    · exact h.made y hy
  active := by
    intro y hy
    rcases List.mem_cons.mp hy with rfl | hy
    · exact ha
    · exact h.active y hy
  distinct := List.nodup_cons.mpr ⟨hd, h.distinct⟩
  released := h.released

theorem mem_of_lookup {slot : String} {x : Held} (hx : held.lookup slot = some x) :
    (slot, x) ∈ held := by
  obtain ⟨pre, post, he, -⟩ := List.lookup_eq_some_iff.mp hx
  simp [he]

theorem id_not_mem_without (h : Holdings es held) {slot : String} {x : Held}
    (hx : held.lookup slot = some x) :
    Held.id x ∉ (without slot held).map fun y => Held.id y.2 := by
  intro hm
  obtain ⟨y, hy, hid⟩ := List.mem_map.mp hm
  obtain ⟨hyh, hslot⟩ := List.mem_filter.mp hy
  -- No two names hold one subscription, so `y` would have the name that was left out.
  have hsame := List.inj_on_of_nodup_map h.distinct hyh (mem_of_lookup hx) hid
  simp [hsame] at hslot

theorem drop (h : Holdings es held) {slot : String} {x : Held} (hx : held.lookup slot = some x)
    (removed : Bool) :
    Holdings (es ++ (removal x.source x.subscription.key removed ++
      [.released x.source x.subscription.key])) (without slot held) where
  made := by
    intro y hy
    rw [made_append]
    exact List.mem_append_left _ (h.made y (List.mem_filter.mp hy).1)
  active := by
    intro y hy
    have hne : ¬ (y.2.source = x.source ∧ y.2.subscription.key = x.subscription.key) := by
      intro he
      apply h.id_not_mem_without hx
      exact List.mem_map.mpr ⟨y, hy, by simp [Held.id, he]⟩
    rw [h.active y (List.mem_filter.mp hy).1]
    unfold removal
    split <;> simp [hne]
  distinct := h.distinct.sublist (List.filter_sublist.map _)
  released := by
    intro n key hr
    have hxm := h.made _ (mem_of_lookup hx)
    rw [made_append]
    refine List.mem_append_left _ ?_
    rcases List.mem_append.mp hr with hr | hr
    · exact h.released n key hr
    · have hk : n = x.source ∧ key = x.subscription.key := by
        unfold removal at hr
        split at hr <;> simpa using hr
      rw [hk.1, hk.2]
      exact hxm

end Holdings

/-! Every history. -/

theorem dropHeld_of_none {b : Bench} {slot : String} (h : b.held.lookup slot = none) :
    b.dropHeld slot = (false, b) := by
  simp [dropHeld, h]

theorem dropHeld_of_some {b : Bench} {slot : String} {x : Held} (h : b.held.lookup slot = some x) :
    b.dropHeld slot = (true, { (b.release x).2 with held := without slot b.held }) := by
  simp [dropHeld, h, held_release]

theorem holdings_dropHeld {es : List Event} {b : Bench} (h : Holdings es b.held) (slot : String) :
    Holdings (es ++ b.dropEvents slot) (b.dropHeld slot).2.held := by
  unfold dropEvents
  cases hx : b.held.lookup slot with
  | none => simpa [dropHeld_of_none hx] using h
  | some x =>
    rw [dropHeld_of_some hx]
    exact h.drop hx _

theorem Books.dropHeld {es : List Event} {b : Bench} (h : Books es b) (slot : String) :
    Books (es ++ b.dropEvents slot) (b.dropHeld slot).2 := by
  unfold dropEvents
  cases hx : b.held.lookup slot with
  | none => simpa [dropHeld_of_none hx] using h
  | some x =>
    rw [dropHeld_of_some hx]
    exact (h.release x).congr rfl fun _ => rfl

theorem source?_replace (b : Bench) (n : Nat) :
    (b.perform .replace).2.source? n = if n = b.number + 1 then some {} else b.source? n := by
  have hnum : (b.perform .replace).2.number = b.number + 1 := by simp [perform, number]
  have hret : (b.perform .replace).2.retired = b.retired ++ [b.current] := rfl
  have hlen : b.retired.length = b.number := rfl
  rw [source?, source?, hnum, hret]
  by_cases hnew : n = b.number + 1
  · rw [if_pos hnew, if_pos hnew]
    rfl
  · rw [if_neg hnew, if_neg hnew]
    rcases Nat.lt_trichotomy n b.number with hn | hn | hn
    · rw [if_neg (by omega), List.getElem?_append_left (by omega)]
    · rw [if_pos hn, hn, ← hlen, List.getElem?_concat_length]
    · rw [if_neg (by omega), List.getElem?_eq_none (by simp; omega),
        List.getElem?_eq_none (by omega)]

theorem Books.replace {es : List Event} {b : Bench} (h : Books es b) :
    Books es (b.perform .replace).2 where
  table := by
    intro n t ht
    rw [table?, source?_replace] at ht
    by_cases hn : n = b.number + 1
    · obtain ⟨hm, hg⟩ := h.later n (by omega)
      rw [if_pos hn] at ht
      cases ht
      rw [hm, hg]
      exact .empty
    · rw [if_neg hn] at ht
      exact h.table n t ht
  later := by
    intro n hlater
    have hnum : b.number + 1 < n := by simpa [perform, number] using hlater
    exact h.later n (by omega)

theorem number_dropHeld (b : Bench) (slot : String) : (b.dropHeld slot).2.number = b.number := by
  cases hx : b.held.lookup slot with
  | none => rw [dropHeld_of_none hx]
  | some x =>
    rw [dropHeld_of_some hx]
    rcases release_cases b x with hr | ⟨-, -, s, -, hr⟩
    · rw [hr]
      rfl
    · rw [hr]
      exact number_modifySource b x.source _

theorem mem_held_of_dropHeld {b : Bench} {slot : String} {x : String × Held}
    (hx : x ∈ (b.dropHeld slot).2.held) : x ∈ b.held := by
  cases hl : b.held.lookup slot with
  | none => rwa [dropHeld_of_none hl] at hx
  | some y =>
    rw [dropHeld_of_some hl] at hx
    exact (List.mem_filter.mp hx).1

theorem held_of_released_mem_dropEvents {b : Bench} {slot : String} {n : Nat} {key : SlotKey}
    (hr : .released n key ∈ b.dropEvents slot) :
    ∃ x ∈ b.held, x.2.source = n ∧ x.2.subscription.key = key := by
  unfold dropEvents at hr
  cases hl : b.held.lookup slot with
  | none => simp [hl] at hr
  | some x =>
    have hx : n = x.source ∧ key = x.subscription.key := by
      simpa [hl, releaseEvents] using hr
    exact ⟨_, Holdings.mem_of_lookup hl, hx.1.symm, hx.2.symm⟩

theorem holdings_subscribe {es : List Event} {b : Bench} (hb : Books es b)
    (hh : Holdings es b.held) (slot : String) (body : List Command) :
    Holdings (es ++ b.events (.subscribe slot body)) (b.perform (.subscribe slot body)).2.held := by
  -- A key given out before cannot be the new one, so whatever was held or released is apart from it.
  have hfresh : (b.connect ⟨slot, body⟩).1 ∉ made es b.number :=
    hb.current.fresh ⟨slot, body⟩
  have hc : Holdings (es ++ [.connected b.number (b.connect ⟨slot, body⟩).1])
      (b.connect ⟨slot, body⟩).2.held := hh.append (by simp)
  have hnum : ((b.connect ⟨slot, body⟩).2.dropHeld slot).2.number = b.number :=
    number_dropHeld _ slot
  rw [events, List.append_cons]
  simp only [perform]
  rw [hnum]
  refine (holdings_dropHeld hc slot).push slot ?_ ?_ ?_
  · rw [made_append, made_append, made_connected, if_pos rfl]
    simp
  · simp only [true_iff, List.mem_append, not_or]
    refine ⟨⟨fun hr => hfresh (hh.released _ _ hr), by simp⟩, fun hr => ?_⟩
    obtain ⟨x, hx, hn, hk⟩ := held_of_released_mem_dropEvents hr
    exact hfresh (hn ▸ hk ▸ hh.made x hx)
  · intro hm
    obtain ⟨x, hx, hid⟩ := List.mem_map.mp hm
    have hheld := mem_held_of_dropHeld (b := (b.connect ⟨slot, body⟩).2) hx
    have hmade := hh.made x hheld
    obtain ⟨hn, hk⟩ : x.2.source = b.number ∧
        x.2.subscription.key = (b.connect ⟨slot, body⟩).1 := Prod.ext_iff.mp hid
    exact hfresh (hn ▸ hk ▸ hmade)

theorem holdings_release {es : List Event} {b : Bench} (hh : Holdings es b.held) (slot : String) :
    Holdings (es ++ b.events (.release slot)) (b.perform (.release slot)).2.held := by
  cases hx : b.held.lookup slot with
  | none => simpa [events, dropEvents, perform, hx] using hh
  | some x =>
    simp only [events, dropEvents, perform, hx]
    rw [held_release]
    have hid := hh.id_not_mem_without hx
    refine (hh.drop hx _).push slot ?_ ?_ hid
    · rw [made_append]
      exact List.mem_append_left _ (hh.made _ (Holdings.mem_of_lookup hx))
    · simp

theorem Books.perform {es : List Event} {b : Bench} (h : Books es b) (c : Command) :
    Books (es ++ b.events c) (b.perform c).2 := by
  have hsame : Books (es ++ []) b := by simpa using h
  cases c with
  | connect slot body => exact (h.connect ⟨slot, body⟩).congr rfl fun _ => rfl
  | disconnect slot =>
    cases hk : b.keys.lookup slot with
    | none => simpa [events, Bench.perform, hk] using h
    | some key =>
      simp only [events, Bench.perform, hk]
      exact h.disconnect key
  | subscribe slot body =>
    rw [events, List.append_cons]
    exact ((h.connect ⟨slot, body⟩).dropHeld slot).congr rfl fun _ => rfl
  | release slot =>
    cases hx : b.held.lookup slot with
    | none => simpa [events, dropEvents, Bench.perform, hx] using h
    | some x =>
      simp only [events, dropEvents, Bench.perform, hx]
      exact (h.release x).congr rfl fun _ => rfl
  | active slot =>
    cases hx : b.held.lookup slot <;> simpa [events, Bench.perform, hx] using h
  | drop slot => exact h.dropHeld slot
  | block value =>
    have hc : (b.perform (.block value)).2 =
        b.modifySource b.number fun s => { s with signal.blocked := value } := by
      simp [Bench.perform, modifySignal, Bench.modifySource]
    rw [hc]
    exact hsame.modifySource _ fun _ => rfl
  | replace => simpa [events] using h.replace
  | _ => exact hsame

theorem holdings_perform {es : List Event} {b : Bench} (hb : Books es b)
    (hh : Holdings es b.held) (c : Command) :
    Holdings (es ++ b.events c) (b.perform c).2.held := by
  have hsame : Holdings (es ++ []) b.held := by simpa using hh
  cases c with
  | connect slot body => exact hh.append (by simp [events])
  | disconnect slot =>
    cases hk : b.keys.lookup slot with
    | none => simpa [events, perform, hk] using hh
    | some key =>
      simp only [events, perform, hk]
      exact hh.append (by simp)
  | subscribe slot body => exact holdings_subscribe hb hh slot body
  | release slot => exact holdings_release hh slot
  | active slot =>
    cases hx : b.held.lookup slot <;> simpa [events, perform, hx] using hh
  | drop slot => exact holdings_dropHeld hh slot
  | _ => exact hsame

/-- By the kinds of moves: commands, removals by key, and what an emission adds around its listeners. -/
theorem Move.booked {es fs : List Event} {b c : Bench} (hm : Move b fs c) (hb : Books es b)
    (hh : Holdings es b.held) : Books (es ++ fs) c ∧ Holdings (es ++ fs) c.held := by
  cases hm with
  | perform command => exact ⟨hb.perform command, holdings_perform hb hh command⟩
  | disconnect hs key =>
    rw [held_modifySource]
    exact ⟨hb.remove hs key, hh.append (by simp)⟩
  | start n =>
    rw [List.append_nil, held_modifySource]
    exact ⟨hb.modifySource n fun _ => rfl, hh⟩
  | finish n =>
    rw [List.append_nil, held_modifySource]
    exact ⟨hb.modifySource n fun _ => rfl, hh⟩
  | calls calls =>
    rw [List.append_nil]
    exact ⟨hb.congr rfl fun _ => rfl, hh⟩

theorem History.booked {es : List Event} {b : Bench} (h : History {} es b) :
    Books es b ∧ Holdings es b.held := by
  induction h with
  | start => exact ⟨.start, .start⟩
  | move _ hm ih => exact hm.booked ih.1 ih.2

end ScreenDeck.Script.Bench
