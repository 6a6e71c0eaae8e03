import ScreenDeck.Proofs.CallOrder

/-! Emissions within emissions. The listeners of an emission are those who are connected when it starts,
whatever they do to the signal while they are called. Each is called once. An emission that one of them
starts has listeners of its own, and they have all been called when the command ends that started it. -/

namespace ScreenDeck

def Slots.entries {α : Type} (s : Slots α) : List (SlotKey × α) :=
  s.keys.filterMap fun key => (s.get? key).map (key, ·)

namespace Slots

variable {α : Type}

theorem map_fst_entries (s : Slots α) : s.entries.map (·.1) = s.keys := by
  rw [entries, List.map_filterMap]
  have h : ∀ key ∈ s.keys, ((s.get? key).map (key, ·)).map (·.1) = some key := by
    intro key hkey
    obtain ⟨a, ha⟩ := Option.isSome_iff_exists.mp (mem_keys.mp hkey)
    rw [ha]
    rfl
  rw [List.filterMap_congr h, List.filterMap_some]

theorem map_snd_entries (s : Slots α) : s.entries.map (·.2) = s.values := by
  rw [entries, List.map_filterMap, ← filterMap_get?_keys]
  refine List.filterMap_congr fun key _ => ?_
  cases s.get? key <;> rfl

end Slots

namespace Script

/-- The value of the emission that a command starts, when a listener runs it that was called with a
value. -/
def Command.emits? (value : Int32) : Command → Option Int32
  | .emit w => some w
  | .countdown => if 1 < value then some (value - 1) else none
  | _ => none

/-- What happens in the course of an emission: listeners are called, their commands come to an end, and
further emissions run their course. -/
inductive Trace where
  | ended
  | called (key : SlotKey) (l : Listener) (rest : Trace)
  | answered (slot : String) (answer : Answer) (rest : Trace)
  | nested (start : Bench) (value : Int32) (inner rest : Trace)

structure Emission where
  start : Bench
  value : Int32
  trace : Trace

namespace Trace

def keys : Trace → List SlotKey
  | ended => []
  | called key _ rest => key :: rest.keys
  | answered _ _ rest => rest.keys
  | nested _ _ _ rest => rest.keys

/-- What the listeners of an emission of this value did, and those of all emissions within it. -/
def log : Int32 → Trace → List Call
  | _, ended => []
  | value, called _ l rest => .called l.slot value :: rest.log value
  | value, answered slot answer rest => .answered slot value answer :: rest.log value
  | value, nested _ w inner rest => inner.log w ++ rest.log value

def emissions : Trace → List Emission
  | ended => []
  | called _ _ rest => rest.emissions
  | answered _ _ rest => rest.emissions
  | nested start w inner rest => ⟨start, w, inner⟩ :: (inner.emissions ++ rest.emissions)

end Trace

/-- The course of an emission that still has these listeners to call. Until it calls the next of them,
the one that it has called runs commands. -/
inductive Follows : Option String → List (SlotKey × Listener) → Trace → Prop
  | ended {slot : Option String} : Follows slot [] .ended
  | called {slot : Option String} {key : SlotKey} {l : Listener} {turns : List (SlotKey × Listener)}
      {t : Trace} (h : Follows (some l.slot) turns t) :
      Follows slot ((key, l) :: turns) (.called key l t)
  | answered {slot : String} {turns : List (SlotKey × Listener)} {t : Trace} (answer : Answer)
      (h : Follows (some slot) turns t) : Follows (some slot) turns (.answered slot answer t)
  | nested {slot : String} {turns : List (SlotKey × Listener)} {t : Trace} (start : Bench) (w : Int32)
      (inner : Trace) (h : Follows (some slot) turns t) :
      Follows (some slot) turns (.nested start w inner (.answered slot .done t))

theorem Follows.keys_eq {slot : Option String} {turns : List (SlotKey × Listener)} {t : Trace}
    (h : Follows slot turns t) : t.keys = turns.map (·.1) := by
  induction h with
  | ended => rfl
  | called _ ih => exact congrArg (_ :: ·) ih
  | answered _ _ ih => exact ih
  | nested _ _ _ _ ih => exact ih

namespace Bench

/-- Whom an emission calls that starts now. -/
def callees (b : Bench) : List (SlotKey × Listener) :=
  if b.current.signal.blocked then [] else b.current.signal.slots.entries

theorem map_snd_callees (b : Bench) : b.callees.map (·.2) = b.current.signal.audience := by
  unfold callees Signal.audience
  split
  · rfl
  · exact Slots.map_snd_entries _

/-! How listeners behave. -/

def deed (emission : Int32 → Bench → Option Bench) (value : Int32) (slot : String) (b : Bench)
    (c : Command) : Option Bench := do
  let (answer, b) ← runWith emission (some value) c b
  some (b.note (.answered slot value answer))

/-- A listener that was called runs commands, one after the other, and removes connections of which it
knows the keys. -/
inductive Deeds (emission : Int32 → Bench → Option Bench) (value : Int32) (slot : String) :
    Bench → Bench → Prop
  | done (b : Bench) : Deeds emission value slot b b
  | run {b c d : Bench} (command : Command) (h : deed emission value slot b command = some c)
      (rest : Deeds emission value slot c d) : Deeds emission value slot b d
  | disconnect {b d : Bench} {n : Nat} {s : Source} (hs : b.source? n = some s) (key : SlotKey)
      (rest : Deeds emission value slot
        (b.modifySource n fun x => { x with signal := (s.signal.disconnect key).2 }) d) :
      Deeds emission value slot b d

/-- How a listener is called with a value, given what an emission does. -/
abbrev Behaviour := (Int32 → Bench → Option Bench) → Int32 → Bench → Listener → Option Bench

/-- When a listener is called it does such things, whichever and however many. How deep emissions may
stand in one another is nothing that it knows. -/
structure Behaviour.Lawful (call : Behaviour) : Prop where
  deeds : ∀ {emission value b l c}, call emission value b l = some c →
    Deeds emission value l.slot (b.note (.called l.slot value)) c
  mono : ∀ {emission emission' : Int32 → Bench → Option Bench} {value b l c},
    (∀ {w d e}, emission w d = some e → emission' w d = some e) →
      call emission value b l = some c → call emission' value b l = some c

/-- Emissions with listeners that behave in this way. -/
def emitBy (call : Behaviour) : Nat → Int32 → Bench → Option Bench
  | 0, _, _ => none
  | depth + 1, value, b => do
    let n := b.number
    let b' := b.modifySource n fun s => { s with emissions := s.emissions + 1 }
    let b' ← b.current.signal.audience.foldlM (call (emitBy call depth) value) b'
    some (b'.modifySource n fun s => { s with emissions := s.emissions - 1 })

theorem emit_eq_emitBy (depth : Nat) : emit depth = emitBy callWith depth := by
  induction depth with
  | zero => rfl
  | succ depth ih =>
    funext value b
    rw [emit, emitBy, ih]

theorem callWith_eq (emission : Int32 → Bench → Option Bench) (value : Int32) (b : Bench)
    (l : Listener) : callWith emission value b l =
      l.body.foldlM (deed emission value l.slot) (b.note (.called l.slot value)) := rfl

theorem foldlM_le {α : Type} {f g : Bench → α → Option Bench}
    (hfg : ∀ {b a c}, f b a = some c → g b a = some c) {xs : List α} {b c : Bench}
    (h : xs.foldlM f b = some c) : xs.foldlM g b = some c := by
  induction xs generalizing b with
  | nil => exact h
  | cons x xs ih =>
    rw [List.foldlM_cons] at h ⊢
    obtain ⟨d, hd, hc⟩ := Option.bind_eq_some_iff.mp h
    exact Option.bind_eq_some_iff.mpr ⟨d, hfg hd, ih hc⟩

/-- Of all commands, emissions are the only ones to depend on what an emission does. -/
theorem runWith_eq (emission : Int32 → Bench → Option Bench) (value : Int32) (c : Command)
    (b : Bench) : runWith emission (some value) c b = match c.emits? value with
      | none => some (b.perform c)
      | some w => (emission w b).map (Answer.done, ·) := by
  cases c with
  | countdown =>
    rw [runWith, Command.emits?]
    split <;> rfl
  | _ => rfl

/-- A command is carried out at once, or it starts an emission, which comes to its end first. -/
theorem deed_cases {emission : Int32 → Bench → Option Bench} {value : Int32} {b d : Bench}
    {slot : String} {c : Command} (h : deed emission value slot b c = some d) :
    (c.emits? value = none ∧ d = (b.perform c).2.note (.answered slot value (b.perform c).1)) ∨
      ∃ w y, c.emits? value = some w ∧ emission w b = some y ∧
        d = y.note (.answered slot value .done) := by
  rw [deed, runWith_eq] at h
  obtain ⟨r, hr, hd⟩ := Option.bind_eq_some_iff.mp h
  cases hc : c.emits? value with
  | none =>
    rw [hc] at hr
    obtain rfl := Option.some.inj hr
    exact .inl ⟨rfl, (Option.some.inj hd).symm⟩
  | some w =>
    rw [hc] at hr
    obtain ⟨y, hy, rfl⟩ := Option.map_eq_some_iff.mp hr
    exact .inr ⟨w, y, rfl, hy, (Option.some.inj hd).symm⟩

/-- If one emission ends whenever another does, and in the same way, so do the commands that start it. -/
theorem deed_le {emission emission' : Int32 → Bench → Option Bench} {value : Int32} {slot : String}
    {b d : Bench} {c : Command}
    (he : ∀ {w d e}, emission w d = some e → emission' w d = some e)
    (h : deed emission value slot b c = some d) : deed emission' value slot b c = some d := by
  obtain ⟨hc, rfl⟩ | ⟨w, y, hc, hy, rfl⟩ := deed_cases h
  · rw [deed, runWith_eq, hc]
    rfl
  · rw [deed, runWith_eq, hc]
    dsimp only
    rw [he hy]
    rfl

/-- A listener with a script runs its commands. -/
theorem lawful_callWith : Behaviour.Lawful callWith where
  deeds {emission value b l c} h := by
    rw [callWith_eq] at h
    generalize b.note (.called l.slot value) = b at h ⊢
    generalize l.body = commands at h
    induction commands generalizing b with
    | nil =>
      obtain rfl := Option.some.inj h
      exact .done b
    | cons command commands ih =>
      rw [List.foldlM_cons] at h
      obtain ⟨d, hd, hc⟩ := Option.bind_eq_some_iff.mp h
      exact .run command hd (ih d hc)
  mono he h := foldlM_le (deed_le he) h

section Depth

variable {call : Behaviour} (hcall : call.Lawful)
include hcall

theorem emitBy_succ {depth : Nat} {value : Int32} {b c : Bench}
    (h : emitBy call depth value b = some c) : emitBy call (depth + 1) value b = some c := by
  induction depth generalizing value b c with
  | zero => cases h
  | succ depth ih =>
    obtain ⟨d, hd, hc⟩ := Option.bind_eq_some_iff.mp h
    exact Option.bind_eq_some_iff.mpr ⟨d, foldlM_le (hcall.mono ih) hd, hc⟩

/-- More depth changes nothing. -/
theorem emitBy_of_le {depth d : Nat} (hd : depth ≤ d) {value : Int32} {b c : Bench}
    (h : emitBy call depth value b = some c) : emitBy call d value b = some c := by
  induction hd with
  | refl => exact h
  | step _ ih => exact emitBy_succ hcall ih

end Depth

/-! The course of an emission. -/

theorem calls_release (b : Bench) (h : Held) : (b.release h).2.calls = b.calls := by
  rcases release_cases b h with hr | ⟨-, -, s, -, hr⟩
  · rw [hr]
  · rw [hr]
    exact calls_modifySource _ _ _

theorem calls_dropHeld (b : Bench) (slot : String) : (b.dropHeld slot).2.calls = b.calls := by
  unfold dropHeld
  cases b.held.lookup slot with
  | none => rfl
  | some h => exact calls_release b h

theorem calls_perform (b : Bench) (c : Command) : (b.perform c).2.calls = b.calls := by
  cases c with
  | disconnect slot =>
    rw [perform]
    cases b.keys.lookup slot <;> rfl
  | subscribe slot body => exact calls_dropHeld (b.connect ⟨slot, body⟩).2 slot
  | release slot =>
    rw [perform]
    cases b.held.lookup slot with
    | none => rfl
    | some h => exact calls_release b h
  | active slot =>
    rw [perform]
    cases b.held.lookup slot <;> rfl
  | drop slot => exact calls_dropHeld b slot
  | _ => rfl

theorem calls_note (b : Bench) (call : Call) :
    (b.note call).calls.toList = b.calls.toList ++ [call] := by
  simp [note]

/-- The emission started at some time after `b`, and from `b` on its calls stand in the log together. -/
structure Placed (b : Bench) (log : List Call) (x : Emission) : Prop where
  evolves : Evolves b x.start
  together : ∃ pre post, log = pre ++ x.trace.log x.value ++ post ∧
    x.start.calls.toList = b.calls.toList ++ pre

namespace Placed

variable {b b' : Bench} {log : List Call} {x : Emission}

theorem here (b : Bench) (value : Int32) (t : Trace) : Placed b (t.log value) ⟨b, value, t⟩ :=
  ⟨.refl b, [], [], by simp, by simp⟩

theorem before (h : Placed b log x) (more : List Call) : Placed b (log ++ more) x := by
  obtain ⟨pre, post, rfl, hstart⟩ := h.together
  exact ⟨h.evolves, pre, post ++ more, by simp, hstart⟩

theorem after (h : Placed b' log x) (hb : Evolves b b') {earlier : List Call}
    (hc : b'.calls.toList = b.calls.toList ++ earlier) : Placed b (earlier ++ log) x := by
  obtain ⟨pre, post, rfl, hstart⟩ := h.together
  exact ⟨hb.trans h.evolves, earlier ++ pre, post, by simp, by rw [hstart, hc, List.append_assoc]⟩

end Placed

structure Runs (emission : Int32 → Bench → Option Bench) (x : Emission) (c : Bench) : Prop where
  returns : emission x.value x.start = some c
  follows : Follows none x.start.callees x.trace
  log : c.calls.toList = x.start.calls.toList ++ x.trace.log x.value

theorem Runs.mono {emission emission' : Int32 → Bench → Option Bench} {x : Emission} {c : Bench}
    (h : Runs emission x c)
    (he : ∀ {value b c}, emission value b = some c → emission' value b = some c) :
    Runs emission' x c := ⟨he h.returns, h.follows, h.log⟩

/-- What has been done from `b` to `c` is this part of the course of an emission. -/
structure Course (emission : Int32 → Bench → Option Bench) (value : Int32) (b : Bench) (t : Trace)
    (c : Bench) : Prop where
  evolves : Evolves b c
  log : c.calls.toList = b.calls.toList ++ t.log value
  within : ∀ x ∈ t.emissions, Placed b (t.log value) x ∧ ∃ d, Runs emission x d

section Courses

variable {emission : Int32 → Bench → Option Bench} {value : Int32}

/-- Something else was done before. -/
theorem Course.after {b b' c : Bench} {t : Trace} (h : Course emission value b' t c)
    (hb : Evolves b b') {earlier : List Call}
    (hc : b'.calls.toList = b.calls.toList ++ earlier) :
    c.calls.toList = b.calls.toList ++ (earlier ++ t.log value) ∧
      ∀ x ∈ t.emissions, Placed b (earlier ++ t.log value) x ∧ ∃ d, Runs emission x d := by
  refine ⟨by rw [h.log, hc, List.append_assoc], fun x hx => ?_⟩
  obtain ⟨hplaced, hruns⟩ := h.within x hx
  exact ⟨hplaced.after hb hc, hruns⟩

variable (he : ∀ {w b c}, emission w b = some c →
  ∃ t, Runs emission ⟨b, w, t⟩ c ∧ Course emission w b t c)
include he

/-- The commands of a listener come before what is left. -/
theorem Deeds.exists_course {slot : String} {turns : List (SlotKey × Listener)} {b d c : Bench}
    (h : Deeds emission value slot b d)
    (hrest : ∃ t, Follows (some slot) turns t ∧ Course emission value d t c) :
    ∃ t, Follows (some slot) turns t ∧ Course emission value b t c := by
  induction h with
  | done b => exact hrest
  | @disconnect b d n s hs key _ ih =>
    obtain ⟨t, hfollows, ht⟩ := ih hrest
    let b' := b.modifySource n fun x => { x with signal := (s.signal.disconnect key).2 }
    have hmoves : Evolves b b' := .move (.disconnect hs key)
    have hcalls : b'.calls.toList = b.calls.toList ++ [] := by simp [b']
    obtain ⟨hlog, hwithin⟩ := ht.after hmoves hcalls
    exact ⟨t, hfollows, hmoves.trans ht.evolves, hlog, hwithin⟩
  | @run b e d k hk _ ih =>
    obtain ⟨t, hfollows, ht⟩ := ih hrest
    obtain ⟨-, rfl⟩ | ⟨w, y, -, hy, rfl⟩ := deed_cases hk
    · have hmoves : Evolves b ((b.perform k).2.note (.answered slot value (b.perform k).1)) :=
        (Evolves.move (.perform k)).trans (.move (.calls _))
      have hcalls := calls_note (b.perform k).2 (.answered slot value (b.perform k).1)
      rw [calls_perform] at hcalls
      obtain ⟨hlog, hwithin⟩ := ht.after hmoves hcalls
      exact ⟨.answered slot _ t, .answered _ hfollows, hmoves.trans ht.evolves, hlog, hwithin⟩
    · -- The emission within is over before the command ends.
      obtain ⟨inner, hruns, hinner⟩ := he hy
      have hmoves : Evolves b (y.note (.answered slot value .done)) :=
        hinner.evolves.trans (.move (.calls _))
      have hcalls : (y.note (.answered slot value .done)).calls.toList =
          b.calls.toList ++ (inner.log w ++ [.answered slot value .done]) := by
        rw [calls_note, hinner.log, List.append_assoc]
      obtain ⟨hlog, hwithin⟩ := ht.after hmoves hcalls
      rw [List.append_assoc] at hlog hwithin
      refine ⟨.nested b w inner (.answered slot .done t), .nested b w inner hfollows,
        hmoves.trans ht.evolves, hlog, fun x hx => ?_⟩
      rcases List.mem_cons.mp hx with rfl | hx
      · exact ⟨(Placed.here b w inner).before _, y, hruns⟩
      · rcases List.mem_append.mp hx with hx | hx
        · obtain ⟨hplaced, hd⟩ := hinner.within x hx
          exact ⟨hplaced.before _, hd⟩
        · exact hwithin x hx

/-- The listeners are called in turn, and each runs its commands before the next one is called. -/
theorem exists_course_callAll {call : Behaviour} (hcall : call.Lawful)
    {turns : List (SlotKey × Listener)} {b c : Bench}
    (h : (turns.map (·.2)).foldlM (call emission value) b = some c) (slot : Option String) :
    ∃ t, Follows slot turns t ∧ Course emission value b t c := by
  induction turns generalizing b slot with
  | nil =>
    obtain rfl := Option.some.inj h
    exact ⟨.ended, .ended, .refl b, by simp [Trace.log], nofun⟩
  | cons turn turns ih =>
    obtain ⟨key, l⟩ := turn
    rw [List.map_cons, List.foldlM_cons] at h
    obtain ⟨d, hd, hc⟩ := Option.bind_eq_some_iff.mp h
    obtain ⟨t, hfollows, ht⟩ := (hcall.deeds hd).exists_course he (ih hc (some l.slot))
    have hmoves : Evolves b (b.note (.called l.slot value)) := .move (.calls _)
    obtain ⟨hlog, hwithin⟩ := ht.after hmoves (calls_note b (.called l.slot value))
    exact ⟨.called key l t, .called hfollows, hmoves.trans ht.evolves, hlog, hwithin⟩

end Courses

/-- An emission that returns has run a course, and what was logged meanwhile is that of the course. The
induction is on the depth. -/
theorem emitBy_course {call : Behaviour} (hcall : call.Lawful) {depth : Nat} {value : Int32}
    {b c : Bench} (h : emitBy call depth value b = some c) :
    ∃ t, Runs (emitBy call depth) ⟨b, value, t⟩ c ∧ Course (emitBy call depth) value b t c := by
  induction depth generalizing value b c with
  | zero => cases h
  | succ depth ih =>
    obtain ⟨d, hd, hc⟩ := Option.bind_eq_some_iff.mp h
    obtain rfl := Option.some.inj hc
    rw [← map_snd_callees] at hd
    let b' := b.modifySource b.number fun s => { s with emissions := s.emissions + 1 }
    have hstart : b'.calls.toList = b.calls.toList ++ [] := by simp [b']
    have hmoves : Evolves b b' := .move (.start b.number)
    obtain ⟨t, hfollows, ht⟩ := exists_course_callAll ih hcall (b := b') hd none
    obtain ⟨hlog, hwithin⟩ := ht.after hmoves hstart
    rw [← calls_modifySource d b.number fun s => { s with emissions := s.emissions - 1 }] at hlog
    refine ⟨t, ⟨h, hfollows, hlog⟩, ?_, hlog, fun x hx => ?_⟩
    · exact (hmoves.trans ht.evolves).trans (.move (.finish b.number))
    · obtain ⟨hplaced, y, hruns⟩ := hwithin x hx
      exact ⟨hplaced, y, hruns.mono (emitBy_succ hcall)⟩

/-- The emission calls each connection once that is there when it starts, and no other, and returns
when the listener that was called last has run its commands. -/
structure Delivers (call : Behaviour) (es : List Event) (depth : Nat) (x : Emission) : Prop where
  history : History {} es x.start
  called : x.trace.keys.Perm (if x.start.current.signal.blocked then [] else live es x.start.number)
  once : x.trace.keys.Nodup
  follows : Follows none x.start.callees x.trace
  returns : ∃ c, emitBy call depth x.value x.start = some c ∧
    c.calls.toList = x.start.calls.toList ++ x.trace.log x.value

/-- The course follows the listeners of the start, whatever becomes of them on the way. -/
theorem Runs.delivers {call : Behaviour} {es : List Event} {depth : Nat} {x : Emission} {c : Bench}
    (h : Runs (emitBy call depth) x c) (hx : History {} es x.start) : Delivers call es depth x := by
  have hbooks := hx.booked.1.current
  have hcalled : x.trace.keys.Perm
      (if x.start.current.signal.blocked then [] else live es x.start.number) := by
    rw [h.follows.keys_eq, callees]
    split
    · exact .nil
    · rw [Slots.map_fst_entries]
      exact hbooks.keys_perm
  refine ⟨hx, hcalled, hcalled.nodup_iff.mpr ?_, h.follows, c, h.returns, h.log⟩
  split
  · exact List.nodup_nil
  · exact hbooks.made_nodup.filter _

/-- Listeners with scripts are lawful. Whatever lawful listeners do, an emission that returns has called
who was connected when it started, and nobody if the signal was blocked then. So has each emission
within it, which was over before anything else was done. -/
theorem emissions_call_who_is_connected {es : List Event} {b : Bench} (h : History {} es b)
    (value : Int32) :
    (Behaviour.Lawful callWith ∧ ∀ depth, emit depth = emitBy callWith depth) ∧
      ∀ call : Behaviour, call.Lawful →
        (b.current.signal.blocked = true → ∀ depth, ∃ c, emitBy call (depth + 1) value b = some c) ∧
        ∀ depth c, emitBy call depth value b = some c →
          (∀ d, depth ≤ d → emitBy call d value b = some c) ∧
            ∃ t : Trace, c.calls.toList = b.calls.toList ++ t.log value ∧
              Delivers call es depth ⟨b, value, t⟩ ∧
                ∀ x ∈ t.emissions, (∃ fs, Delivers call (es ++ fs) depth x) ∧
                  ∃ pre post, t.log value = pre ++ x.trace.log x.value ++ post ∧
                    x.start.calls.toList = b.calls.toList ++ pre := by
  refine ⟨⟨lawful_callWith, emit_eq_emitBy⟩, fun call hcall => ⟨fun hblocked depth => ?_, ?_⟩⟩
  · rw [emitBy, Signal.audience_of_blocked hblocked]
    exact ⟨_, rfl⟩
  · intro depth c hc
    refine ⟨fun d hd => emitBy_of_le hcall hd hc, ?_⟩
    obtain ⟨t, hruns, hcourse⟩ := emitBy_course hcall hc
    refine ⟨t, hcourse.log, hruns.delivers h, fun x hx => ?_⟩
    obtain ⟨hplaced, d, hd⟩ := hcourse.within x hx
    obtain ⟨fs, hfs⟩ := hplaced.evolves
    exact ⟨⟨fs, hd.delivers (h.trans hfs)⟩, hplaced.together⟩

/-- The first of two listeners disconnects the second, connects a third and emits again. The second
blocks the signal. -/
def rivals : Bench :=
  (({} : Bench).perform (.connect "a" [.disconnect "b", .connect "c" [], .countdown])).2.perform
    (.connect "b" [.block true]) |>.2

/-- The emission within calls the third listener, and then the second is called all the same. -/
theorem disconnected_listener_is_called :
    let es := [Event.connected 0 ⟨0, 0⟩, .connected 0 ⟨1, 0⟩]
    History {} es rivals ∧ ∃ (c : Bench) (t : Trace), emit 2 2 rivals = some c ∧ t.log 2 =
        [.called "a" 2, .answered "a" 2 (.truth true), .answered "a" 2 .done,
          .called "a" 1, .answered "a" 1 (.truth false), .answered "a" 1 .done, .answered "a" 1 .done,
          .called "c" 1, .answered "a" 2 .done,
          .called "b" 2, .answered "b" 2 .done] ∧
      c.calls.toList = t.log 2 ∧ t.keys.Perm [⟨0, 0⟩, ⟨1, 0⟩] ∧
      c.current.signal.blocked = true := by
  intro es
  have h : History {} es rivals :=
    (History.start.move (.perform (.connect "a" _))).move (.perform (.connect "b" _))
  let c := (emit 2 2 rivals).get rfl
  have hc : emit 2 2 rivals = some c := rfl
  obtain ⟨⟨hlawful, hemit⟩, hall⟩ := emissions_call_who_is_connected h 2
  obtain ⟨-, t, hlog, hdelivers, -⟩ := (hall callWith hlawful).2 2 c (hemit 2 ▸ hc)
  have hlog : t.log 2 = c.calls.toList := hlog.symm
  have hlive : live es 0 = [⟨0, 0⟩, ⟨1, 0⟩] := by decide
  have hcalled : t.keys.Perm (live es 0) := hdelivers.called
  exact ⟨h, c, t, hc, hlog, hlog.symm, hlive ▸ hcalled, rfl⟩

end Bench
end Script
end ScreenDeck
