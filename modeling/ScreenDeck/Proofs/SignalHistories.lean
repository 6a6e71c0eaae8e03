import ScreenDeck.Signal.Script

/-! Histories of signals. Commands come from outside or from listeners in the middle of emissions,
and either way they are moves in one history of connections made, removed and released. -/

namespace ScreenDeck.Script

inductive Event where
  | connected (source : Nat) (key : SlotKey)
  | removed (source : Nat) (key : SlotKey)
  | released (source : Nat) (key : SlotKey)
deriving DecidableEq

/-- The connections made on a signal, in this order. -/
def made (es : List Event) (n : Nat) : List SlotKey :=
  es.filterMap fun
    | .connected m key => if m = n then some key else none
    | _ => none

def gone (es : List Event) (n : Nat) : List SlotKey :=
  es.filterMap fun
    | .removed m key => if m = n then some key else none
    | _ => none

@[simp]
theorem made_append (es fs : List Event) (n : Nat) : made (es ++ fs) n = made es n ++ made fs n :=
  List.filterMap_append

@[simp]
theorem gone_append (es fs : List Event) (n : Nat) : gone (es ++ fs) n = gone es n ++ gone fs n :=
  List.filterMap_append

@[simp]
theorem made_nil (n : Nat) : made [] n = [] := rfl

@[simp]
theorem gone_nil (n : Nat) : gone [] n = [] := rfl

@[simp]
theorem made_connected (m n : Nat) (key : SlotKey) :
    made [.connected m key] n = if m = n then [key] else [] := by
  by_cases h : m = n <;> simp [made, h]

@[simp]
theorem gone_connected (m n : Nat) (key : SlotKey) : gone [.connected m key] n = [] := rfl

@[simp]
theorem made_removed (m n : Nat) (key : SlotKey) : made [.removed m key] n = [] := rfl

@[simp]
theorem gone_removed (m n : Nat) (key : SlotKey) :
    gone [.removed m key] n = if m = n then [key] else [] := by
  by_cases h : m = n <;> simp [gone, h]

@[simp]
theorem made_released (m n : Nat) (key : SlotKey) : made [.released m key] n = [] := rfl

@[simp]
theorem gone_released (m n : Nat) (key : SlotKey) : gone [.released m key] n = [] := rfl

namespace Bench

def removal (n : Nat) (key : SlotKey) (removed : Bool) : List Event :=
  if removed then [.removed n key] else []

def releaseEvents (b : Bench) (h : Held) : List Event :=
  removal h.source h.subscription.key (b.release h).1 ++
    [.released h.source h.subscription.key]

def dropEvents (b : Bench) (slot : String) : List Event :=
  match b.held.lookup slot with
  | none => []
  | some h => b.releaseEvents h

def events (b : Bench) : Command → List Event
  | .connect slot body => [.connected b.number (b.connect ⟨slot, body⟩).1]
  | .disconnect slot =>
    match b.keys.lookup slot with
    | none => []
    | some key => removal b.number key (b.current.signal.disconnect key).1
  | .subscribe slot body =>
    .connected b.number (b.connect ⟨slot, body⟩).1 ::
      (b.connect ⟨slot, body⟩).2.dropEvents slot
  | .release slot | .drop slot => b.dropEvents slot
  | _ => []

/-- One change of a bench: a command that starts no emission, the removal of any connection by its
key, and what an emission adds around the commands of its listeners. -/
inductive Move (b : Bench) : List Event → Bench → Prop
  | perform (c : Command) : Move b (b.events c) (b.perform c).2
  | disconnect {n : Nat} {s : Source} (hs : b.source? n = some s) (key : SlotKey) :
      Move b (removal n key (s.signal.disconnect key).1)
        (b.modifySource n fun x => { x with signal := (s.signal.disconnect key).2 })
  | start (n : Nat) : Move b [] (b.modifySource n fun s => { s with emissions := s.emissions + 1 })
  | finish (n : Nat) : Move b [] (b.modifySource n fun s => { s with emissions := s.emissions - 1 })
  | calls (calls : Array Call) : Move b [] { b with calls }

inductive History (b : Bench) : List Event → Bench → Prop
  | start : History b [] b
  | move {es fs : List Event} {c d : Bench} (h : History b es c) (hm : Move c fs d) :
      History b (es ++ fs) d

theorem History.trans {b c d : Bench} {es fs : List Event} (h : History b es c)
    (h' : History c fs d) : History b (es ++ fs) d := by
  induction h' with
  | start => simpa using h
  | move _ hm ih =>
    rw [← List.append_assoc]
    exact ih.move hm

/-! Runs have histories. -/

def Evolves (b c : Bench) : Prop := ∃ es, History b es c

theorem Evolves.refl (b : Bench) : Evolves b b := ⟨[], .start⟩

theorem Evolves.trans {b c d : Bench} (h : Evolves b c) (h' : Evolves c d) : Evolves b d := by
  obtain ⟨es, h⟩ := h
  obtain ⟨fs, h'⟩ := h'
  exact ⟨es ++ fs, h.trans h'⟩

theorem Evolves.move {b c : Bench} {es : List Event} (hm : Move b es c) : Evolves b c :=
  ⟨_, History.start.move hm⟩

section Runs

variable {emission : Int32 → Bench → Option Bench}
  (he : ∀ {value b c}, emission value b = some c → Evolves b c)
include he

theorem evolves_runWith {argument : Option Int32} {command : Command} {b c : Bench}
    {answer : Answer} (h : runWith emission argument command b = some (answer, c)) :
    Evolves b c := by
  have hemission {value : Int32}
      (h : (emission value b).map (Answer.done, ·) = some (answer, c)) : Evolves b c := by
    obtain ⟨d, hd, hc⟩ := Option.map_eq_some_iff.mp h
    cases hc
    exact he hd
  have hperform {command : Command} (h : some (b.perform command) = some (answer, c)) :
      Evolves b c := by
    cases hp : b.perform command with
    | mk a d =>
      rw [hp] at h
      cases h
      have hm := Move.perform (b := b) command
      rw [hp] at hm
      exact .move hm
  cases command with
  | emit value => exact hemission h
  | countdown =>
    cases argument with
    | none =>
      cases h
      exact .refl _
    | some value =>
      by_cases hv : 1 < value
      · rw [runWith, if_pos hv] at h
        exact hemission h
      · rw [runWith, if_neg hv] at h
        cases h
        exact .refl _
  | _ => exact hperform h

theorem evolves_callWith {value : Int32} {l : Listener} {b c : Bench}
    (h : callWith emission value b l = some c) : Evolves b c := by
  unfold callWith at h
  have hcalled : Evolves b (b.note (.called l.slot value)) := .move (.calls _)
  refine hcalled.trans ?_
  clear hcalled
  -- The commands of the listener start from any bench, each where the one before it left off.
  generalize b.note (.called l.slot value) = b at h ⊢
  generalize l.body = commands at h
  induction commands generalizing b with
  | nil =>
    cases h
    exact .refl _
  | cons command commands ih =>
    rw [List.foldlM_cons] at h
    obtain ⟨d, hd, hc⟩ := Option.bind_eq_some_iff.mp h
    obtain ⟨⟨answer, e⟩, hrun, hnote⟩ := Option.bind_eq_some_iff.mp hd
    cases hnote
    exact ((evolves_runWith he hrun).trans (.move (.calls _))).trans (ih _ hc)

theorem evolves_callAll {value : Int32} {ls : List Listener} {b c : Bench}
    (h : ls.foldlM (callWith emission value) b = some c) : Evolves b c := by
  induction ls generalizing b with
  | nil =>
    cases h
    exact .refl _
  | cons l ls ih =>
    rw [List.foldlM_cons] at h
    obtain ⟨d, hd, hc⟩ := Option.bind_eq_some_iff.mp h
    exact (evolves_callWith he hd).trans (ih hc)

end Runs

/-- An emission does nothing to connections that the commands of its listeners do not do. The induction is
on the depth. -/
theorem evolves_emit {depth : Nat} {value : Int32} {b c : Bench}
    (h : emit depth value b = some c) : Evolves b c := by
  induction depth generalizing value b c with
  | zero => cases h
  | succ depth ih =>
    -- Emissions that listeners start are one less deep, and those have histories.
    obtain ⟨d, hd, hc⟩ := Option.bind_eq_some_iff.mp h
    cases hc
    exact ((Evolves.move (.start _)).trans (evolves_callAll ih hd)).trans (.move (.finish _))

theorem evolves_run {depth : Nat} {argument : Option Int32} {command : Command} {b c : Bench}
    {answer : Answer} (h : run depth argument command b = some (answer, c)) : Evolves b c :=
  evolves_runWith evolves_emit h

end Bench
end ScreenDeck.Script
