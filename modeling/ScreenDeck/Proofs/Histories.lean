import ScreenDeck.Proofs.Spans

/-! Histories of a deck: runs of moves with their events. The relation between a deck and what it
evolves into, by events of one kind, is spanning, so that every action on a deck has a history. -/

namespace ScreenDeck.Deck

inductive History (d : Deck) : List Event → Deck → Prop
  | start : History d [] d
  | move {es : List Event} {e f : Deck} {v : Option Event} (h : History d es e) (hm : Move e v f) :
      History d (es ++ v.toList) f

theorem History.trans {d e f : Deck} {es fs : List Event} (h : History d es e)
    (h' : History e fs f) : History d (es ++ fs) f := by
  induction h' with
  | start => simpa using h
  | move _ hm ih =>
    rw [← List.append_assoc]
    exact ih.move hm

/-- What the deck evolves into by events of this kind. -/
def EvolvesBy (P : Event → Prop) (d e : Deck) : Prop := ∃ es, History d es e ∧ ∀ v ∈ es, P v

namespace EvolvesBy

variable {P : Event → Prop} {d e f : Deck}

theorem refl (d : Deck) : EvolvesBy P d d := ⟨[], .start, by simp⟩

theorem trans (h : EvolvesBy P d e) (h' : EvolvesBy P e f) : EvolvesBy P d f := by
  obtain ⟨es, h, hes⟩ := h
  obtain ⟨fs, h', hfs⟩ := h'
  exact ⟨es ++ fs, h.trans h', by simpa [or_imp, forall_and] using ⟨hes, hfs⟩⟩

theorem quiet (hm : Move d none e) : EvolvesBy P d e := ⟨_, History.start.move hm, by simp⟩

theorem move {v : Event} (hm : Move d (some v) e) (hv : P v) : EvolvesBy P d e :=
  ⟨_, History.start.move hm, by simpa using hv⟩

/-- What every such event leaves alone, and every move that is no event, stays as it is. -/
theorem constant {α : Type} {p : Deck → α} (h : EvolvesBy P d e)
    (hp : ∀ {d e v}, Move d v e → (∀ w, v = some w → P w) → p e = p d) : p e = p d := by
  obtain ⟨es, h, hes⟩ := h
  induction h with
  | start => rfl
  | move _ hm ih =>
    have hbefore := ih fun v hv => hes v (List.mem_append_left _ hv)
    exact (hp hm fun w hw => hes w (by simp [hw])).trans hbefore

/-! How long screens and listeners live is no event. -/

theorem nameTracker (name : String) (t : Ref .tracker) (d : Deck) :
    EvolvesBy P d (d.nameTracker name t) := by
  have hn : EvolvesBy P d { d with names.trackers := Names.bind d.names.trackers name t } :=
    .quiet (.names _)
  unfold Deck.nameTracker
  cases d.names.trackers.lookup name with
  | none => exact hn
  | some o => exact hn.trans (.quiet (.endTracker o))

theorem dropTracker (name : String) (d : Deck) : EvolvesBy P d (d.dropTracker name).2 := by
  unfold Deck.dropTracker
  cases d.names.trackers.lookup name with
  | none => exact .refl d
  | some t => exact (EvolvesBy.quiet (.names _)).trans (.quiet (.endTracker t))

theorem nameSubscription (name : String) (x : Subscription) (d : Deck) :
    EvolvesBy P d (d.nameSubscription name x) := by
  have hn : EvolvesBy P d { d with names.subscriptions := Names.bind d.names.subscriptions name x } :=
    .quiet (.names _)
  unfold Deck.nameSubscription
  cases d.names.subscriptions.lookup name with
  | none => exact hn
  | some o => exact hn.trans (.quiet (.release o))

theorem dropSubscription (name : String) (d : Deck) : EvolvesBy P d (d.dropSubscription name).2 := by
  unfold Deck.dropSubscription
  cases d.names.subscriptions.lookup name with
  | none => exact .refl d
  | some s => exact (EvolvesBy.quiet (.names _)).trans (.quiet (.release s))

end EvolvesBy

instance (P : Event → Prop) : Act.Steady (Act.OnState (EvolvesBy P)) :=
  Act.steady_onState EvolvesBy.refl EvolvesBy.trans

instance (P : Event → Prop) : Spanning (EvolvesBy P) where
  aside hm _ := .quiet hm
  letGo := spans_letGo (fun _ => .quiet (.bury _)) fun x _ => .quiet (.release x)
  retire _ := .quiet (.dispose _)
  makeScreen handle _ := .quiet (.makeScreen handle)
  takeTracker name handle d :=
    (EvolvesBy.quiet (.makeTracker handle)).trans (.nameTracker name (d.makeTracker handle).1 _)
  dropTracker := EvolvesBy.dropTracker
  attach {_ t d} _ name :=
    (EvolvesBy.quiet (.listen (.tracker t))).trans (.nameSubscription name (d.listen (.tracker t)).1 _)
  releaseNamed _ := (EvolvesBy.quiet (.release _)).trans (.quiet (.names _))
  dropSubscription := EvolvesBy.dropSubscription

abbrev Evolves : Deck → Deck → Prop := EvolvesBy fun _ => True

theorem evolves_iff {d e : Deck} : Evolves d e ↔ ∃ es, History d es e := by
  simp [Evolves, EvolvesBy]

theorem admits_evolvesBy {P : Event → Prop} {v : Event} (hv : P v) : Admits (EvolvesBy P) v :=
  fun hm => .move hm hv

theorem admits_evolves (v : Event) : Admits Evolves v := admits_evolvesBy trivial

end ScreenDeck.Deck
