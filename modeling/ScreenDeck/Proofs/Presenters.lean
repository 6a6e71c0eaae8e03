import ScreenDeck.Proofs.Histories

/-! Presenters along a history. A presenter keeps its grid and counts its own requests, and nothing
else that happens counts. A screen keeps its presenter, which shows the grid of the screen. -/

namespace ScreenDeck

def Presenter.asked (n : Nat) (x : Presenter) : Presenter :=
  { x with generation := x.generation + n }

theorem Presenter.asked_asked (m n : Nat) (x : Presenter) :
    (x.asked m).asked n = x.asked (m + n) := by
  simp [asked, Nat.add_assoc]

namespace Deck

variable {d e : Deck} {es : List Event} {v : Option Event} {p q : Ref .presenter}

theorem get?_request_self (d : Deck) (p : Ref .presenter) :
    (d.request p).presenters.get? p = (d.presenters.get? p).map (Presenter.asked 1) :=
  Store.get?_modify_self _ _ _

theorem get?_request_ne (d : Deck) (h : p ≠ q) :
    (d.request p).presenters.get? q = d.presenters.get? q :=
  Store.get?_modify_ne _ _ h

theorem Move.presenters (hm : Move d v e) :
    (∃ p, v = some (.requested p) ∧ e.presenters = (d.request p).presenters) ∨
      (∀ p, v ≠ some (.requested p)) ∧
        (e.presenters = d.presenters ∨ ∃ y, e.presenters = (d.presenters.add y).2) := by
  cases hm with
  | request p => exact .inl ⟨p, rfl, rfl⟩
  | makePresenter grid engine => exact .inr ⟨nofun, .inr ⟨_, rfl⟩⟩
  | makeScreen handle => exact .inr ⟨nofun, .inr ⟨_, rfl⟩⟩
  | dispose s =>
    rw [release_eq]
    exact .inr ⟨nofun, .inl rfl⟩
  | release s =>
    rw [release_eq]
    exact .inr ⟨nofun, .inl rfl⟩
  | makeWidget handle sharing => cases sharing <;> exact .inr ⟨nofun, .inl rfl⟩
  | _ => exact .inr ⟨nofun, .inl rfl⟩

theorem Move.presenter {x : Presenter} (hm : Move d v e) (hp : d.presenters.get? p = some x) :
    e.presenters.get? p = some (x.asked (v.toList.count (.requested p))) := by
  rcases hm.presenters with ⟨q, rfl, he⟩ | ⟨hv, he⟩
  · rw [he]
    by_cases hq : q = p
    · subst hq
      rw [get?_request_self, hp]
      simp
    · rw [get?_request_ne d hq, hp]
      simp [hq, Presenter.asked]
  · have hc : v.toList.count (.requested p) = 0 := by
      rw [List.count_eq_zero]
      simpa using hv p
    rw [hc]
    rcases he with he | ⟨y, he⟩
    · rw [he]
      exact hp
    · rw [he]
      exact Store.get?_add_of_get? hp y

/-- Each presenter counts its own requests. -/
theorem History.presenter {x : Presenter} (h : History d es e) (hp : d.presenters.get? p = some x) :
    e.presenters.get? p = some (x.asked (es.count (.requested p))) := by
  induction h with
  | start => exact hp
  | move _ hm ih => rw [hm.presenter ih, List.count_append, Presenter.asked_asked]

def OwnGrids (d : Deck) : Prop :=
  ∀ s x, d.screens.get? s = some x → ∃ y, d.presenters.get? x.presenter = some y ∧ y.grid = x.grid

/-- A screen has been there with the same grid and presenter, or it has just been made with both. -/
theorem Move.screen {s : Ref .screen} {y : Screen} (hm : Move d v e)
    (hs : e.screens.get? s = some y) :
    (∃ x, d.screens.get? s = some x ∧ y.presenter = x.presenter ∧ y.grid = x.grid) ∨
      ∃ z, e.presenters.get? y.presenter = some z ∧ z.grid = y.grid := by
  have hkept {r : Ref .screen} {f : Screen → Screen}
      (hr : (d.screens.modify r f).get? s = some y)
      (hf : ∀ x, (f x).presenter = x.presenter ∧ (f x).grid = x.grid) :
      ∃ x, d.screens.get? s = some x ∧ y.presenter = x.presenter ∧ y.grid = x.grid := by
    obtain ⟨x, hx, hy⟩ := Store.get?_modify_eq_some hr
    rcases hy with hy | hy
    · exact ⟨x, hx, by rw [hy], by rw [hy]⟩
    · exact ⟨x, hx, by rw [hy, (hf x).1], by rw [hy, (hf x).2]⟩
  cases hm with
  | title r title => exact .inl (hkept hs fun _ => ⟨rfl, rfl⟩)
  | parent r p => exact .inl (hkept hs fun _ => ⟨rfl, rfl⟩)
  | bury r => exact .inl (hkept hs fun _ => ⟨rfl, rfl⟩)
  | dispose r =>
    rw [release_eq] at hs
    exact .inl (hkept hs fun _ => ⟨rfl, rfl⟩)
  | release x =>
    rw [release_eq] at hs
    exact .inl ⟨y, hs, rfl, rfl⟩
  | makeScreen handle =>
    rcases Store.get?_add_eq_some hs with hs | ⟨-, rfl⟩
    · exact .inl ⟨y, hs, rfl, rfl⟩
    · exact .inr ⟨_, Store.get?_add _ _, rfl⟩
  | makeWidget handle sharing => cases sharing <;> exact .inl ⟨y, hs, rfl, rfl⟩
  | _ => exact .inl ⟨y, hs, rfl, rfl⟩

theorem OwnGrids.move (h : d.OwnGrids) (hm : Move d v e) : e.OwnGrids := by
  intro s y hs
  rcases hm.screen hs with ⟨x, hx, hp, hg⟩ | ⟨z, hz, hg⟩
  · obtain ⟨z, hz, hzg⟩ := h s x hx
    rw [hp, hg]
    exact ⟨_, hm.presenter hz, hzg⟩
  · exact ⟨z, hz, hg⟩

theorem OwnGrids.history (h : d.OwnGrids) (hh : History d es e) : e.OwnGrids := by
  induction hh with
  | start => exact h
  | move _ hm ih => exact ih.move hm

end Deck
end ScreenDeck
