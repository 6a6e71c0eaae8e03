import ScreenDeck.Proofs.Histories

/-! The rows of grids. Whatever is done with a grid, it has a filling row and below it at most one row that
was reserved. -/

namespace ScreenDeck

namespace Grid

inductive Laid (g : Grid) : Prop
  | filling (h : g.rows = [.star .one])
  | reserved (extent : Single) (h : g.rows = [.star .one, .pixels extent])

namespace Laid

variable {g : Grid}

theorem congr {k : Grid} (h : g.Laid) (hrows : k.rows = g.rows) : k.Laid := by
  cases h with
  | filling h => exact .filling (hrows.trans h)
  | reserved extent h => exact .reserved extent (hrows.trans h)

theorem reserveRow (h : g.Laid) (extent : Single) : (g.reserveRow extent).2.Laid := by
  cases h with
  | filling h => exact .reserved extent (by simp [Grid.reserveRow, hasReservedRow, h])
  | reserved e h => exact .reserved e (by simp [Grid.reserveRow, hasReservedRow, h])

/-- Once the reserved row is given back, only the filling row is left. -/
theorem rows_releaseReservedRow (h : g.Laid) : g.releaseReservedRow.2.rows = [.star .one] := by
  cases h with
  | filling h => simp [releaseReservedRow, hasReservedRow, h]
  | reserved e h => simp [releaseReservedRow, hasReservedRow, h]

end Laid
end Grid

namespace Deck

variable {d e : Deck} {es : List Event} {v : Option Event}

/-- Whatever is done with a grid, the filling row stays, and there is at most one row more. -/
theorem GridMove.laid {f : Grid → Grid} (hf : GridMove f) {g : Grid} (h : g.Laid) : (f g).Laid := by
  cases hf with
  | reserve extent => exact h.reserveRow extent
  | release => exact .filling h.rows_releaseReservedRow
  | detach view =>
    refine h.congr ?_
    simp only [Deck.detach]
    split <;> rfl
  | _ => exact h.congr rfl

/-- A grid was there before, or it is new, or the move is one of this grid. -/
theorem Move.grid_cases (hm : Move d v e) {g : Ref .grid} {x : Grid} (hx : e.grids.get? g = some x) :
    d.grids.get? g = some x ∨ (∃ view, x = { view }) ∨
      ∃ f y, GridMove f ∧ d.grids.get? g = some y ∧ x = f y := by
  have hnew (hx : d.makeGrid.2.grids.get? g = some x) :
      d.grids.get? g = some x ∨ ∃ view, x = { view } :=
    (Store.get?_add_eq_some hx).imp_right fun h => ⟨_, h.2⟩
  cases hm with
  | grid q hf =>
    obtain ⟨y, hy, rfl | rfl⟩ := Store.get?_modify_eq_some hx
    · exact .inl hy
    · exact .inr (.inr ⟨_, y, hf, hy, rfl⟩)
  | makeGrid => exact (hnew hx).imp_right .inl
  | makeScreen handle => exact (hnew hx).imp_right .inl
  | makeWidget handle sharing => cases sharing <;> exact .inl hx
  | dispose r =>
    rw [release_eq] at hx
    exact .inl hx
  | release y =>
    rw [release_eq] at hx
    exact .inl hx
  | _ => exact .inl hx

structure AllLaid (d : Deck) : Prop where
  grid : ∀ {g x}, d.grids.get? g = some x → x.Laid

namespace AllLaid

theorem of_grids (h : d.AllLaid) (hg : e.grids = d.grids) : e.AllLaid :=
  ⟨fun hx => h.grid (hg ▸ hx)⟩

theorem move (h : d.AllLaid) (hm : Move d v e) : e.AllLaid where
  grid hx := by
    obtain hx | ⟨view, rfl⟩ | ⟨f, y, hf, hy, rfl⟩ := hm.grid_cases hx
    · exact h.grid hx
    · exact .filling rfl
    · exact hf.laid (h.grid hy)

theorem history (h : d.AllLaid) (hh : History d es e) : e.AllLaid := by
  induction hh with
  | start => exact h
  | move _ hm ih => exact ih.move hm

end AllLaid
end Deck
end ScreenDeck
