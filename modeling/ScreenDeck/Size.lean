import ScreenDeck.Binary.Single

/-! Sizes of pages and contents. -/

namespace ScreenDeck

structure Size where
  width : Single
  height : Single
deriving DecidableEq, Inhabited

namespace Size

def zero : Size := ⟨.zero, .zero⟩

def transposed (s : Size) : Size := ⟨s.height, s.width⟩

def sameNumbers (a b : Size) : Bool :=
  a.width.sameNumber b.width && a.height.sameNumber b.height

@[simp]
theorem transposed_transposed (s : Size) : s.transposed.transposed = s := rfl

end Size
end ScreenDeck
