import ScreenDeck.Dispatch.Context
import ScreenDeck.Settings

/-! How a context comes into being. A dedicated context needs room for the inbox of its loop, and a
name for its thread. -/

namespace ScreenDeck

/-- The most places an inbox may have: a place takes 24 bytes, and no block of memory is larger than
`2 ^ 63 - 8` bytes. -/
def inboxLimit : Nat := (0x8000000000000000 - 8) / 24

namespace Settings

/-- The inbox can be laid out, and the name of the thread holds no null character. -/
def launchable (s : Settings) : Bool :=
  s.queueCapacity.toNat ≤ inboxLimit && !s.threadName.toList.contains '\x00'

end Settings

namespace Context

/-- A dedicated context checks its settings first. After that it panics if it cannot be set up. An
inline one needs nothing. -/
def launch (mode : Mode) (settings : Settings) : Except Abort Context :=
  match mode with
  | .inPlace => .ok { mode }
  | .dedicated =>
    match settings.validate with
    | .error f => .error (.failed f)
    | .ok _ => if settings.launchable then .ok { mode } else .error .panicked

theorem launch_inPlace (s : Settings) : launch .inPlace s = .ok { mode := .inPlace } := rfl

theorem launch_dedicated_eq_ok_iff (s : Settings) (c : Context) :
    launch .dedicated s = .ok c ↔ s.Valid ∧ s.launchable ∧ c = { mode := .dedicated } := by
  cases hv : s.validate with
  | error f =>
    have hn : ¬ s.Valid := fun h => by
      have ho := (Settings.validate_eq_ok_iff s s).mpr ⟨h, rfl⟩
      rw [hv] at ho
      cases ho
    simp [launch, hv, hn]
  | ok t =>
    have h := ((Settings.validate_eq_ok_iff s t).mp hv).1
    by_cases hl : s.launchable
    · simp [launch, hv, h, hl, eq_comm]
    · simp [launch, hv, hl]

theorem launch_eq_ok {mode : Mode} {s : Settings} {c : Context} (h : launch mode s = .ok c) :
    c = { mode } := by
  cases mode with
  | inPlace => exact (Except.ok.inj h).symm
  | dedicated => exact ((launch_dedicated_eq_ok_iff s c).mp h).2.2

end Context
end ScreenDeck
