import ScreenDeck.Binary.Decimal
import ScreenDeck.Failure
import ScreenDeck.Text.Quoted
import ScreenDeck.Toml.Document

/-! Settings: how they are checked, and how they are read from a document. -/

namespace ScreenDeck

structure Settings where
  threadName : String := "nativeui-main"
  queueCapacity : UInt64 := 256
  barExtent : Single := .ofInt 78
deriving DecidableEq

namespace Settings

/-- The capacity is looked at before the extent. -/
def validate (s : Settings) : Except Failure Settings :=
  if s.queueCapacity = 0 then .error (.settings .zeroCapacity)
  else if !s.barExtent.isPositive then
    .error (.settings (.extentNotPositive s.barExtent.plainText))
  else .ok s

def Valid (s : Settings) : Prop := s.queueCapacity ≠ 0 ∧ s.barExtent.isPositive

theorem validate_eq_ok_iff (s t : Settings) : s.validate = .ok t ↔ s.Valid ∧ t = s := by
  unfold validate Valid
  by_cases hc : s.queueCapacity = 0
  · simp [hc]
  · by_cases he : s.barExtent.isPositive
    · simp [hc, he, eq_comm]
    · simp [hc, he]

/-- Takes one entry of a document. Unknown names are passed over. An extent may be a real, rounded
to 64 bits and then to 32, or an integer, rounded once. A capacity is an integer. -/
def withEntry (s : Settings) (entry : String × Toml.Value) : Option Settings :=
  match entry with
  | ("ui_thread_name", .text name) => some { s with threadName := name }
  | ("ui_thread_name", _) => none
  | ("ui_queue_capacity", .integer n) =>
    if n < 0 then none else some { s with queueCapacity := UInt64.ofNat n.toNat }
  | ("ui_queue_capacity", _) => none
  | ("command_bar_extent", .real r) => some { s with barExtent := .ofNumber r }
  | ("command_bar_extent", .integer n) => some { s with barExtent := .ofInt n }
  | ("command_bar_extent", _) => none
  | _ => some s

def parse (text : String) : Except Failure Settings :=
  match (Toml.parse text).bind fun entries => entries.foldlM withEntry {} with
  | none => .error (.settings .malformed)
  | some s => s.validate

def debugText (s : Settings) : String :=
  Text.record "BridgeConfig"
    [("ui_thread_name", Text.quoted s.threadName),
     ("ui_queue_capacity", toString s.queueCapacity.toNat),
     ("command_bar_extent", s.barExtent.detailedText)] true

end Settings
end ScreenDeck
