import ScreenDeck.Text.Unprintable

/-! Quoted text, with escapes for the quote, the backslash and what cannot be shown. -/

namespace ScreenDeck.Text

def escape (c : Char) : List Char :=
  if c = '"' then ['\\', '"']
  else if c = '\\' then ['\\', '\\']
  else if c = '\n' then ['\\', 'n']
  else if c = '\r' then ['\\', 'r']
  else if c = '\t' then ['\\', 't']
  else if c = '\x00' then ['\\', '0']
  else if isUnprintable c then ['\\', 'u', '\x7b'] ++ Nat.toDigits 16 c.toNat ++ ['\x7d']
  else [c]

def quoted (s : String) : String :=
  String.ofList ('"' :: s.toList.flatMap escape ++ ['"'])

example : quoted "a\"b\n" = "\"a\\\"b\\n\"" := by decide +kernel

/-- A named group of labelled texts, as in a diagnostic. -/
def record (name : String) (fields : List (String × String)) (complete : Bool) : String :=
  let shown := fields.map fun f => f.1 ++ ": " ++ f.2
  let shown := if complete then shown else shown ++ [".."]
  name ++ " \x7b " ++ ", ".intercalate shown ++ " \x7d"

end ScreenDeck.Text
