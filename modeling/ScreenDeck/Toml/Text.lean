import ScreenDeck.Toml.Lexical

/-! The four kinds of text in a TOML document: with or without escapes, on one line or on
several. -/

namespace ScreenDeck.Toml

def charOfCode? (n : Nat) : Option Char :=
  if h : n.isValidChar then some (Char.ofNatAux n h) else none

/-- The character that an escape stands for. The backslash is already taken. -/
def readEscape : Reader Char
  | 'b' :: r => some ('\x08', r)
  | 'f' :: r => some ('\x0c', r)
  | 'n' :: r => some ('\n', r)
  | 'r' :: r => some ('\r', r)
  | 't' :: r => some ('\t', r)
  | '"' :: r => some ('"', r)
  | '\\' :: r => some ('\\', r)
  | 'u' :: r => do
    let ds := r.take 4
    guard (ds.length = 4 && ds.all isHex)
    let c ← charOfCode? (numeral 16 ds)
    some (c, r.drop 4)
  | 'U' :: r => do
    let ds := r.take 8
    guard (ds.length = 8 && ds.all isHex)
    let c ← charOfCode? (numeral 16 ds)
    some (c, r.drop 8)
  | _ => none

/-- Text with escapes on one line, after its opening quote. -/
def readEscaped : Nat → Reader (List Char)
  | 0, _ => none
  | _ + 1, [] => none
  | _ + 1, '"' :: r => some ([], r)
  | fuel + 1, '\\' :: r => do
    let (c, r) ← readEscape r
    let (cs, r) ← readEscaped fuel r
    some (c :: cs, r)
  | fuel + 1, c :: r => do
    guard (isPlain c)
    let (cs, r) ← readEscaped fuel r
    some (c :: cs, r)

/-- Text as it stands on one line, after its opening quote. -/
def readLiteral : Reader (List Char)
  | [] => none
  | '\'' :: r => some ([], r)
  | c :: r => do
    guard (isPlain c)
    let (cs, r) ← readLiteral r
    some (c :: cs, r)

/-- A line end right after the opening quotes is not part of the text. -/
def dropFirstNewline (cs : List Char) : List Char := (newline? cs).getD cs

def skipSpace : Nat → List Char → List Char
  | 0, cs => cs
  | fuel + 1, cs =>
    match newline? (skipBlanks cs) with
    | some r => skipSpace fuel r
    | none => skipBlanks cs

/-- After a backslash at the end of a line, skips all the space that follows. -/
def lineJoin? (cs : List Char) : Option (List Char) :=
  (newline? (skipBlanks cs)).map fun r => skipSpace (r.length + 1) r

/-- At the closing quotes of text on several lines: the quotes that still belong to the text, at
most two, and what follows. -/
def closing? (quote : Char) (cs : List Char) : Option (List Char × List Char) :=
  let run := (cs.takeWhile (· = quote)).length
  if run < 3 then none
  else
    let kept := min (run - 3) 2
    some (List.replicate kept quote, cs.drop (kept + 3))

/-- Text with escapes on several lines, after its opening quotes. -/
def readEscapedLines : Nat → Reader (List Char)
  | 0, _ => none
  | fuel + 1, cs =>
    match closing? '"' cs with
    | some closed => some closed
    | none =>
      match newline? cs with
      | some r => do
        let (t, r) ← readEscapedLines fuel r
        some ('\n' :: t, r)
      | none =>
        match cs with
        | [] => none
        | '\\' :: r =>
          match lineJoin? r with
          | some r => readEscapedLines fuel r
          | none => do
            let (c, r) ← readEscape r
            let (t, r) ← readEscapedLines fuel r
            some (c :: t, r)
        | c :: r => do
          guard (isPlain c)
          let (t, r) ← readEscapedLines fuel r
          some (c :: t, r)

/-- Text as it stands on several lines, after its opening quotes. -/
def readLiteralLines : Nat → Reader (List Char)
  | 0, _ => none
  | fuel + 1, cs =>
    match closing? '\'' cs with
    | some closed => some closed
    | none =>
      match newline? cs with
      | some r => do
        let (t, r) ← readLiteralLines fuel r
        some ('\n' :: t, r)
      | none =>
        match cs with
        | [] => none
        | c :: r => do
          guard (isPlain c)
          let (t, r) ← readLiteralLines fuel r
          some (c :: t, r)

/-- Text on one line, as it may also stand in a key. -/
def readLine : Reader String
  | '"' :: r => do
    let (cs, r) ← readEscaped (r.length + 1) r
    some (String.ofList cs, r)
  | '\'' :: r => do
    let (cs, r) ← readLiteral r
    some (String.ofList cs, r)
  | _ => none

def readText : Reader String
  | '"' :: '"' :: '"' :: r => do
    let (cs, r) ← readEscapedLines (r.length + 1) (dropFirstNewline r)
    some (String.ofList cs, r)
  | '\'' :: '\'' :: '\'' :: r => do
    let (cs, r) ← readLiteralLines (r.length + 1) (dropFirstNewline r)
    some (String.ofList cs, r)
  | cs => readLine cs

end ScreenDeck.Toml
