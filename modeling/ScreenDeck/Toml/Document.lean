import ScreenDeck.Toml.Value
import ScreenDeck.Toml.Text
import ScreenDeck.Toml.Number
import ScreenDeck.Toml.Moment

/-! Keys, values and whole documents. -/

namespace ScreenDeck.Toml

/-- Arrays and inline tables stand in one another at most this deep. -/
def maxDepth : Nat := 79

/-- A dotted key has at most this many parts. -/
def maxKeyParts : Nat := 79

def readKeyPart : Reader String
  | '"' :: r => readLine ('"' :: r)
  | '\'' :: r => readLine ('\'' :: r)
  | cs =>
    let name := cs.takeWhile isBareKey
    if name.isEmpty then none else some (String.ofList name, cs.dropWhile isBareKey)

/-- Parts between points, with blanks around each. -/
def readKeyParts : Nat → Reader (List String)
  | 0, _ => none
  | left + 1, cs => do
    let (part, r) ← readKeyPart (skipBlanks cs)
    match skipBlanks r with
    | '.' :: r => do
      let (parts, r) ← readKeyParts left r
      some (part :: parts, r)
    | r => some ([part], r)

/-- The parts of a key before the last, and the last. -/
def readKey (cs : List Char) : Option ((List String × String) × List Char) := do
  let (parts, r) ← readKeyParts maxKeyParts cs
  let last ← parts.getLast?
  some ((parts.dropLast, last), r)

/-- A key with its value, inside a table or on a line of its own. -/
def readPair (readValue : Reader Value) (cs : List Char) :
    Option ((List String × String × Value) × List Char) := do
  let ((path, key), r) ← readKey cs
  let '=' :: r := r | none
  let (v, r) ← readValue (skipBlanks r)
  some ((path, key, v), r)

/-- The items of an array up to its closing bracket, of which a comma may follow the last. -/
def readItems (readValue : Reader Value) : Nat → Reader (List Value)
  | 0, _ => none
  | fuel + 1, cs =>
    match layout cs with
    | ']' :: r => some ([], r)
    | cs => do
      let (v, r) ← readValue cs
      match layout r with
      | ',' :: r => do
        let (vs, r) ← readItems readValue fuel r
        some (v :: vs, r)
      | ']' :: r => some ([v], r)
      | _ => none

/-- The pairs of an inline table up to its closing brace, at least one. -/
def readPairs (readValue : Reader Value) : Nat → Entries → Reader Entries
  | 0, _, _ => none
  | fuel + 1, es, cs => do
    let ((path, key, v), r) ← readPair readValue cs
    let es ← es.defineAt .header path key v
    match skipBlanks r with
    | ',' :: r => readPairs readValue fuel es r
    | '\x7d' :: r => some (es, r)
    | _ => none

def readNumberOrMoment (cs : List Char) : Option (Value × List Char) :=
  match readMoment cs with
  | some (_, r) => some (.moment, r)
  | none =>
    match readReal cs with
    | some (x, r) => some (.real x, r)
    | none => (readInteger cs).map fun (n, r) => (.integer n, r)

/-- A value that may hold containers of the given depth. -/
def readValue : Nat → Reader Value
  | _, 't' :: 'r' :: 'u' :: 'e' :: r => some (.truth true, r)
  | _, 'f' :: 'a' :: 'l' :: 's' :: 'e' :: r => some (.truth false, r)
  | 0, '[' :: _ => none
  | 0, '\x7b' :: _ => none
  | depth + 1, '[' :: r => do
    let (items, r) ← readItems (readValue depth) (r.length + 1) r
    some (.array items, r)
  | depth + 1, '\x7b' :: r =>
    match skipBlanks r with
    | '\x7d' :: r => some (.table .closed [], r)
    | r => do
      let (es, r) ← readPairs (readValue depth) (r.length + 1) [] r
      some (.table .closed es, r)
  | _, cs =>
    match cs with
    | '"' :: _ | '\'' :: _ => (readText cs).map fun (s, r) => (.text s, r)
    | 'i' :: _ | 'n' :: _ => (readSpecial cs).map fun (x, r) => (.real x, r)
    | _ => readNumberOrMoment cs

/-- A document under construction: its entries, and the header under which they are read. -/
structure Draft where
  entries : Entries := []
  header : List String := []

namespace Draft

/-- Defines a value under the current header. -/
def define (d : Draft) (path : List String) (key : String) (v : Value) : Option Draft := do
  let entries ← d.entries.descend false (fun form es => es.defineAt form path key v) d.header .header
  some { d with entries }

def openTable (d : Draft) (path : List String) (key : String) : Option Draft := do
  let entries ← d.entries.openTable path key
  some ⟨entries, path ++ [key]⟩

def openElement (d : Draft) (path : List String) (key : String) : Option Draft := do
  let entries ← d.entries.openElement path key
  some ⟨entries, path ++ [key]⟩

end Draft

/-- One expression at the start of a line, and the lines after it. -/
def readExpression (d : Draft) : List Char → Option (Draft × List Char)
  | '#' :: r => do
    let r ← lineEnd? (skipComment ('#' :: r))
    some (d, r)
  | '[' :: '[' :: r => do
    let ((path, key), r) ← readKey r
    let ']' :: ']' :: r := r | none
    let d ← d.openElement path key
    let r ← lineRest? r
    some (d, r)
  | '[' :: r => do
    let ((path, key), r) ← readKey r
    let ']' :: r := r | none
    let d ← d.openTable path key
    let r ← lineRest? r
    some (d, r)
  | cs =>
    match newline? cs with
    | some r => some (d, r)
    | none => do
      let ((path, key, v), r) ← readPair (readValue maxDepth) cs
      let d ← d.define path key v
      let r ← lineRest? r
      some (d, r)

def readExpressions : Nat → Draft → List Char → Option Entries
  | 0, _, _ => none
  | fuel + 1, d, cs =>
    match skipBlanks cs with
    | [] => some d.entries
    | cs => do
      let (d, r) ← readExpression d cs
      readExpressions fuel d r

/-- The entries of a document. A byte order mark in front is passed over. -/
def parse (text : String) : Option Entries :=
  let cs := match text.toList with
    | '\ufeff' :: r => r
    | cs => cs
  readExpressions (cs.length + 1) {} cs

end ScreenDeck.Toml
