import ScreenDeck.Binary.Format

/-! Values of a TOML document, and how dotted keys and table headers grow a table. -/

namespace ScreenDeck.Toml

/-- How a table came into being. Headers may later complete an `implied` table, dotted keys may
later extend a `dotted` one, and nothing extends a `closed` one. -/
inductive Form where
  | header
  | implied
  | dotted
  | closed
deriving DecidableEq

inductive Value where
  | text (s : String)
  | integer (n : Int)
  | real (r : Binary.Number)
  | truth (b : Bool)
  | moment
  | array (items : List Value)
  | table (form : Form) (entries : List (String × Value))
  | tables (elements : List (List (String × Value)))

abbrev Entries := List (String × Value)

namespace Entries

def get? (es : Entries) (key : String) : Option Value := es.lookup key

def replace (es : Entries) (key : String) (v : Value) : Entries :=
  es.map fun e => if e.1 = key then (key, v) else e

def define (es : Entries) (key : String) (v : Value) : Option Entries :=
  if (es.get? key).isSome then none else some (es ++ [(key, v)])

/-- Walks along a path and edits the table at its end. Missing tables are made on the way, and of
an array of tables the last is taken. A walk along a dotted key enters no table that a header
defined. -/
def descend (dotted : Bool) (edit : Form → Entries → Option Entries) :
    List String → Form → Entries → Option Entries
  | [], form, es => edit form es
  | key :: path, _, es =>
    match es.get? key with
    | none => do
      let form := if dotted then Form.dotted else Form.implied
      let inner ← descend dotted edit path form []
      some (es ++ [(key, .table form inner)])
    | some (.table form inner) =>
      if form = .closed || dotted && form = .header then none
      else do
        let inner ← descend dotted edit path form inner
        some (es.replace key (.table form inner))
    | some (.tables elements) =>
      match elements.getLast? with
      | none => none
      | some last => do
        let last ← descend dotted edit path .header last
        some (es.replace key (.tables (elements.dropLast ++ [last])))
    | some _ => none

/-- Defines the value of a dotted key. A key of several parts ends in a table made by dotted
keys, a key of one part in any other table. -/
def defineAt (form : Form) (es : Entries) (path : List String) (key : String) (v : Value) :
    Option Entries :=
  es.descend true (fun form es =>
    if (form == .dotted) == path.isEmpty then none else es.define key v) path form

def openTable (es : Entries) (path : List String) (key : String) : Option Entries :=
  es.descend false (fun _ es =>
    match es.get? key with
    | none => some (es ++ [(key, .table .header [])])
    | some (.table .implied inner) => some (es.replace key (.table .header inner))
    | some _ => none) path .header

def openElement (es : Entries) (path : List String) (key : String) : Option Entries :=
  es.descend false (fun _ es =>
    match es.get? key with
    | none => some (es ++ [(key, .tables [[]])])
    | some (.tables elements) => some (es.replace key (.tables (elements ++ [[]])))
    | some _ => none) path .header

end Entries
end ScreenDeck.Toml
