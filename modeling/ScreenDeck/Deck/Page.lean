import ScreenDeck.Deck.Basic

/-! Calls on the host: the page, whose calls may be refused, and posting of records. -/

namespace ScreenDeck.Deck

/-- Lets the host refuse or panic before anything happens. -/
def consult (call : HostCall) : Do Unit := do
  match (← Act.state).faults call with
  | .pass => pure ()
  | .refuse => Act.fail (.invalidState (.refused call))
  | .panic => Act.panic

def activePage : Do Page := do
  match (← Act.state).page with
  | some page => pure page
  | none => Act.fail (.invalidState .noActivePage)

def changePage (f : Page → Page) : Do Unit := do
  let page ← activePage
  Act.modifyState fun d => { d with page := some (f page) }

def pageSize : Do Size := do
  consult .pageSize
  return (← activePage).size

def resizePage (size : Size) : Do Unit := do
  consult .resizePage
  changePage fun p => { p with size }

def setPageBar (bar : Ref .bar) : Do Unit := do
  consult .setPageCommandBar
  changePage fun p => { p with bar := some bar }

/-- Reading the bar is never refused. -/
def pageBar : Do (Option (Ref .bar)) := return (← activePage).bar

def setPageContent (grid : Ref .grid) : Do Unit := do
  consult .setPageContent
  changePage fun p => { p with content := some grid }

def pageContent : Do (Option (Ref .grid)) := do
  consult .pageContent
  return (← activePage).content

/-- A new page has the size of the content and shows nothing. -/
def openPage (d : Deck) : Deck := { d with page := some { size := d.contentSize } }

def closePage (d : Deck) : Option Page × Deck := (d.page, { d with page := none })

/-- Posts a record. Nobody receives it once the receiver is gone. -/
def post (category : Option Int32) (record : Record) : Do Unit := do
  match (← Act.state).outbox with
  | some posted =>
    Act.modifyState fun d => { d with outbox := some (posted ++ [⟨category, record⟩]) }
  | none => Act.note .eventDiscarded

def postBroadcast (o : ScreenOrientation) : Do Unit := post none (Event.broadcast o)

def postAddressed (h : Handle) (o : ScreenOrientation) : Do Unit :=
  post (some Event.widgetCategory) (Event.addressed h o)

end ScreenDeck.Deck
