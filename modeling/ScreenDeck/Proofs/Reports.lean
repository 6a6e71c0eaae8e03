import ScreenDeck.Proofs.Records

/-! What screens report of an orientation. The codes are listed for each way in which the device may lie
and for each raw value, the sizes of the page are written out, and the records are told by their fields.
What the library computes and encodes agrees with the lists. -/

namespace ScreenDeck

namespace DeviceOrientation

variable {device : DeviceOrientation}

/-- The code in the records when the device lies like this. -/
def reported : DeviceOrientation → Int32
  | portraitUp | other _ => 1
  | portraitDown => 2
  | portrait => 3
  | landscapeLeft => 4
  | landscapeRight => 8
  | landscape => 12

/-- Raw values with their codes. -/
def codes : List (Int32 × Int32) := [(1, 3), (2, 12), (5, 1), (9, 2), (18, 4), (34, 8)]

def Recognised : DeviceOrientation → Prop
  | other _ => False
  | _ => True

instance : DecidablePred Recognised
  | other _ => inferInstanceAs (Decidable False)
  | portrait | portraitUp | portraitDown | landscape | landscapeLeft | landscapeRight =>
    inferInstanceAs (Decidable True)

/-- The size of the page, from that of the content, if the device lies like this. -/
def laidOut : DeviceOrientation → Size → Option Size
  | portrait, content | portraitUp, content | portraitDown, content =>
    some ⟨content.width, content.height⟩
  | landscape, content | landscapeLeft, content | landscapeRight, content =>
    some ⟨content.height, content.width⟩
  | other _, _ => none

/-- The mapping of the library is the one that is listed. -/
theorem code_ofDevice (device : DeviceOrientation) :
    (ScreenOrientation.ofDevice device).code = device.reported := by
  cases device <;> rfl

/-- What the table says of the raw value is true of the device. A value that it does not list is not
recognised, and counts as upright. -/
structure Listed (device : DeviceOrientation) (raw : Int32) : Prop where
  code : device.reported = (codes.lookup raw).getD 1
  recognised : device.Recognised ↔ (codes.lookup raw).isSome

theorem listed_ofRaw (raw : Int32) : (ofRaw raw).Listed raw := by
  constructor <;> simp only [codes, List.lookup_cons, List.lookup_nil] <;> unfold ofRaw
  all_goals repeat' split
  all_goals simp_all [reported, Recognised]

theorem isSome_group_iff : device.group.isSome ↔ device.Recognised := by
  cases device <;> simp [group, Recognised]

/-- The layout by groups gives the sizes that are written out. -/
theorem map_group_pageSize (content : Size) :
    device.group.map (·.pageSize content) = device.laidOut content := by
  cases device <;> rfl

end DeviceOrientation

/-! The two records of a screen. -/

/-- For all who listen, without a category: what happened, and a code. -/
structure Broadcasts (code : Int32) (x : Posted) : Prop where
  category : x.category = none
  length : x.record.length = 8
  event : x.record.readInt32? 0 = some 45
  code : x.record.readInt32? 4 = some code

/-- Among the records of widgets: what happened, to whom, and a code. -/
structure Addresses (handle : Handle) (code : Int32) (x : Posted) : Prop where
  category : x.category = some 23
  length : x.record.length = 12
  event : x.record.readInt32? 0 = some 21
  handle : x.record.readInt32? 4 = some handle.raw
  code : x.record.readInt32? 8 = some code

/-- Screens report one after the other, and each posts its two records with nothing in between. -/
inductive Reported (code : Int32) : List Handle → List Posted → Prop
  | nil : Reported code [] []
  | cons {handle : Handle} {handles : List Handle} {x y : Posted} {posted : List Posted}
      (hx : Broadcasts code x) (hy : Addresses handle code y) (h : Reported code handles posted) :
      Reported code (handle :: handles) (x :: y :: posted)

variable {code : Int32} {handles : List Handle} {posted : List Posted}

/-- What is encoded for all who listen reads back as such a record. -/
theorem broadcasts_broadcast (o : ScreenOrientation) : Broadcasts o.code ⟨none, Event.broadcast o⟩ :=
  have hread := Event.readInt32?_broadcast o
  ⟨rfl, Event.length_broadcast o, hread.1, hread.2⟩

theorem addresses_addressed (handle : Handle) (o : ScreenOrientation) :
    Addresses handle o.code ⟨some Event.widgetCategory, Event.addressed handle o⟩ :=
  have hread := Event.readInt32?_addressed handle o
  ⟨rfl, Event.length_addressed handle o, hread.1, hread.2.1, hread.2.2⟩

theorem Reported.length_eq (h : Reported code handles posted) : posted.length = 2 * handles.length := by
  induction h with
  | nil => rfl
  | cons _ _ _ ih =>
    simp only [List.length_cons, ih]
    omega

end ScreenDeck
