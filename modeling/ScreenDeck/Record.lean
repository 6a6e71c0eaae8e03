import ScreenDeck.Identity
import ScreenDeck.Orientation

/-! Event records: runs of bytes in which signed 32-bit fields lie at fixed offsets, lowest byte
first. -/

namespace ScreenDeck

structure Record where
  bytes : List UInt8
deriving DecidableEq, Inhabited

namespace Field

def toBytes (n : Int32) : List UInt8 :=
  let u := n.toUInt32.toNat
  [.ofNat u, .ofNat (u / 0x100), .ofNat (u / 0x10000), .ofNat (u / 0x1000000)]

def ofBytes (a b c d : UInt8) : Int32 :=
  (UInt32.ofNat (a.toNat + 0x100 * b.toNat + 0x10000 * c.toNat + 0x1000000 * d.toNat)).toInt32

@[simp]
theorem length_toBytes (n : Int32) : (toBytes n).length = 4 := rfl

theorem ofBytes_toBytes (n : Int32) :
    ofBytes (.ofNat n.toUInt32.toNat) (.ofNat (n.toUInt32.toNat / 0x100))
      (.ofNat (n.toUInt32.toNat / 0x10000)) (.ofNat (n.toUInt32.toNat / 0x1000000)) = n := by
  have h := n.toUInt32.toNat_lt
  have hu : UInt32.ofNat (n.toUInt32.toNat % 0x100 + 0x100 * (n.toUInt32.toNat / 0x100 % 0x100)
      + 0x10000 * (n.toUInt32.toNat / 0x10000 % 0x100)
      + 0x1000000 * (n.toUInt32.toNat / 0x1000000 % 0x100)) = n.toUInt32 := by
    rw [show n.toUInt32.toNat % 0x100 + 0x100 * (n.toUInt32.toNat / 0x100 % 0x100)
      + 0x10000 * (n.toUInt32.toNat / 0x10000 % 0x100)
      + 0x1000000 * (n.toUInt32.toNat / 0x1000000 % 0x100) = n.toUInt32.toNat by omega]
    simp
  simp only [ofBytes, UInt8.toNat_ofNat']
  rw [hu]
  simp

end Field

namespace Record

def zeroed (length : Nat) : Record := ⟨List.replicate length 0⟩

/-- No record is longer than the largest signed 64-bit number. -/
def allot? (length : Nat) : Option Record :=
  if length < 0x8000000000000000 then some (zeroed length) else none

def length (r : Record) : Nat := r.bytes.length

def isEmpty (r : Record) : Bool := r.bytes.isEmpty

/-- The field at an offset, if the record has all four of its bytes. Offsets are 64-bit words, but
their sums are taken without wrap-around. -/
def readInt32? (r : Record) (offset : UInt64) : Option Int32 :=
  match r.bytes.drop offset.toNat with
  | a :: b :: c :: d :: _ => some (Field.ofBytes a b c d)
  | _ => none

def ofFields (fields : List Int32) : Record := ⟨fields.flatMap Field.toBytes⟩

end Record

/-! The two records of an orientation change. -/

namespace Event

/-- Category under which records of one widget are posted. -/
def widgetCategory : Int32 := 23

def orientationChanged : Int32 := 45

def screenOrientationChanged : Int32 := 21

/-- Size of the broadcast record and the offsets of its fields. -/
def broadcastLayout : List Nat := [8, 0, 4]

/-- Size of the record of one screen and the offsets of the fields after the first. -/
def addressedLayout : List Nat := [12, 4, 8]

def broadcast (o : ScreenOrientation) : Record := .ofFields [orientationChanged, o.code]

def addressed (h : Handle) (o : ScreenOrientation) : Record :=
  .ofFields [screenOrientationChanged, h.raw, o.code]

end Event

/-- A record with the category under which it was posted, if any. -/
structure Posted where
  category : Option Int32
  record : Record
deriving DecidableEq

end ScreenDeck
