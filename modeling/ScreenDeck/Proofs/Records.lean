import Mathlib.Algebra.Group.Int.Defs
import Mathlib.Algebra.Group.Nat.Defs
import ScreenDeck.Record

/-! Records as runs of fields. A field that is written is read back from its own offset, fields that
do not overlap do not disturb one another, and a read is exact at every offset, aligned or not. -/

namespace ScreenDeck

namespace Field

/-- The number that four bytes stand for, the lowest first. The top bit of the last byte weighs
`-2 ^ 31`. -/
def signed (a b c d : UInt8) : Int :=
  a.toNat + 2 ^ 8 * b.toNat + 2 ^ 16 * c.toNat + 2 ^ 24 * d.toNat
    - if d.toNat < 2 ^ 7 then 0 else 2 ^ 32

theorem toInt_ofBytes (a b c d : UInt8) : (ofBytes a b c d).toInt = signed a b c d := by
  have ha := a.toNat_lt
  have hb := b.toNat_lt
  have hc := c.toNat_lt
  have hd := d.toNat_lt
  have hbits : (ofBytes a b c d).toInt =
      ((a.toNat + 0x100 * b.toNat + 0x10000 * c.toNat + 0x1000000 * d.toNat : Nat) : Int).bmod
        (2 ^ 32) := by
    rw [ofBytes, ← Int32.toInt_toBitVec, BitVec.toInt_eq_toNat_bmod]
    congr 2
    exact Nat.mod_eq_of_lt (by omega)
  rw [hbits, Int.bmod_def, signed]
  split <;> split <;> omega

end Field

namespace Record

/-- A field is missing exactly if the record ends before its last byte. -/
theorem readInt32?_eq_none_iff {r : Record} {offset : UInt64} :
    r.readInt32? offset = none ↔ r.length < offset.toNat + 4 := by
  have hlen : (r.bytes.drop offset.toNat).length = r.length - offset.toNat := by simp [length]
  unfold readInt32?
  match heq : r.bytes.drop offset.toNat with
  | a :: b :: c :: d :: rest =>
    rw [heq] at hlen
    simp only [List.length_cons] at hlen
    simp only [reduceCtorEq, false_iff]
    omega
  | [] | [_] | [_, _] | [_, _, _] =>
    rw [heq] at hlen
    simp only [List.length_cons, List.length_nil] at hlen
    simp only [true_iff]
    omega

theorem isSome_readInt32?_iff {r : Record} {offset : UInt64} :
    (r.readInt32? offset).isSome ↔ offset.toNat + 4 ≤ r.length := by
  rw [← Nat.not_lt, ← readInt32?_eq_none_iff, Option.isSome_iff_ne_none]

/-- A field is made of its four bytes and of no others. -/
theorem readInt32?_eq_some_iff {r : Record} {offset : UInt64} {n : Int32} :
    r.readInt32? offset = some n ↔
      ∃ a b c d, r.bytes[offset.toNat]? = some a ∧ r.bytes[offset.toNat + 1]? = some b ∧
        r.bytes[offset.toNat + 2]? = some c ∧ r.bytes[offset.toNat + 3]? = some d ∧
        n.toInt = Field.signed a b c d := by
  have hget (i : Nat) : r.bytes[offset.toNat + i]? = (r.bytes.drop offset.toNat)[i]? := by simp
  have hget0 := hget 0
  rw [Nat.add_zero] at hget0
  rw [hget0, hget 1, hget 2, hget 3, readInt32?]
  match r.bytes.drop offset.toNat with
  | [] | [_] | [_, _] | [_, _, _] => simp
  | a :: b :: c :: d :: rest =>
    simp [← Field.toInt_ofBytes, Int32.toInt_inj, eq_comm]

def write (r : Record) (offset : UInt64) (n : Int32) : Record :=
  ⟨r.bytes.take offset.toNat ++ Field.toBytes n ++ r.bytes.drop (offset.toNat + 4)⟩

variable {r : Record} {offset other : UInt64}

theorem length_take_bytes (h : offset.toNat + 4 ≤ r.length) :
    (r.bytes.take offset.toNat).length = offset.toNat := by
  simp only [length] at h
  simp only [List.length_take]
  omega

theorem readInt32?_write_self (h : offset.toNat + 4 ≤ r.length) (n : Int32) :
    (r.write offset n).readInt32? offset = some n := by
  have hstart := length_take_bytes h
  have hdrop : (r.write offset n).bytes.drop offset.toNat =
      Field.toBytes n ++ r.bytes.drop (offset.toNat + 4) := by
    rw [write, List.append_assoc]
    exact List.drop_left' hstart
  rw [readInt32?, hdrop]
  exact congrArg some (Field.ofBytes_toBytes n)

theorem getElem?_write_of_outside (h : offset.toNat + 4 ≤ r.length) (n : Int32) {i : Nat}
    (hi : i < offset.toNat ∨ offset.toNat + 4 ≤ i) :
    (r.write offset n).bytes[i]? = r.bytes[i]? := by
  have hstart := length_take_bytes h
  have hfield : (r.bytes.take offset.toNat ++ Field.toBytes n).length = offset.toNat + 4 := by
    rw [List.length_append, hstart, Field.length_toBytes]
  rcases hi with hlow | hhigh
  · rw [write, List.append_assoc, List.getElem?_append_left (by omega),
      List.getElem?_take_of_lt hlow]
  · rw [write, List.getElem?_append_right (by omega), hfield, List.getElem?_drop]
    congr 1
    omega

/-- Fields that do not overlap leave each other alone. -/
theorem readInt32?_write_of_apart (h : offset.toNat + 4 ≤ r.length) (n : Int32)
    (hapart : other.toNat + 4 ≤ offset.toNat ∨ offset.toNat + 4 ≤ other.toNat) :
    (r.write offset n).readInt32? other = r.readInt32? other := by
  have hsame (i : Nat) (hi : i < 4) :
      (r.write offset n).bytes[other.toNat + i]? = r.bytes[other.toNat + i]? :=
    getElem?_write_of_outside h n (by omega)
  -- A read is settled by its four bytes, of which none has changed.
  have hread (m : Int32) :
      (r.write offset n).readInt32? other = some m ↔ r.readInt32? other = some m := by
    rw [readInt32?_eq_some_iff, readInt32?_eq_some_iff, hsame 1 (by omega), hsame 2 (by omega),
      hsame 3 (by omega)]
    have hfirst := hsame 0 (by omega)
    simp only [Nat.add_zero] at hfirst
    rw [hfirst]
  exact Option.ext hread

end Record

namespace Event

open Record

theorem broadcast_eq_write (o : ScreenOrientation) :
    broadcast o = ((zeroed 8).write 0 orientationChanged).write 4 o.code := rfl

theorem addressed_eq_write (h : Handle) (o : ScreenOrientation) :
    addressed h o =
      (((zeroed 12).write 0 screenOrientationChanged).write 4 h.raw).write 8 o.code := rfl

theorem length_broadcast (o : ScreenOrientation) : (broadcast o).length = 8 := rfl

theorem length_addressed (h : Handle) (o : ScreenOrientation) : (addressed h o).length = 12 := rfl

theorem readInt32?_broadcast (o : ScreenOrientation) :
    (broadcast o).readInt32? 0 = some orientationChanged ∧
      (broadcast o).readInt32? 4 = some o.code := by
  rw [broadcast_eq_write]
  constructor
  · rw [readInt32?_write_of_apart (by decide) _ (by decide)]
    exact readInt32?_write_self (by decide) _
  · exact readInt32?_write_self (by decide) _

theorem readInt32?_addressed (h : Handle) (o : ScreenOrientation) :
    (addressed h o).readInt32? 0 = some screenOrientationChanged ∧
      (addressed h o).readInt32? 4 = some h.raw ∧ (addressed h o).readInt32? 8 = some o.code := by
  have hfits : (4 : UInt64).toNat + 4 ≤ ((zeroed 12).write 0 screenOrientationChanged).length :=
    (by decide : (4 : UInt64).toNat + 4 ≤ 12)
  have hfits' : (8 : UInt64).toNat + 4 ≤
      (((zeroed 12).write 0 screenOrientationChanged).write 4 h.raw).length :=
    (by decide : (8 : UInt64).toNat + 4 ≤ 12)
  rw [addressed_eq_write]
  refine ⟨?_, ?_, readInt32?_write_self hfits' _⟩
  · rw [readInt32?_write_of_apart hfits' _ (by decide),
      readInt32?_write_of_apart hfits _ (by decide)]
    exact readInt32?_write_self (by decide) _
  · rw [readInt32?_write_of_apart hfits' _ (by decide)]
    exact readInt32?_write_self hfits _

/-- The fields of a record tell whose record it is and which way the screen came to lie. -/
theorem addressed_inj {h h' : Handle} {o o' : ScreenOrientation} :
    addressed h o = addressed h' o' ↔ h = h' ∧ o = o' := by
  constructor
  · intro heq
    obtain ⟨-, hraw, hcode⟩ := readInt32?_addressed h o
    obtain ⟨-, hraw', hcode'⟩ := readInt32?_addressed h' o'
    rw [heq, hraw'] at hraw
    rw [heq, hcode'] at hcode
    have hhandle : h = h' := by
      cases h
      cases h'
      exact congrArg Handle.mk (Option.some.inj hraw).symm
    exact ⟨hhandle, ScreenOrientation.code_injective (Option.some.inj hcode).symm⟩
  · rintro ⟨rfl, rfl⟩
    rfl

theorem broadcast_ne_addressed (o : ScreenOrientation) (h : Handle) (o' : ScreenOrientation) :
    broadcast o ≠ addressed h o' := by
  intro heq
  have hlen := congrArg Record.length heq
  rw [length_broadcast, length_addressed] at hlen
  exact absurd hlen (by decide)

/-- Both records of an orientation change decode to what they were made of, no two handles or
orientations share a record, and a read has an answer exactly where four bytes are left. -/
theorem records_decode :
    (∀ o, (broadcast o).length = 8 ∧ (broadcast o).readInt32? 0 = some orientationChanged ∧
      (broadcast o).readInt32? 4 = some o.code) ∧
    (∀ h o, (addressed h o).length = 12 ∧
      (addressed h o).readInt32? 0 = some screenOrientationChanged ∧
      (addressed h o).readInt32? 4 = some h.raw ∧ (addressed h o).readInt32? 8 = some o.code) ∧
    (∀ h o h' o', addressed h o = addressed h' o' ↔ h = h' ∧ o = o') ∧
    (∀ o h o', broadcast o ≠ addressed h o') ∧
    ∀ (r : Record) (offset : UInt64),
      ((r.readInt32? offset).isSome ↔ offset.toNat + 4 ≤ r.length) ∧
      ∀ n, r.readInt32? offset = some n ↔
        ∃ a b c d, r.bytes[offset.toNat]? = some a ∧ r.bytes[offset.toNat + 1]? = some b ∧
          r.bytes[offset.toNat + 2]? = some c ∧ r.bytes[offset.toNat + 3]? = some d ∧
          n.toInt = Field.signed a b c d :=
  ⟨fun o => ⟨length_broadcast o, readInt32?_broadcast o⟩,
    fun h o => ⟨length_addressed h o, readInt32?_addressed h o⟩,
    fun _ _ _ _ => addressed_inj, broadcast_ne_addressed,
    fun _ _ => ⟨isSome_readInt32?_iff, fun _ => readInt32?_eq_some_iff⟩⟩

end Event

end ScreenDeck
