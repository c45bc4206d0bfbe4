import MeetingSystem.Framework.BigEndian
import Mathlib.Data.List.Basic

/-!
# Checked reads

A function over the bytes of a buffer, written with reads that are `none` where
there is no byte. Such a function is never `none` if and only if it reads inside
the buffer on every input; `byte_eq` to `slice_eq` say what the reads are there,
and `word16_of_drop` to `slice_of_drop` that what stands at a place is read back.
-/

namespace MeetingSystem.Framework.Checked

def byte (data : List UInt8) (i : Nat) : Option UInt8 := data[i]?

/-- The 16-bit word at `i`, in network order. -/
def word16 (data : List UInt8) (i : Nat) : Option UInt16 :=
  (byte data i).bind fun a => (byte data (i + 1)).map fun b => a.toUInt16 <<< 8 ||| b.toUInt16

/-- The 32-bit word at `i`, in network order. -/
def word32 (data : List UInt8) (i : Nat) : Option UInt32 :=
  (byte data i).bind fun a => (byte data (i + 1)).bind fun b => (byte data (i + 2)).bind fun c =>
    (byte data (i + 3)).map fun d =>
      a.toUInt32 <<< 24 ||| b.toUInt32 <<< 16 ||| c.toUInt32 <<< 8 ||| d.toUInt32

/-- The `n` bytes from `i` on. -/
def slice (data : List UInt8) (i n : Nat) : Option (List UInt8) :=
  if i + n ≤ data.length then some ((data.drop i).take n) else none

variable {data : List UInt8} {i n : Nat}

theorem byte_eq (h : i < data.length) : byte data i = some (data.getD i 0) := by
  rw [byte, List.getD_eq_getElem?_getD, List.getElem?_eq_getElem h]
  rfl

theorem word16_eq (h : i + 2 ≤ data.length) :
    word16 data i =
      some ((data.getD i 0).toUInt16 <<< 8 ||| (data.getD (i + 1) 0).toUInt16) := by
  rw [word16, byte_eq (by omega), byte_eq (by omega)]
  rfl

theorem word32_eq (h : i + 4 ≤ data.length) :
    word32 data i =
      some ((data.getD i 0).toUInt32 <<< 24 ||| (data.getD (i + 1) 0).toUInt32 <<< 16 |||
        (data.getD (i + 2) 0).toUInt32 <<< 8 ||| (data.getD (i + 3) 0).toUInt32) := by
  rw [word32, byte_eq (by omega), byte_eq (by omega), byte_eq (by omega), byte_eq (by omega)]
  rfl

theorem slice_eq (h : i + n ≤ data.length) : slice data i n = some ((data.drop i).take n) :=
  if_pos h

theorem byte_drop (data : List UInt8) (i j : Nat) : byte (data.drop i) j = byte data (i + j) :=
  List.getElem?_drop

theorem word16_of_drop {v : UInt16} {rest : List UInt8}
    (h : data.drop i = (v >>> 8).toUInt8 :: v.toUInt8 :: rest) : word16 data i = some v := by
  have h0 : byte data i = some (v >>> 8).toUInt8 := by
    rw [← Nat.add_zero i, ← byte_drop, h]
    rfl
  have h1 : byte data (i + 1) = some v.toUInt8 := by
    rw [← byte_drop, h]
    rfl
  rw [word16, h0, h1]
  exact congrArg some (join16_bytes v)

theorem word32_of_drop {v : UInt32} {rest : List UInt8}
    (h : data.drop i = (v >>> 24).toUInt8 :: (v >>> 16).toUInt8 :: (v >>> 8).toUInt8 ::
      v.toUInt8 :: rest) : word32 data i = some v := by
  have h0 : byte data i = some (v >>> 24).toUInt8 := by
    rw [← Nat.add_zero i, ← byte_drop, h]
    rfl
  have h1 : byte data (i + 1) = some (v >>> 16).toUInt8 := by
    rw [← byte_drop, h]
    rfl
  have h2 : byte data (i + 2) = some (v >>> 8).toUInt8 := by
    rw [← byte_drop, h]
    rfl
  have h3 : byte data (i + 3) = some v.toUInt8 := by
    rw [← byte_drop, h]
    rfl
  rw [word32, h0, h1, h2, h3]
  exact congrArg some (join32_bytes v)

theorem slice_of_drop {value rest : List UInt8} (hi : i ≤ data.length)
    (h : data.drop i = value ++ rest) : slice data i value.length = some value := by
  have hlength : data.length - i = value.length + rest.length := by
    rw [← List.length_drop, h, List.length_append]
  rw [slice_eq (by omega), h, List.take_left]

end MeetingSystem.Framework.Checked
