import DarwinGpib.Model.Usb
import Mathlib.Algebra.Group.Int.Defs

/-!
# Driver utilities

`driver/utils/DriverUtils.cpp`. Reading outside the descriptor and writing outside the allocated
buffer are undefined, which is `none`; a null pointer is `some none`.
-/

namespace DarwinGpib

/-- `IOUSBStringDescriptor`, with the bytes of `bString` behind its header of two bytes. -/
structure StringDescriptor where
  bLength : UInt8
  bString : List UInt8
  length_eq : bString.length = bLength.toNat - 2

namespace DriverUtils

/-- `utf16Length`: `(bLength - 2) / 2` is an `int`, stored in a `size_t`. -/
def utf16Length (bLength : UInt8) : Nat :=
  (Int.tdiv (bLength.toNat - 2) 2 % 2 ^ 64).toNat

/-- The size of `utf8String`. -/
def utf8Size (utf16Length : Nat) : Nat := (utf16Length * 4 + 1) % 2 ^ 64

/-- `OSSwapLittleToHostInt16(utf16String[i])`. -/
def unitAt (bString : List UInt8) (i : Nat) : Option UInt16 := do
  let lo ← bString[2 * i]?
  let hi ← bString[2 * i + 1]?
  return lo.toUInt16 ||| (hi.toUInt16 <<< 8)

/-- The bytes that the loop appends for one unit. -/
def utf8OfUnit (ch : UInt16) : List UInt8 :=
  if ch < 0x80 then [ch.toUInt8]
  else if ch < 0x800 then
    [((0xC0 : UInt16) ||| (ch >>> 6)).toUInt8, (0x80 ||| (ch &&& 0x3F)).toUInt8]
  else
    [((0xE0 : UInt16) ||| (ch >>> 12)).toUInt8,
      ((0x80 : UInt16) ||| ((ch >>> 6) &&& 0x3F)).toUInt8, (0x80 ||| (ch &&& 0x3F)).toUInt8]

/-- The loop over `n` units from index `i`; `utf8` is what has been written to a buffer of `room`
bytes. -/
def transcode (bString : List UInt8) (room : Nat) :
    (n i : Nat) → (utf8 : List UInt8) → Option (List UInt8)
  | 0, _, utf8 => some utf8
  | n + 1, i, utf8 => do
      let ch ← unitAt bString i
      let utf8 ← (utf8OfUnit ch).foldlM (Usb.store room) utf8
      transcode bString room n (i + 1) utf8

/-- The bytes of the `OSString`, without the terminator that is stored behind them. `allocates` is
whether `IOMalloc` finds that many bytes. -/
def copyDeviceString (allocates : Nat → Bool) (stringDescriptor : Option StringDescriptor)
    (fallback : Option (List UInt8)) : Option (Option (List UInt8)) :=
  match stringDescriptor with
  | none => some (some (fallback.getD ("Unknown".toList.flatMap String.utf8EncodeChar)))
  | some descriptor =>
      let length := utf16Length descriptor.bLength
      if !allocates (utf8Size length) then some none
      else do
        let utf8 ← transcode descriptor.bString (utf8Size length) length 0 []
        let _ ← Usb.store (utf8Size length) utf8 0
        return some utf8

end DriverUtils

end DarwinGpib
