import DarwinGpib.Library.Program
import DarwinGpib.Model.Transport
import Mathlib.Algebra.Group.Nat.Defs

/-!
# USB transfers as requests to the environment

Every call a transport makes into the USB stack is a request; the device and the stack answer
it as they like, except that a transfer never reports more bytes than it was offered room for.
Two requests have no reply: `overrun` is an access outside an array, and `outOfFuel` ends a
loop of the source that the model has unrolled as often as it was told to.
-/

namespace DarwinGpib

open Interaction

/-- The `kern_return_t` values that the transports tell apart. -/
inductive IOReturn where
  | success
  | timeout
  | aborted
  | notOpen
  | other
  deriving DecidableEq, Repr

/-- The bulk pipes of the three adapters. -/
inductive Pipe where
  | bulkOut
  | bulkIn
  | dataOut
  | cmdOut
  | dataIn
  deriving DecidableEq, Repr

namespace Usb

inductive Request where
  /-- `IOBufferMemoryDescriptor::Map` of a transfer buffer. -/
  | map
  /-- `IOBufferMemoryDescriptor::Create` of a scratch buffer. -/
  | create (size : Nat)
  /-- `IOUSBHostPipe::IO` towards the device. -/
  | pipeOut (pipe : Pipe) (data : List UInt8) (timeoutMs : Nat)
  /-- `IOUSBHostPipe::IO` from the device. -/
  | pipeIn (pipe : Pipe) (capacity timeoutMs : Nat)
  | clearStall (pipe : Pipe)
  /-- `IOUSBHostDevice::DeviceRequest` towards the device. -/
  | controlOut (request : UInt8) (wValue wIndex : UInt16) (data : List UInt8)
  /-- `IOUSBHostDevice::DeviceRequest` from the device. -/
  | controlIn (request : UInt8) (wValue wIndex : UInt16) (length : Nat)
  /-- `IOUSBHostDevice::Reset`. -/
  | reset
  /-- `clock_gettime_nsec_np(CLOCK_UPTIME_RAW)`. -/
  | uptime
  | overrun
  | outOfFuel
  deriving DecidableEq, Repr

/-- The outcome of a transfer that offered `n` bytes. -/
structure OutReply (n : Nat) where
  status : IOReturn
  transferred : Fin (n + 1)

/-- The outcome of a transfer with room for `capacity` bytes. -/
structure InReply (capacity : Nat) where
  status : IOReturn
  bytes : List UInt8
  length_le : bytes.length ≤ capacity

abbrev Request.Reply : Request → Type
  | map | create _ | clearStall _ | reset => IOReturn
  | pipeOut _ data _ => OutReply data.length
  | controlOut _ _ _ data => OutReply data.length
  | pipeIn _ capacity _ => InReply capacity
  | controlIn _ _ _ length => InReply length
  | uptime => UInt64
  | overrun | outOfFuel => Empty

end Usb

/-- A program of the driver over the USB stack. -/
abbrev Usb := Program Usb.Request.Reply

namespace Usb

abbrev Trace := Interaction.Trace Request.Reply

/-- An array access out of bounds: nothing the program does afterwards is defined. -/
def overrun {α : Type} : Usb α := .ask .overrun Empty.elim

/-- A loop of the source that has not ended within the model's fuel. -/
def outOfFuel {α : Type} : Usb α := .ask .outOfFuel Empty.elim

/-- A result computed with checked array accesses. -/
def checked {α : Type} : Option α → Usb α
  | some a => pure a
  | none => overrun

/-- Append a byte to the part of an array of `room` bytes that is filled already. -/
def store (room : Nat) (buf : List UInt8) (b : UInt8) : Option (List UInt8) :=
  if buf.length < room then some (buf ++ [b]) else none

/-- Copy received bytes to an array of `room` bytes. -/
def copyTo (room : Nat) (bytes : List UInt8) : Usb (List UInt8) :=
  if bytes.length ≤ room then pure bytes else overrun

/-- An operation of a transport object that changes none of its members. -/
def keeping {τ α : Type} (op : τ → Usb α) : StateT τ Usb α :=
  fun t => return (← op t, t)

end Usb

/-- A 32-bit value, least significant byte first. -/
def le32 (n : Nat) : List UInt8 :=
  [UInt8.ofNat n, UInt8.ofNat (n >>> 8), UInt8.ofNat (n >>> 16), UInt8.ofNat (n >>> 24)]

/-- The 32-bit value of four bytes, least significant byte first. -/
def fromLe32 (b₀ b₁ b₂ b₃ : UInt8) : Nat :=
  (b₀.toUInt32 ||| (b₁.toUInt32 <<< 8) ||| (b₂.toUInt32 <<< 16) |||
    (b₃.toUInt32 <<< 24)).toNat

/-- Disjoint bits are joined by adding. -/
theorem or_shiftLeft {lo i : Nat} (hi : Nat) (h : lo < 2 ^ i) :
    lo ||| hi * 2 ^ i = lo + 2 ^ i * hi := by
  rw [Nat.or_comm, ← Nat.shiftLeft_eq, ← Nat.shiftLeft_add_eq_or_of_lt h, Nat.shiftLeft_eq,
    Nat.add_comm, Nat.mul_comm]

theorem fromLe32_eq (b₀ b₁ b₂ b₃ : UInt8) :
    fromLe32 b₀ b₁ b₂ b₃ =
      b₀.toNat + 2 ^ 8 * b₁.toNat + 2 ^ 16 * b₂.toNat + 2 ^ 24 * b₃.toNat := by
  have h₀ := b₀.toNat_lt
  have h₁ := b₁.toNat_lt
  have h₂ := b₂.toNat_lt
  have h₃ := b₃.toNat_lt
  have e₁ : UInt32.toNat 8 % 32 = 8 := rfl
  have e₂ : UInt32.toNat 16 % 32 = 16 := rfl
  have e₃ : UInt32.toNat 24 % 32 = 24 := rfl
  have or₁ := or_shiftLeft b₁.toNat h₀
  have or₂ := or_shiftLeft b₂.toNat
    (show b₀.toNat + 2 ^ 8 * b₁.toNat < 2 ^ 16 by omega)
  have or₃ := or_shiftLeft b₃.toNat
    (show b₀.toNat + 2 ^ 8 * b₁.toNat + 2 ^ 16 * b₂.toNat < 2 ^ 24 by omega)
  simp only [fromLe32, UInt32.toNat_or, UInt32.toNat_shiftLeft, UInt8.toNat_toUInt32,
    Nat.shiftLeft_eq, e₁, e₂, e₃]
  rw [Nat.mod_eq_of_lt (show b₁.toNat * 2 ^ 8 < 2 ^ 32 by omega),
    Nat.mod_eq_of_lt (show b₂.toNat * 2 ^ 16 < 2 ^ 32 by omega),
    Nat.mod_eq_of_lt (show b₃.toNat * 2 ^ 24 < 2 ^ 32 by omega), or₁, or₂, or₃]

/-- A 32-bit value survives its four bytes. -/
theorem fromLe32_le32 {n : Nat} (h : n < 2 ^ 32) :
    fromLe32 (UInt8.ofNat n) (UInt8.ofNat (n >>> 8)) (UInt8.ofNat (n >>> 16))
      (UInt8.ofNat (n >>> 24)) = n := by
  simp only [fromLe32_eq, UInt8.toNat_ofNat', Nat.shiftRight_eq_div_pow]
  omega

/-- `mapIOReturn`, the same in all three transports. -/
def mapIOReturn : IOReturn → GPIBTransportError
  | .success => .ok
  | .timeout => .errTimeout
  | .aborted => .errAborted
  | .notOpen => .errNotReady
  | .other => .errIo

@[simp] theorem mapIOReturn_eq_ok_iff {r : IOReturn} : mapIOReturn r = .ok ↔ r = .success := by
  cases r <;> simp [mapIOReturn]

end DarwinGpib
