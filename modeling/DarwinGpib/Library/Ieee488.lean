import Mathlib.Data.Finset.Insert
import Mathlib.Data.List.Basic

/-!
# Addressing on an IEEE-488 bus

Command bytes with ATN asserted decide which devices listen and which one talks. A primary
address command is refined by a secondary address command that follows it directly.
-/

namespace Ieee488

/-- A primary address, with the secondary one of a device that has one. -/
structure Address where
  primary : UInt8
  secondary : Option UInt8
  deriving DecidableEq, Repr

inductive Role where
  | listener
  | talker
  deriving DecidableEq, Repr

/-! ## Command bytes -/

/-- Command bytes by their group; the code of a group is in the low five bits. -/
inductive Message where
  | unlisten
  | untalk
  | primary (role : Role) (code : UInt8)
  | secondary (code : UInt8)
  | other
  deriving DecidableEq, Repr

def decode (byte : UInt8) : Message :=
  let code := byte &&& 0x1f
  if byte &&& 0x60 = 0x20 then if code = 0x1f then .unlisten else .primary .listener code
  else if byte &&& 0x60 = 0x40 then if code = 0x1f then .untalk else .primary .talker code
  else if byte &&& 0x60 = 0x60 then .secondary code
  else .other

/-- The byte that gives a primary address a role. -/
def primaryByte (role : Role) (code : UInt8) : UInt8 :=
  match role with
  | .listener => (code &&& 0x1f) ||| 0x20
  | .talker => (code &&& 0x1f) ||| 0x40

def secondaryByte (code : UInt8) : UInt8 := (code &&& 0x1f) ||| 0x60

/-- The bytes that give an address a role. -/
def Address.bytes (role : Role) (a : Address) : List UInt8 :=
  primaryByte role a.primary :: a.secondary.toList.map secondaryByte

/-- Addresses that can be encoded: 31 stands for nobody. -/
def Address.Valid (a : Address) : Prop := a.primary ≤ 30 ∧ ∀ code ∈ a.secondary, code ≤ 30

instance (a : Address) : Decidable a.Valid := inferInstanceAs (Decidable (_ ∧ _))

theorem decode_primaryByte_fin (role : Role) :
    ∀ code : Fin 256, (⟨⟨code⟩⟩ : UInt8) ≤ 30 →
      decode (primaryByte role ⟨⟨code⟩⟩) = .primary role ⟨⟨code⟩⟩ := by
  cases role <;> decide +kernel

theorem decode_primaryByte (role : Role) {code : UInt8} (h : code ≤ 30) :
    decode (primaryByte role code) = .primary role code :=
  decode_primaryByte_fin role code.toFin h

theorem decode_secondaryByte_fin :
    ∀ code : Fin 256, (⟨⟨code⟩⟩ : UInt8) ≤ 30 →
      decode (secondaryByte ⟨⟨code⟩⟩) = .secondary ⟨⟨code⟩⟩ := by
  decide +kernel

theorem decode_secondaryByte {code : UInt8} (h : code ≤ 30) :
    decode (secondaryByte code) = .secondary code :=
  decode_secondaryByte_fin code.toFin h

/-! ## The state of the bus -/

/-- The primary address that a secondary one would refine, with the listeners there were
before it. -/
inductive Refinable where
  | nothing
  | listener (code : UInt8) (others : Finset Address)
  | talker (code : UInt8)
  deriving DecidableEq

structure Addressing where
  listeners : Finset Address
  talker : Option Address
  last : Refinable
  deriving DecidableEq

namespace Addressing

/-- Nobody is addressed. -/
def clear : Addressing := ⟨∅, none, .nothing⟩

/-- The effect of one message. -/
def obey (s : Addressing) : Message → Addressing
  | .unlisten => { s with listeners := ∅, last := .nothing }
  | .untalk => { s with talker := none, last := .nothing }
  | .primary .listener code =>
      { s with listeners := insert ⟨code, none⟩ s.listeners, last := .listener code s.listeners }
  | .primary .talker code => { s with talker := some ⟨code, none⟩, last := .talker code }
  | .secondary code =>
      match s.last with
      | .nothing => s
      | .listener p others =>
          { s with listeners := insert ⟨p, some code⟩ others, last := .nothing }
      | .talker p => { s with talker := some ⟨p, some code⟩, last := .nothing }
  | .other => { s with last := .nothing }

def receive (s : Addressing) (byte : UInt8) : Addressing := s.obey (decode byte)

def receiveAll (s : Addressing) (bytes : List UInt8) : Addressing := bytes.foldl receive s

variable (s : Addressing)

@[simp] theorem receiveAll_nil : s.receiveAll [] = s :=
  rfl

@[simp] theorem receiveAll_cons (byte : UInt8) (bytes : List UInt8) :
    s.receiveAll (byte :: bytes) = (s.obey (decode byte)).receiveAll bytes :=
  rfl

@[simp] theorem receiveAll_append (u v : List UInt8) :
    s.receiveAll (u ++ v) = (s.receiveAll u).receiveAll v := by
  simp [receiveAll]

/-- `UNL` and `UNT` leave nobody addressed. -/
@[simp] theorem decode_unlisten : decode 0x3F = .unlisten :=
  rfl

@[simp] theorem decode_untalk : decode 0x5F = .untalk :=
  rfl

/-- Addressing a device to listen adds it to the listeners. -/
theorem receiveAll_bytes_listener {a : Address} (h : a.Valid) :
    (s.receiveAll (a.bytes .listener)).listeners = insert a s.listeners ∧
      (s.receiveAll (a.bytes .listener)).talker = s.talker := by
  obtain ⟨p, c⟩ := a
  have hp := decode_primaryByte .listener h.1
  cases c with
  | none => simp [Address.bytes, hp, obey]
  | some c => simp [Address.bytes, hp, obey, decode_secondaryByte (h.2 c rfl)]

/-- Addressing a device to talk replaces the talker. -/
theorem receiveAll_bytes_talker {a : Address} (h : a.Valid) :
    (s.receiveAll (a.bytes .talker)).listeners = s.listeners ∧
      (s.receiveAll (a.bytes .talker)).talker = some a := by
  obtain ⟨p, c⟩ := a
  have hp := decode_primaryByte .talker h.1
  cases c with
  | none => simp [Address.bytes, hp, obey]
  | some c => simp [Address.bytes, hp, obey, decode_secondaryByte (h.2 c rfl)]

end Addressing

end Ieee488
