import DarwinGpib.Model.Libgpib

/-!
# gpibctl

`tools/gpibctl.c`: the command line and the line-status requests that a command sends to the
broker. What is printed about the replies is left out.
-/

namespace DarwinGpib

namespace Gpibctl

open Libgpib (BrokerCall atoi)

/-! ## Numbers on the command line -/

/-- The value of a digit in the bases up to 36. -/
def digitOf (c : Char) : Option Nat :=
  if '0' ≤ c ∧ c ≤ '9' then some (c.toNat - 48)
  else if 'a' ≤ c ∧ c ≤ 'z' then some (c.toNat - 87)
  else if 'A' ≤ c ∧ c ≤ 'Z' then some (c.toNat - 55)
  else none

/-- The digits at the head of a string, as a number behind `n`. -/
def digitsIn (base : Nat) : (n : Nat) → List Char → Nat
  | n, [] => n
  | n, c :: cs =>
      match digitOf c with
      | none => n
      | some d => if d < base then digitsIn base (base * n + d) cs else n

/-- Base 0 of `strtoul`: hexadecimal behind `0x`, octal behind `0` and decimal otherwise. -/
def numberOf : List Char → Nat
  | '0' :: 'x' :: cs => digitsIn 16 0 cs
  | '0' :: 'X' :: cs => digitsIn 16 0 cs
  | '0' :: cs => digitsIn 8 0 cs
  | cs => digitsIn 10 0 cs

/-- `strtoul(s, NULL, 0)`, which saturates and negates behind a minus sign. -/
def strtoul (s : List Char) : UInt64 :=
  let saturated (cs : List Char) : UInt64 := UInt64.ofNat (min (numberOf cs) (2 ^ 64 - 1))
  match s.dropWhile fun c => c = ' ' ∨ (9 ≤ c.toNat ∧ c.toNat ≤ 13) with
  | '-' :: cs => if numberOf cs < 2 ^ 64 then -saturated cs else saturated cs
  | '+' :: cs => saturated cs
  | cs => saturated cs

/-! ## Commands -/

/-- The commands with their arguments, as `main` casts them. -/
inductive Command where
  | lines
  | regs
  | peek (reg : UInt32)
  | poke (reg val : UInt32)
  | reinit
  | usbreset
  | chunk (n : UInt32)
  deriving DecidableEq, Repr

/-- `argc > i ? atoi(argv[i]) : 0`. -/
def boardArgument (argv : List (List Char)) (i : Nat) : Int32 := (argv[i]?.map atoi).getD 0

/-- The command and its board; `none` is a usage message. -/
def parse (argv : List (List Char)) : Option (Command × Int32) :=
  let cmd := argv[1]?.getD "lines".toList
  if cmd = "lines".toList then some (.lines, boardArgument argv 2)
  else if cmd = "regs".toList then some (.regs, boardArgument argv 2)
  else if cmd = "poke".toList then do
    let reg ← argv[2]?
    let val ← argv[3]?
    return (.poke (strtoul reg).toUInt32 (strtoul val).toUInt32, boardArgument argv 4)
  else if cmd = "peek".toList then do
    let reg ← argv[2]?
    return (.peek (strtoul reg).toUInt32, boardArgument argv 3)
  else if cmd = "reinit".toList then some (.reinit, boardArgument argv 2)
  else if cmd = "chunk".toList then
    some (.chunk ((argv[2]?.map fun n => (strtoul n).toUInt32).getD 64), boardArgument argv 3)
  else if cmd = "usbreset".toList then some (.usbreset, boardArgument argv 2)
  else none

/-- The registers that `sweep_registers` reads. -/
def sweptRegisters : List UInt16 :=
  [0x00, 0x01, 0x02, 0x03, 0x04, 0x05, 0x06, 0x07,
    0x100, 0x101, 0x102, 0x103, 0x104, 0x105, 0x106, 0x107]

/-- The handles of the requests, in order. -/
def Command.handles : Command → List Int32
  | lines => [-1]
  | regs => sweptRegisters.map fun reg => (0x40000000 ||| reg.toUInt32 : UInt32).toInt32
  | reinit => [(0x10000000 : UInt32).toInt32]
  | usbreset => [(0x18000000 : UInt32).toInt32]
  | peek reg => [(0x40000000 ||| (reg &&& 0xFFFF) : UInt32).toInt32]
  | chunk n => [(0x50000000 ||| (n &&& 0xFFFF) : UInt32).toInt32]
  | poke reg val => [((0x20000000 : UInt32) ||| ((reg &&& 0xFFF) <<< 8) ||| (val &&& 0xFF)).toInt32]

/-- What `main` sends once it has a connection to the broker. -/
def main (argv : List (List Char)) : Option (List BrokerCall) :=
  (parse argv).map fun (cmd, board) =>
    cmd.handles.map fun handle => .call board (.lineStatus handle.toInt)

end Gpibctl

end DarwinGpib
