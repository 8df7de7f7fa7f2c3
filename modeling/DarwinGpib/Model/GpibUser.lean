/-!
# Status bits, error codes and command bytes

The constants of `driver/gpib/gpib_user.h` that the driver and the library use.
-/

namespace DarwinGpib

/-! ## `ibsta` bits -/

namespace Ibsta

def err : UInt32 := 0x8000
def timo : UInt32 := 0x4000
/-- `END`: the message was terminated by EOI or EOS. -/
def «end» : UInt32 := 0x2000
def srqi : UInt32 := 0x1000
def rqs : UInt32 := 0x0800
def cmpl : UInt32 := 0x0100
def lok : UInt32 := 0x0080
def rem : UInt32 := 0x0040
def cic : UInt32 := 0x0020

/-- What a mask selects of two statuses joined. -/
theorem or_and {a b mask : UInt32} : (a ||| b) &&& mask = a &&& mask ||| b &&& mask :=
  UInt32.toBitVec_inj.mp BitVec.and_or_distrib_right

/-- Two statuses joined show no error when neither shows one. -/
theorem or_and_err_eq_zero_iff {a b : UInt32} :
    (a ||| b) &&& err = 0 ↔ a &&& err = 0 ∧ b &&& err = 0 := by
  rw [or_and, UInt32.or_eq_zero_iff]

end Ibsta

/-! ## `iberr` codes -/

namespace Iberr

def edvr : UInt32 := 0
def ecic : UInt32 := 1
def enol : UInt32 := 2
def earg : UInt32 := 4
def eabo : UInt32 := 6
def eneb : UInt32 := 7
def ecap : UInt32 := 11
def ebus : UInt32 := 14
def etab : UInt32 := 20

end Iberr

/-! ## End-of-string modes -/

namespace EosFlags

def reos : UInt32 := 0x0400
def xeos : UInt32 := 0x0800
def bin : UInt32 := 0x1000

/-- `REOS | XEOS | BIN`. -/
def all : UInt32 := reos ||| xeos ||| bin

end EosFlags

/-! ## Command bytes -/

namespace CmdByte

def gtl : UInt8 := 0x01
def sdc : UInt8 := 0x04
def get : UInt8 := 0x08
def llo : UInt8 := 0x11
def dcl : UInt8 := 0x14
def spe : UInt8 := 0x18
def spd : UInt8 := 0x19
def lad : UInt8 := 0x20
def unl : UInt8 := 0x3F
def tad : UInt8 := 0x40
def unt : UInt8 := 0x5F
def sad : UInt8 := 0x60

end CmdByte

/-! ## Bus control lines -/

namespace BusLine

def validNDAC : UInt16 := 0x02
def validSRQ : UInt16 := 0x20
def validAll : UInt16 := 0xFF
def busDAV : UInt16 := 0x0100
def busNDAC : UInt16 := 0x0200
def busNRFD : UInt16 := 0x0400
def busIFC : UInt16 := 0x0800
def busREN : UInt16 := 0x1000
def busSRQ : UInt16 := 0x2000
def busATN : UInt16 := 0x4000
def busEOI : UInt16 := 0x8000

end BusLine

/-! ## Option keys of `ibconfig` and `ibask` -/

namespace Ibc

def pad : UInt32 := 0x1
def sad : UInt32 := 0x2
def tmo : UInt32 := 0x3
def eot : UInt32 := 0x4
def eosRd : UInt32 := 0xC
def eosWrt : UInt32 := 0xD
def eosCmp : UInt32 := 0xE
def eosChar : UInt32 := 0xF

end Ibc

end DarwinGpib
