import DarwinGpib.Model.Selectors

/-!
# The checks on a call

`sExternalMethodChecks` of `driver/userclient/GPIBUserClient.cpp`: the sizes that a call has to
bring before the driver looks at it.
-/

namespace DarwinGpib

def DriverCall.selector : DriverCall → Selector
  | boardOnline _ => .boardOnline
  | openDescriptor _ => .openDescriptor
  | closeDescriptor _ => .closeDescriptor
  | configure _ _ _ => .configure
  | write _ _ _ => .write
  | read _ _ => .read
  | deviceClear _ => .deviceClear
  | interfaceClear _ => .interfaceClear
  | remoteEnable _ _ => .remoteEnable
  | wait _ _ _ => .wait
  | ask _ _ => .ask
  | serialPoll _ => .serialPoll
  | trigger _ => .trigger
  | goToLocal _ => .goToLocal
  | localLockout _ => .localLockout
  | lineStatus _ => .lineStatus
  | listenerPresent _ _ _ => .listenerPresent
  | sendCommand _ _ => .sendCommand

namespace UserClient

/-- The sizes in an entry of `sExternalMethodChecks`; `none` is
`kIOUserClientVariableStructureSize`. -/
structure MethodDispatch where
  checkStructureInputSize : Option Nat
  checkStructureOutputSize : Option Nat
  deriving DecidableEq

/-- `sExternalMethodChecks`. -/
def externalMethodChecks : Selector → MethodDispatch
  | .boardOnline => ⟨some Wire.OnlineIn.layout.size, some Wire.StatusOut.layout.size⟩
  | .openDescriptor =>
      ⟨some Wire.OpenDescriptorIn.layout.size, some Wire.OpenDescriptorOut.layout.size⟩
  | .closeDescriptor => ⟨some Wire.HandleIn.layout.size, some Wire.StatusOut.layout.size⟩
  | .configure => ⟨some Wire.ConfigureIn.layout.size, some Wire.StatusOut.layout.size⟩
  | .write => ⟨none, some Wire.StatusOut.layout.size⟩
  | .read => ⟨some Wire.ReadIn.layout.size, none⟩
  | .deviceClear => ⟨some Wire.HandleIn.layout.size, some Wire.StatusOut.layout.size⟩
  | .interfaceClear => ⟨some Wire.HandleIn.layout.size, some Wire.StatusOut.layout.size⟩
  | .remoteEnable => ⟨some Wire.RemoteEnableIn.layout.size, some Wire.StatusOut.layout.size⟩
  | .wait => ⟨some Wire.WaitIn.layout.size, some Wire.StatusOut.layout.size⟩
  | .ask => ⟨some Wire.AskIn.layout.size, some Wire.AskOut.layout.size⟩
  | .serialPoll => ⟨some Wire.HandleIn.layout.size, some Wire.SerialPollOut.layout.size⟩
  | .trigger => ⟨some Wire.HandleIn.layout.size, some Wire.StatusOut.layout.size⟩
  | .goToLocal => ⟨some Wire.HandleIn.layout.size, some Wire.StatusOut.layout.size⟩
  | .localLockout => ⟨some Wire.HandleIn.layout.size, some Wire.StatusOut.layout.size⟩
  | .lineStatus => ⟨some Wire.HandleIn.layout.size, some Wire.LineStatusOut.layout.size⟩
  | .listenerPresent => ⟨some Wire.AddressIn.layout.size, some Wire.ListenerOut.layout.size⟩
  | .sendCommand => ⟨none, some Wire.StatusOut.layout.size⟩

namespace MethodDispatch

variable (d : MethodDispatch)

/-- The output has the size of an entry. -/
def AdmitsOutput (outputSize : Nat) : Prop := ∀ n ∈ d.checkStructureOutputSize, outputSize = n

/-- The input and the output have the sizes of an entry. -/
def Admits (inputSize outputSize : Nat) : Prop :=
  (∀ n ∈ d.checkStructureInputSize, inputSize = n) ∧ d.AdmitsOutput outputSize

variable (inputSize outputSize : Nat)

instance : Decidable (d.AdmitsOutput outputSize) :=
  inferInstanceAs (Decidable (∀ n ∈ d.checkStructureOutputSize, outputSize = n))

instance : Decidable (d.Admits inputSize outputSize) :=
  inferInstanceAs (Decidable (_ ∧ _))

end MethodDispatch

end UserClient

/-- The driver takes a call with an output of this size. -/
def DriverCall.AdmitsOutput (c : DriverCall) (outputSize : Nat) : Prop :=
  (UserClient.externalMethodChecks c.selector).AdmitsOutput outputSize

instance (c : DriverCall) (outputSize : Nat) : Decidable (c.AdmitsOutput outputSize) :=
  inferInstanceAs
    (Decidable ((UserClient.externalMethodChecks c.selector).AdmitsOutput outputSize))

end DarwinGpib
