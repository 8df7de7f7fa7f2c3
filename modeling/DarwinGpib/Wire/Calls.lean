import DarwinGpib.Model.Wire

/-!
# Calls survive the wire

A handler reads exactly the calls whose numbers fit their fields, from exactly the bytes that
begin with the input structure and payload of such a call. What the library writes for a call is
of this kind, and of the sizes that the user client demands.
-/

namespace DarwinGpib

open UserClient

/-- A number that an `int32_t` holds. -/
abbrev IsInt32 (n : Int) : Prop := (Int32.ofInt n).toInt = n

theorem isInt32_toInt (i : Int32) : IsInt32 i.toInt := by
  rw [IsInt32, Int32.ofInt_toInt]

theorem toNat_ofNat_of_lt {n : Nat} (h : n < 2 ^ 32) : (UInt32.ofNat n).toNat = n :=
  UInt32.toNat_ofNat_of_lt' h

namespace DriverCall

/-- The numbers of a call fit their fields. -/
def Representable : DriverCall → Prop
  | boardOnline _ | openDescriptor _ => True
  | write handle _ data | sendCommand handle data => IsInt32 handle ∧ data.length < 2 ^ 32
  | read handle n | wait handle _ n => IsInt32 handle ∧ n < 2 ^ 32
  | closeDescriptor handle | configure handle _ _ | deviceClear handle
  | interfaceClear handle | remoteEnable handle _ | ask handle _ | serialPoll handle
  | trigger handle | goToLocal handle | localLockout handle | lineStatus handle
  | listenerPresent handle _ _ => IsInt32 handle

end DriverCall

variable {c : DriverCall} {s : Selector} {bs : List UInt8}

/-! ## What a handler reads -/

/-- A structure from which a call is made. -/
theorem map_decode_eq_some_iff {α : Type} {f : Layout α} {call : α → DriverCall} :
    (f.decode bs).map call = some c ↔ ∃ i rest, bs = f.encode i ++ rest ∧ call i = c := by
  rw [Option.map_eq_some_iff]
  constructor
  · rintro ⟨i, hi, rfl⟩
    obtain ⟨rest, hbs⟩ := (f.decode_eq_some_iff bs i).mp hi
    exact ⟨i, rest, hbs, rfl⟩
  · rintro ⟨i, rest, rfl, rfl⟩
    exact ⟨i, f.decode_encode_append i rest, rfl⟩

/-- The handlers that read a handle alone. -/
theorem shape_of_handle {call : Int → DriverCall}
    (h : (Wire.HandleIn.layout.decode bs).map (fun i => call i.handle.toInt) = some c) :
    ∃ handle, IsInt32 handle ∧ call handle = c ∧ ∃ reserved rest,
      bs = Wire.HandleIn.layout.encode ⟨Int32.ofInt handle, reserved⟩ ++ rest := by
  obtain ⟨⟨handle, reserved⟩, rest, rfl, rfl⟩ := map_decode_eq_some_iff.mp h
  exact ⟨handle.toInt, isInt32_toInt handle, rfl, reserved, rest, by rw [Int32.ofInt_toInt]⟩

/-- The handlers that read a structure and as many bytes behind it as it says. -/
theorem payload_request_iff {α : Type} {f : Layout α} {length : α → UInt32}
    {call : α → List UInt8 → DriverCall} :
    ((f.decode bs).bind fun i =>
      if bs.length < f.size + (length i).toNat then none
      else some (call i ((bs.drop f.size).take (length i).toNat))) = some c ↔
      ∃ i data rest, data.length = (length i).toNat ∧ bs = f.encode i ++ data ++ rest ∧
        call i data = c := by
  constructor
  · intro h
    obtain ⟨i, hi, h⟩ := Option.bind_eq_some_iff.mp h
    obtain ⟨rest, rfl⟩ := (f.decode_eq_some_iff bs i).mp hi
    rw [List.length_append, f.length_encode, f.drop_encode_append] at h
    split at h
    · cases h
    · cases h
      refine ⟨i, rest.take (length i).toNat, rest.drop (length i).toNat, ?_, ?_, rfl⟩
      · rw [List.length_take]
        omega
      · rw [List.append_assoc, List.take_append_drop]
  · rintro ⟨i, data, rest, hdata, rfl, rfl⟩
    have hlen : ¬ (f.encode i ++ (data ++ rest)).length < f.size + data.length := by
      rw [List.length_append, List.length_append, f.length_encode]
      omega
    rw [List.append_assoc, f.decode_encode_append, Option.bind_some, ← hdata, if_neg hlen,
      f.drop_encode_append, List.take_left]

/-- What a handler has read was written for its selector, with numbers that fit. -/
theorem shape_of_request (h : request s bs = some c) :
    c.selector = s ∧ c.Representable ∧ ∃ reserved rest, bs = c.inputWith reserved ++ rest := by
  cases s with
  | boardOnline =>
      obtain ⟨i, rest, rfl, rfl⟩ := map_decode_eq_some_iff.mp h
      exact ⟨rfl, trivial, i.reserved, rest, rfl⟩
  | openDescriptor =>
      obtain ⟨i, rest, rfl, rfl⟩ := map_decode_eq_some_iff.mp h
      exact ⟨rfl, trivial, i.reserved, rest, rfl⟩
  | configure =>
      obtain ⟨i, rest, rfl, rfl⟩ := map_decode_eq_some_iff.mp h
      refine ⟨rfl, isInt32_toInt _, i.reserved, rest, ?_⟩
      simp only [DriverCall.inputWith, Int32.ofInt_toInt]
  | write =>
      obtain ⟨i, data, rest, hdata, rfl, rfl⟩ := payload_request_iff.mp h
      refine ⟨rfl, ⟨isInt32_toInt _, hdata ▸ i.length.toNat_lt⟩, i.reserved, rest, ?_⟩
      simp only [DriverCall.inputWith, Int32.ofInt_toInt, hdata, UInt32.ofNat_toNat]
  | read =>
      obtain ⟨i, rest, rfl, rfl⟩ := map_decode_eq_some_iff.mp h
      refine ⟨rfl, ⟨isInt32_toInt _, i.requestCount.toNat_lt⟩, 0, rest, ?_⟩
      simp only [DriverCall.inputWith, Int32.ofInt_toInt, UInt32.ofNat_toNat]
  | remoteEnable =>
      obtain ⟨i, rest, rfl, rfl⟩ := map_decode_eq_some_iff.mp h
      refine ⟨rfl, isInt32_toInt _, 0, rest, ?_⟩
      simp only [DriverCall.inputWith, Int32.ofInt_toInt]
  | wait =>
      obtain ⟨i, rest, rfl, rfl⟩ := map_decode_eq_some_iff.mp h
      refine ⟨rfl, ⟨isInt32_toInt _, i.timeoutUs.toNat_lt⟩, i.reserved, rest, ?_⟩
      simp only [DriverCall.inputWith, Int32.ofInt_toInt, UInt32.ofNat_toNat]
  | ask =>
      obtain ⟨i, rest, rfl, rfl⟩ := map_decode_eq_some_iff.mp h
      refine ⟨rfl, isInt32_toInt _, 0, rest, ?_⟩
      simp only [DriverCall.inputWith, Int32.ofInt_toInt, Int32.toInt32_toUInt32]
  | listenerPresent =>
      obtain ⟨i, rest, rfl, rfl⟩ := map_decode_eq_some_iff.mp h
      refine ⟨rfl, isInt32_toInt _, i.reserved, rest, ?_⟩
      simp only [DriverCall.inputWith, Int32.ofInt_toInt]
  | sendCommand =>
      obtain ⟨i, data, rest, hdata, rfl, rfl⟩ := payload_request_iff.mp h
      refine ⟨rfl, ⟨isInt32_toInt _, hdata ▸ i.length.toNat_lt⟩, 0, rest, ?_⟩
      simp only [DriverCall.inputWith, Int32.ofInt_toInt, hdata, UInt32.ofNat_toNat]
  | closeDescriptor | deviceClear | interfaceClear | serialPoll | trigger | goToLocal
  | localLockout | lineStatus =>
      obtain ⟨handle, hhandle, rfl, hbs⟩ := shape_of_handle h
      exact ⟨rfl, hhandle, hbs⟩

/-- What was written for a selector, with numbers that fit, its handler reads. -/
theorem request_inputWith (h : c.Representable) (reserved : UInt32) (rest : List UInt8) :
    request c.selector (c.inputWith reserved ++ rest) = some c := by
  cases c with
  | write handle sendEoi data =>
      obtain ⟨hhandle, hdata⟩ := h
      simp only [request, DriverCall.selector, DriverCall.inputWith]
      refine payload_request_iff.mpr ⟨_, data, rest, ?_, rfl, ?_⟩
      · rw [toNat_ofNat_of_lt hdata]
      · simp only [hhandle]
  | sendCommand handle data =>
      obtain ⟨hhandle, hdata⟩ := h
      simp only [request, DriverCall.selector, DriverCall.inputWith]
      refine payload_request_iff.mpr ⟨_, data, rest, ?_, rfl, ?_⟩
      · rw [toNat_ofNat_of_lt hdata]
      · simp only [hhandle]
  | read handle n | wait handle mask n =>
      obtain ⟨hhandle, hn⟩ := h
      simp only [request, DriverCall.selector, DriverCall.inputWith,
        Layout.decode_encode_append, Option.map_some, hhandle, toNat_ofNat_of_lt hn]
  | boardOnline online | openDescriptor i =>
      simp only [request, DriverCall.selector, DriverCall.inputWith,
        Layout.decode_encode_append, Option.map_some]
  | closeDescriptor handle | deviceClear handle | interfaceClear handle | serialPoll handle
  | trigger handle | goToLocal handle | localLockout handle | lineStatus handle
  | configure handle key value | remoteEnable handle enable | ask handle option
  | listenerPresent handle pad sad =>
      replace h : IsInt32 handle := h
      simp only [request, DriverCall.selector, DriverCall.inputWith,
        Layout.decode_encode_append, Option.map_some, h, UInt32.toUInt32_toInt32]

/-- A handler reads a call exactly from the bytes that begin with it. -/
theorem request_eq_some_iff :
    request s bs = some c ↔
      c.selector = s ∧ c.Representable ∧ ∃ reserved rest, bs = c.inputWith reserved ++ rest := by
  constructor
  · exact shape_of_request
  · rintro ⟨rfl, h, reserved, rest, rfl⟩
    exact request_inputWith h reserved rest

/-- The handler of its selector reads back what the library wrote. -/
theorem request_input (h : c.Representable) : request c.selector c.input = some c := by
  rw [DriverCall.input, ← List.append_nil (c.inputWith 0)]
  exact request_inputWith h 0 []

/-! ## Sizes -/

/-- The room for its output is all that a call of the library can be refused for. -/
theorem admits_input_iff (c : DriverCall) (outputSize : Nat) :
    (externalMethodChecks c.selector).Admits c.input.length outputSize ↔
      c.AdmitsOutput outputSize := by
  refine and_iff_right ?_
  cases c <;>
    simp [externalMethodChecks, DriverCall.selector, DriverCall.input, DriverCall.inputWith,
      Layout.length_encode]

theorem admitsOutput_outSize (c : DriverCall) : c.AdmitsOutput c.outSize := by
  cases c <;>
    simp [DriverCall.AdmitsOutput, MethodDispatch.AdmitsOutput, externalMethodChecks,
      DriverCall.selector, DriverCall.outSize]

/-- The user client admits the sizes of every call of the library. -/
theorem admits_input (c : DriverCall) :
    (externalMethodChecks c.selector).Admits c.input.length c.outSize :=
  (admits_input_iff c c.outSize).mpr (admitsOutput_outSize c)

/-- The numbers of a call fit their fields, and its structures are carried inline. -/
structure DriverCall.Sendable (c : DriverCall) : Prop where
  representable : c.Representable
  input_le : c.input.length ≤ inlineSize
  outSize_le : c.outSize ≤ inlineSize

/-- Calls without a payload that return a structure of their own. -/
theorem sendable_of_fixed (h : c.Representable) (hinput : c.input.length ≤ 32)
    (hout : c.outSize = 16) : c.Sendable :=
  ⟨h, hinput.trans (by decide), hout.le.trans (by decide)⟩

theorem sendable_write {handle : Int} (hhandle : IsInt32 handle) (sendEoi : UInt32)
    {data : List UInt8} (hdata : data.length ≤ 4080) :
    (DriverCall.write handle sendEoi data).Sendable := by
  refine ⟨⟨hhandle, by omega⟩, ?_, show 16 ≤ 4096 by decide⟩
  rw [DriverCall.input, DriverCall.inputWith, List.length_append, Layout.length_encode]
  exact Nat.add_le_add_left hdata 16

theorem sendable_sendCommand {handle : Int} (hhandle : IsInt32 handle) {data : List UInt8}
    (hdata : data.length ≤ 4080) : (DriverCall.sendCommand handle data).Sendable := by
  refine ⟨⟨hhandle, by omega⟩, ?_, show 16 ≤ 4096 by decide⟩
  rw [DriverCall.input, DriverCall.inputWith, List.length_append, Layout.length_encode]
  exact (Nat.add_le_add_left hdata 8).trans (by decide)

theorem sendable_read {handle : Int} (hhandle : IsInt32 handle) {n : Nat}
    (hn : n ≤ kGPIBMaxInlineRead) : (DriverCall.read handle n).Sendable := by
  replace hn : n ≤ 4080 := hn
  refine ⟨⟨hhandle, by omega⟩, ?_, ?_⟩
  · rw [DriverCall.input, DriverCall.inputWith, Layout.length_encode]
    decide
  · rw [DriverCall.outSize]
    exact Nat.add_le_add_left hn 16

end DarwinGpib
