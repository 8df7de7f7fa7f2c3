import DarwinGpib.Library.Blocks
import DarwinGpib.Library.Records
import DarwinGpib.Model.KusbEndpoints

/-!
# Endpoint discovery

A configuration descriptor is a sequence of records that begin with their length. The interface
descriptors divide it into groups; the walk of `resolveEndpoints` collects the endpoint addresses
of the groups that belong to the wanted interface.
-/

namespace DarwinGpib

open Blocks Records

namespace KUSB488BTransport

/-! ## Interfaces and their endpoints -/

/-- An interface descriptor begins a group of descriptors. -/
def interfaceHeader (r : List UInt8) : Option (List UInt8) :=
  if r[1]? = some typeInterface then some r else none

/-- The `bEndpointAddress` of an endpoint descriptor that is long enough to have one. -/
def endpointAddress (r : List UInt8) : List UInt8 :=
  if r[1]? = some typeEndpoint then r[2]?.toList else []

/-- The descriptor is that of the wanted interface and alternate setting. -/
def Wanted (want : InterfaceDescriptor) (r : List UInt8) : Prop :=
  r[2]? = some want.bInterfaceNumber ∧ r[3]? = some want.bAlternateSetting

instance (want : InterfaceDescriptor) (r : List UInt8) : Decidable (Wanted want r) :=
  inferInstanceAs (Decidable (_ ∧ _))

/-- The endpoint addresses in front of the first interface descriptor, and those behind each. -/
abbrev interfaces (rs : List (List UInt8)) : List UInt8 × List (List UInt8 × List UInt8) :=
  grouped interfaceHeader endpointAddress rs

/-- The endpoint addresses of the wanted interface, in order. -/
def endpointsOf (want : InterfaceDescriptor) (rs : List (List UInt8)) : List UInt8 :=
  (interfaces rs).2.flatMap fun g => if Wanted want g.1 then g.2 else []

/-- A sequence of descriptors. -/
abbrev LongestDescriptors (rs : List (List UInt8)) (raw : List UInt8) : Prop :=
  Longest UInt8.toNat 2 rs raw

/-! ## The walk -/

section Walk

variable {want : InterfaceDescriptor} {raw r : List UInt8} {rs : List (List UInt8)} {off : Nat}
  {addrs : List UInt8} {inOurInterface : Bool}

/-- What the walk still adds, inside or outside the wanted interface. -/
def collected (want : InterfaceDescriptor) (inOurInterface : Bool) (rs : List (List UInt8)) :
    List UInt8 :=
  (if inOurInterface then (interfaces rs).1 else []) ++ endpointsOf want rs

theorem collected_nil : collected want inOurInterface [] = [] := by
  cases inOurInterface <;> rfl

theorem collected_interface (h : r[1]? = some typeInterface) :
    collected want inOurInterface (r :: rs) = collected want (Wanted want r) rs := by
  have hheader : interfaceHeader r = some r := if_pos h
  unfold collected endpointsOf interfaces
  rw [grouped_cons_of_eq_some hheader, List.flatMap_cons]
  cases inOurInterface <;> simp

theorem collected_other (h : r[1]? ≠ some typeInterface) :
    collected want inOurInterface (r :: rs) =
      (if inOurInterface then endpointAddress r else []) ++ collected want inOurInterface rs := by
  have hheader : interfaceHeader r = none := if_neg h
  unfold collected endpointsOf interfaces
  rw [grouped_cons_of_eq_none hheader]
  cases inOurInterface <;> simp

/-- The bytes of a record that the walk has come to. -/
theorem getElem?_of_head (h : r <+: raw.drop off) {k : Nat} (hk : k < r.length) :
    raw[off + k]? = r[k]? := by
  obtain ⟨t, ht⟩ := h
  rw [← List.getElem?_drop, ← ht, List.getElem?_append_left hk]

theorem isOurInterface_eq (h : r <+: raw.drop off) {bLength : UInt8}
    (hlength : r.length = bLength.toNat) :
    isOurInterface raw want off bLength = some (decide (Wanted want r)) := by
  unfold isOurInterface
  by_cases hshort : bLength < 4
  · have hnone : r[3]? = none := by
      have hlt := UInt8.lt_iff_toNat_lt.mp hshort
      exact List.getElem?_eq_none (hlength ▸ Nat.le_of_lt_succ hlt)
    have hnot : ¬ Wanted want r := fun hw => by simp [Wanted, hnone] at hw
    simp [hshort, hnot]
  · have hlong : 4 ≤ r.length := hlength ▸ UInt8.le_iff_toNat_le.mp (UInt8.not_lt.mp hshort)
    have hnumber := getElem?_of_head h (k := 2) (by omega)
    have halternate := getElem?_of_head h (k := 3) (by omega)
    have hsecond : r[2]? = some r[2] := List.getElem?_eq_getElem _
    have hthird : r[3]? = some r[3] := List.getElem?_eq_getElem _
    rw [if_neg hshort, hnumber, halternate]
    by_cases hwanted : r[2] = want.bInterfaceNumber <;> simp [Wanted, hsecond, hthird, hwanted]

theorem addEndpoint_eq (h : r <+: raw.drop off) {bLength : UInt8}
    (hlength : r.length = bLength.toNat) (htype : r[1]? = some typeEndpoint)
    (haddrs : addrs.length ≤ maxAddrs) :
    addEndpoint raw off bLength addrs = some ((addrs ++ endpointAddress r).take maxAddrs) := by
  have haddress : endpointAddress r = r[2]?.toList := if_pos htype
  unfold addEndpoint
  rw [haddress]
  by_cases hshort : bLength < 3
  · have hnone : r[2]? = none := by
      have hlt := UInt8.lt_iff_toNat_lt.mp hshort
      exact List.getElem?_eq_none (hlength ▸ Nat.le_of_lt_succ hlt)
    rw [if_pos (.inl hshort), hnone, Option.toList_none, List.append_nil,
      List.take_of_length_le haddrs]
    rfl
  have hlong : 3 ≤ r.length := hlength ▸ UInt8.le_iff_toNat_le.mp (UInt8.not_lt.mp hshort)
  by_cases hfull : maxAddrs ≤ addrs.length
  · rw [if_pos (.inr hfull), List.take_append_of_le_length hfull, List.take_of_length_le haddrs]
    rfl
  · have hread := getElem?_of_head h (k := 2) (by omega)
    rw [if_neg (not_or.mpr ⟨hshort, hfull⟩), hread, List.getElem?_eq_getElem (by omega)]
    have hfits : (addrs ++ [r[2]]).length ≤ maxAddrs := by
      rw [List.length_append, List.length_singleton]
      omega
    rw [Option.toList_some, List.take_of_length_le hfits]
    rfl

theorem take_take_append {α : Type} (n : Nat) (as bs : List α) :
    (as.take n ++ bs).take n = (as ++ bs).take n := by
  rw [List.take_append, List.take_append, List.take_take, Nat.min_self, List.length_take]
  congr 2
  omega

/-- The walk from a descriptor on: it stays within the bytes, and collects up to eight addresses. -/
theorem endpointLoop_eq (hrs : LongestDescriptors rs (raw.drop off)) (hoff : off ≤ raw.length)
    (haddrs : addrs.length ≤ maxAddrs) :
    endpointLoop raw raw.length want off addrs inOurInterface =
      some ((addrs ++ collected want inOurInterface rs).take maxAddrs) := by
  induction rs generalizing off addrs inOurInterface with
  | nil =>
      rw [endpointLoop, collected_nil, List.append_nil, List.take_of_length_le haddrs]
      split
      · rename_i hfits
        have hstop := (longest_nil_iff (by decide)).mp hrs raw[off] (by
          rw [List.head?_drop]
          exact List.getElem?_eq_getElem _)
        rw [List.length_drop] at hstop
        rw [List.getElem?_eq_getElem (by omega), List.getElem?_eq_getElem (by omega)]
        have hends : raw[off].toNat < 2 ∨ raw.length < off + raw[off].toNat := by omega
        simp only [Option.bind_eq_bind, Option.bind_some, dif_pos hends]
        rfl
      · rfl
  | cons r rs ih =>
      obtain ⟨⟨hheader, a, ha, hlength⟩, hhead, hrest⟩ := longest_cons_iff.mp hrs
      rw [List.drop_drop] at hrest
      have hle : off + r.length ≤ raw.length := by
        have hle := hhead.length_le
        rw [List.length_drop] at hle
        omega
      have hfirst : raw[off]? = some a := by
        rw [← Nat.add_zero off, getElem?_of_head hhead (by omega), ← List.head?_eq_getElem?]
        exact ha
      have htype : r[1]? = some r[1] := List.getElem?_eq_getElem _
      have hsecond : raw[off + 1]? = some r[1] := (getElem?_of_head hhead (by omega)).trans htype
      have hgo : ¬ (a.toNat < 2 ∨ raw.length < off + a.toNat) := by omega
      rw [endpointLoop, if_pos (by omega), hfirst, hsecond]
      simp only [Option.bind_eq_bind, Option.bind_some, dif_neg hgo]
      rw [← hlength]
      by_cases hinterface : r[1] = typeInterface
      · rw [if_pos hinterface, isOurInterface_eq hhead hlength, Option.bind_some,
          ih hrest hle haddrs, collected_interface (hinterface ▸ htype)]
      · have hother : r[1]? ≠ some typeInterface := by
          rw [htype]
          simpa using hinterface
        rw [if_neg hinterface, collected_other hother]
        by_cases hendpoint : r[1] = typeEndpoint ∧ inOurInterface = true
        · rw [if_pos hendpoint, addEndpoint_eq hhead hlength (hendpoint.1 ▸ htype) haddrs,
            Option.bind_some, ih hrest hle (List.length_take_le _ _), if_pos hendpoint.2,
            take_take_append, List.append_assoc]
        · have hnone : (if inOurInterface then endpointAddress r else []) = [] := by
            cases hin : inOurInterface with
            | false => rfl
            | true =>
                have hneither : r[1]? ≠ some typeEndpoint := by
                  rw [htype]
                  simpa [hin] using hendpoint
                exact if_neg hneither
          rw [if_neg hendpoint, ih hrest hle haddrs, hnone, List.nil_append]

end Walk

/-! ## The result -/

section Result

variable {raw E : List UInt8} {want : InterfaceDescriptor} {members : Endpoints}

theorem length_take_maxAddrs_lt : (E.take maxAddrs).length < pipeCountMin ↔
    E.length < pipeCountMin := by
  rw [List.length_take]
  unfold maxAddrs pipeCountMin
  omega

theorem getElem?_take_maxAddrs {k : Nat} (hk : k < maxAddrs) :
    (E.take maxAddrs)[k]? = E[k]? :=
  List.getElem?_take_of_lt hk

/-- The last test of `resolveEndpoints` asks for two OUT endpoints and an IN endpoint. -/
theorem ok_iff_directions {dataOut cmdOut dataIn : UInt8} :
    (if dataOut &&& 0x80 ≠ 0 ∨ cmdOut &&& 0x80 ≠ 0 ∨ dataIn &&& 0x80 = 0
      then GPIBTransportError.errNotReady else .ok) = .ok ↔
      dataOut &&& 0x80 = 0 ∧ cmdOut &&& 0x80 = 0 ∧ dataIn &&& 0x80 ≠ 0 := by
  split
  · rename_i hbad
    simp only [reduceCtorEq, false_iff]
    tauto
  · rename_i hgood
    simp only [true_iff]
    tauto

theorem resolveEndpoints_of_few (htotal : totalLength raw = some raw.length)
    (hloop : endpointLoop raw raw.length want 0 [] false = some (E.take maxAddrs))
    (hfew : E.length < pipeCountMin) :
    resolveEndpoints (some raw) (some want) members = some (.errNotReady, members) := by
  have htaken : (E.take maxAddrs).length < pipeCountMin := length_take_maxAddrs_lt.mpr hfew
  unfold resolveEndpoints
  simp only [Option.bind_eq_bind, htotal, hloop, Option.bind_some, if_pos htaken]
  rfl

theorem resolveEndpoints_of_many (htotal : totalLength raw = some raw.length)
    (hloop : endpointLoop raw raw.length want 0 [] false = some (E.take maxAddrs))
    (hmany : pipeCountMin ≤ E.length) {dataOut cmdOut dataIn : UInt8}
    (hdataOut : E[2]? = some dataOut) (hcmdOut : E[3]? = some cmdOut)
    (hdataIn : E[4]? = some dataIn) :
    resolveEndpoints (some raw) (some want) members =
      some (if dataOut &&& 0x80 ≠ 0 ∨ cmdOut &&& 0x80 ≠ 0 ∨ dataIn &&& 0x80 = 0
        then .errNotReady else .ok, ⟨dataOut, cmdOut, dataIn⟩) := by
  have hnotFew : ¬ (E.take maxAddrs).length < pipeCountMin :=
    length_take_maxAddrs_lt.not.mpr (Nat.not_lt.mpr hmany)
  have hthird : (E.take maxAddrs)[pipeDataOut]? = some dataOut :=
    (getElem?_take_maxAddrs (by decide)).trans hdataOut
  have hfourth : (E.take maxAddrs)[pipeCmdOut]? = some cmdOut :=
    (getElem?_take_maxAddrs (by decide)).trans hcmdOut
  have hfifth : (E.take maxAddrs)[pipeDataIn]? = some dataIn :=
    (getElem?_take_maxAddrs (by decide)).trans hdataIn
  unfold resolveEndpoints
  simp only [Option.bind_eq_bind, htotal, hloop, Option.bind_some, if_neg hnotFew, hthird,
    hfourth, hfifth]
  split <;> rfl

end Result

/-- On a configuration descriptor of its own length, the walk ends without leaving its bytes, and
succeeds if and only if the wanted interface has five endpoints, the third and fourth of which are
OUT and the fifth IN. These are then the members. -/
theorem endpoints_discovered_iff {raw : List UInt8} (want : InterfaceDescriptor)
    (members : Endpoints) (htotal : totalLength raw = some raw.length) :
    ∃ rs rc members', LongestDescriptors rs raw ∧
      resolveEndpoints (some raw) (some want) members = some (rc, members') ∧
      (rc = .ok ↔ ∃ dataOut cmdOut dataIn, 5 ≤ (endpointsOf want rs).length ∧
        (endpointsOf want rs)[2]? = some dataOut ∧ dataOut &&& 0x80 = 0 ∧
        (endpointsOf want rs)[3]? = some cmdOut ∧ cmdOut &&& 0x80 = 0 ∧
        (endpointsOf want rs)[4]? = some dataIn ∧ dataIn &&& 0x80 ≠ 0) ∧
      (rc = .ok → (endpointsOf want rs)[2]? = some members'.dataOutEP ∧
        (endpointsOf want rs)[3]? = some members'.cmdOutEP ∧
        (endpointsOf want rs)[4]? = some members'.dataInEP) := by
  obtain ⟨rs, hrs⟩ : ∃ rs, LongestDescriptors rs raw := exists_longest (by decide) raw
  have hfront : LongestDescriptors rs (raw.drop 0) := hrs
  have hloop : endpointLoop raw raw.length want 0 [] false =
      some ((endpointsOf want rs).take maxAddrs) :=
    endpointLoop_eq hfront (Nat.zero_le _) (Nat.zero_le _)
  refine ⟨rs, ?_⟩
  by_cases hfew : (endpointsOf want rs).length < pipeCountMin
  · refine ⟨.errNotReady, members, hrs, resolveEndpoints_of_few htotal hloop hfew, ?_, nofun⟩
    constructor
    · exact nofun
    · rintro ⟨_, _, _, hmany, -⟩
      exact absurd hmany (Nat.not_le.mpr hfew)
  · have hmany : 5 ≤ (endpointsOf want rs).length := Nat.not_lt.mp hfew
    have hdataOut : (endpointsOf want rs)[2]? = some _ := List.getElem?_eq_getElem (by omega)
    have hcmdOut : (endpointsOf want rs)[3]? = some _ := List.getElem?_eq_getElem (by omega)
    have hdataIn : (endpointsOf want rs)[4]? = some _ := List.getElem?_eq_getElem (by omega)
    refine ⟨_, _, hrs,
      resolveEndpoints_of_many htotal hloop hmany hdataOut hcmdOut hdataIn, ?_, ?_⟩
    · rw [hdataOut, hcmdOut, hdataIn, ok_iff_directions]
      simp [hmany]
    · intro _
      exact ⟨hdataOut, hcmdOut, hdataIn⟩

/-- A configuration with one interface and its five bulk endpoints. -/
def fiveEndpoints : List (List UInt8) :=
  [[9, 2, 53, 0, 1, 1, 0, 0x80, 50], [9, 4, 0, 0, 5, 0xFF, 0, 0, 0],
    [7, 5, 0x01, 2, 0, 2, 0], [7, 5, 0x81, 2, 0, 2, 0], [7, 5, 0x02, 2, 0, 2, 0],
    [7, 5, 0x04, 2, 0, 2, 0], [7, 5, 0x86, 2, 0, 2, 0]]

theorem longest_fiveEndpoints : LongestDescriptors fiveEndpoints fiveEndpoints.flatten := by
  refine ⟨?_, List.prefix_rfl, ?_⟩
  · simp [fiveEndpoints, IsRecord]
  · intro r hr hfits
    have hle := hfits.length_le
    have hlong := hr.1
    simp only [List.flatten_append, List.flatten_singleton, List.length_append] at hle
    omega

theorem fiveEndpoints_discovered :
    resolveEndpoints (some fiveEndpoints.flatten) (some ⟨0, 0⟩) ⟨0, 0, 0⟩ =
      some (.ok, ⟨0x02, 0x04, 0x86⟩) := by
  obtain ⟨rs, rc, members', hrs, hresolved, hok, hmembers⟩ :=
    @endpoints_discovered_iff fiveEndpoints.flatten ⟨0, 0⟩ ⟨0, 0, 0⟩ (by decide)
  obtain rfl := hrs.unique longest_fiveEndpoints
  obtain rfl := hok.mpr ⟨0x02, 0x04, 0x86, by decide, by decide, by decide, by decide, by decide,
    by decide, by decide⟩
  obtain ⟨hdataOut, hcmdOut, hdataIn⟩ := hmembers rfl
  obtain ⟨dataOutEP, cmdOutEP, dataInEP⟩ := members'
  cases hdataOut
  cases hcmdOut
  cases hdataIn
  exact hresolved

end KUSB488BTransport

end DarwinGpib
