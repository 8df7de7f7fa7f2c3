import DarwinGpib.Board.ServiceParts

/-!
# What the services give back

Every service gives back what it has acquired, in whatever way its start fails, and nothing twice;
but only one of the three closes an interface that it has opened in vain.
-/

namespace DarwinGpib

open Interaction

namespace Service

variable {U B W E W' : Finset Resource} {r : Resource}

/-! ## The classes -/

/-- The members of a service that has its transport. -/
def equipped : Finset Resource := {.interface, .transport}

theorem based_equipped : Based equipped := ⟨by decide, by decide, by decide⟩

/-- What every class has to do with what it acquires, where its transport adds to the members. -/
structure Sound (k : ServiceClass) (U W : Finset Resource) : Prop where
  descriptors : Descriptors U
  grown : equipped ⊆ W
  others : .board ∉ W ∧ .interfaceSession ∉ W
  inspect : Step (Owns U {.interface} {.interface} ∅) k.inspect
    fun _ => Owns U {.interface} {.interface} ∅
  attach : Step (Owns U equipped equipped {.interfaceSession}) k.attach
    fun _ => Owns U equipped W {.interfaceSession}
  detach (B W : Finset Resource) (hB : Based B) :
    Step (Owns U B W {.interfaceSession}) k.detach fun _ => Owns U B W {.interfaceSession}
  free (E : Finset Resource) (hE : E ⊆ {.interfaceSession}) :
    Step (Owns U equipped W E) k.free fun _ => Owns U equipped equipped E
  inspect_opens : StateEnsures (· = .openInterface) k.inspect fun res => res ≠ some .success
  free_opens : StateEnsures (· = .openInterface) k.free fun _ => True

theorem descriptors_device : Descriptors {.deviceDescriptor} := by simp [Descriptors]

theorem descriptors_both : Descriptors {.deviceDescriptor, .configurationDescriptor} := by
  simp [Descriptors]

theorem step_detach (hout : Descriptors U) (hB : Based B) :
    Step (Owns U B W {.interfaceSession}) closePipes
      fun _ => Owns U B W {.interfaceSession} := by
  refine (step_closePipes hout (Finset.Subset.refl _) hB).conseq (fun _ _ h => h) fun _ v d h => ?_
  refine h.mono (Finset.Subset.refl _) ?_
  exact (Finset.erase_subset _ _).trans ((Finset.erase_subset _ _).trans (Finset.erase_subset _ _))

theorem step_quiesce (hout : Descriptors U) (hB : Based B) :
    Step (Owns U B W {.interfaceSession}) (ask .quiesce)
      fun _ => Owns U B W {.interfaceSession} := by
  refine step_pass (hout.covers ?_ (by simp [needs])) fun _ => ⟨rfl, rfl⟩
  simp [needs, hB.transport]

/-- What was copied is given back, if it was. -/
theorem step_letGo {α : Type} {found : Bool} {f : Unit → Service α}
    {Q : α → Finset Resource → Option (Resource → Nat) → Prop} (hneeds : needs (.release r) = [])
    (hE : r ∉ E) (hW : r ∉ W) (hout : r ∉ U) (hr : r ≠ .deviceSession)
    (hf : ∀ x, Step (Owns U B W E) (f x) Q) :
    Step (Owns U B W (if found then insert r E else E))
      (if found then ask (.release r) >>= f else f ()) Q := by
  refine triple_ite (fun hfound => ?_) fun hfound => ?_
  · have hgive := step_give (U := U) (B := B) (W := W) (E := insert r E) (c := .release r)
      (by simp [hneeds]) (fun _ => rfl) (Finset.mem_insert_self r E) hW hout hr
    rw [Finset.erase_insert hE] at hgive
    rw [if_pos hfound]
    exact triple_bind hgive hf
  · rw [if_neg hfound]
    exact hf ()

/-- What `Start` looks at is given back, but for the device descriptor. -/
theorem step_inspectDevice (hout : Descriptors U) (hdev : .deviceDescriptor ∈ U)
    (hW : W ⊆ {.interface}) (hB : .interface ∈ B) (hE : E ⊆ {.configurationDescriptor}) :
    Step (Owns U B W E) inspectDevice fun _ => Owns U B W E := by
  have hW' : ∀ {q}, q ≠ .interface → q ∉ W := fun hq h => hq (Finset.mem_singleton.mp (hW h))
  have hE' : ∀ {q}, q ≠ .configurationDescriptor → q ∉ E :=
    fun hq h => hq (Finset.mem_singleton.mp (hE h))
  have hcopy := step_take (U := U) (B := B) (W := W) (E := E) (c := .copyDevice .usbDevice)
    (G := fun reply : IOReturn × Bool => reply = (.success, true))
    (hout.covers (by simp [needs, hB]) (by simp [needs])) (fun _ => rfl) (fun _ => rfl)
    (hW' (by decide)) (hE' (by decide)) (by decide)
  refine triple_bind hcopy fun reply => ?_
  obtain ⟨ret, found⟩ := reply
  refine triple_ite (fun hmissing => ?_) fun hfound => ?_
  · rw [if_neg (missing_iff.mp hmissing)]
    exact triple_pure fun _ _ h => h
  · rw [if_pos (not_not.mp (mt missing_iff.mpr hfound))]
    have hrelease : Step (Owns U B W (insert .usbDevice E)) (ask (.release .usbDevice))
        fun _ => Owns U B W E := by
      have hgive := step_give (U := U) (B := B) (W := W) (E := insert .usbDevice E)
        (c := .release .usbDevice) (by simp [needs]) (fun _ => rfl) (Finset.mem_insert_self _ E)
        (hW' (by decide)) (hout.not_mem (by decide)) (by decide)
      have hfresh : .usbDevice ∉ E := hE' (by decide)
      rwa [Finset.erase_insert hfresh] at hgive
    have hneeds : ∀ {F}, insert .usbDevice E ⊆ F → ∀ q ∈ [Resource.usbDevice],
        q ∈ B ∪ F ∧ q ∉ U := fun hF => hout.covers (by simp [hF (Finset.mem_insert_self _ E)])
      (by simp)
    refine triple_bind (step_take_out (r := .deviceDescriptor) (c := .copyDeviceDescriptor)
      (G := fun dev : Option UInt16 => dev.isSome) (hneeds (Finset.Subset.refl _))
      (fun _ => rfl) (fun _ => rfl) hdev) fun dev => ?_
    have hlast : Step (Owns U B W (insert .usbDevice E))
        (do ask (.release .usbDevice); return dev.getD 0) fun _ => Owns U B W E :=
      triple_bind hrelease fun _ => triple_pure fun _ _ h => h
    refine triple_ite (fun _ => ?_) fun _ => hlast
    have hstring := step_take (U := U) (B := B) (W := W) (E := insert .usbDevice E)
      (c := .copyStringDescriptor) (G := fun found : Bool => found)
      (hneeds (Finset.Subset.refl _)) (fun _ => rfl) (fun _ => rfl) (hW' (by decide))
      (by simp [hE']) (by decide)
    refine triple_bind hstring fun prodStr => ?_
    have hproduct := step_take (U := U) (B := B) (W := W)
      (E := if prodStr then insert .stringDescriptor (insert .usbDevice E) else insert .usbDevice E)
      (c := .copyDeviceString) (G := fun found : Bool => found)
      (by simp [needs]) (fun _ => rfl) (fun _ => rfl) (hW' (by decide))
      (by split <;> simp [hE']) (by decide)
    refine triple_bind hproduct fun product => ?_
    -- The string descriptor goes first, although it came first.
    have hcomm : (if product then
          insert .product (if prodStr then insert .stringDescriptor (insert .usbDevice E)
            else insert .usbDevice E)
        else if prodStr then insert .stringDescriptor (insert .usbDevice E)
          else insert .usbDevice E) =
        if prodStr then
          insert .stringDescriptor (if product then insert .product (insert .usbDevice E)
            else insert .usbDevice E)
        else if product then insert .product (insert .usbDevice E) else insert .usbDevice E := by
      cases prodStr <;> cases product <;> simp [Finset.insert_comm]
    rw [hcomm]
    refine step_letGo rfl (by split <;> simp [hE']) (hW' (by decide)) (hout.not_mem (by decide))
      (by decide) fun _ => ?_
    exact step_letGo rfl (by simp [hE']) (hW' (by decide)) (hout.not_mem (by decide)) (by decide)
      fun _ => hlast

theorem step_overrun {α : Type} {P : Finset Resource → Option (Resource → Nat) → Prop}
    {Q : α → Finset Resource → Option (Resource → Nat) → Prop} : Step P overrun Q := by
  intro v d u a v' d' _ hrun
  cases hrun with
  | ask hrun => contradiction

/-- Requests other than the opening of the interface. -/
theorem asks_other {c : ServiceCall} (h : c ≠ .openInterface) :
    StateEnsures (· = .openInterface) (ask c) fun _ => True :=
  stateEnsures_call h

theorem safeRelease_opens (r : Resource) :
    StateEnsures (· = .openInterface) (safeRelease r) fun _ => True :=
  stateEnsures_bind stateEnsures_get fun _ _ =>
    stateEnsures_ite (fun _ => stateEnsures_bind (asks_other (by simp)) fun _ _ =>
      stateEnsures_modify _) fun _ => stateEnsures_pure trivial

theorem closePipes_opens : StateEnsures (· = .openInterface) closePipes fun _ => True :=
  stateEnsures_bind (safeRelease_opens _) fun _ _ =>
    stateEnsures_bind (safeRelease_opens _) fun _ _ => safeRelease_opens _

theorem freeDevice_opens : StateEnsures (· = .openInterface) freeDevice fun _ => True :=
  stateEnsures_bind stateEnsures_get fun _ _ =>
    stateEnsures_ite (fun _ => stateEnsures_bind (asks_other (by decide)) fun _ _ =>
      safeRelease_opens _) fun _ => stateEnsures_pure trivial

theorem inspectDevice_opens : StateEnsures (· = .openInterface) inspectDevice fun _ => True := by
  refine stateEnsures_bind (asks_other (by decide)) fun reply _ => ?_
  have hlast : ∀ productId : UInt16, StateEnsures (· = .openInterface)
      (do ask (.release .usbDevice); return productId) fun _ => True :=
    fun _ => stateEnsures_bind (asks_other (by decide)) fun _ _ => stateEnsures_pure trivial
  refine stateEnsures_ite (fun _ => stateEnsures_pure trivial) fun _ => ?_
  refine stateEnsures_bind (asks_other (by decide)) fun dev _ => ?_
  refine stateEnsures_ite (fun _ => ?_) fun _ => hlast _
  refine stateEnsures_bind (asks_other (by decide)) fun prodStr _ => ?_
  refine stateEnsures_bind (asks_other (by decide)) fun product _ => ?_
  have hproduct : ∀ _ : Unit, StateEnsures (· = .openInterface)
      (do if product then ask (.release .product)
          ask (.release .usbDevice); return dev.getD 0) fun _ => True :=
    fun _ => stateEnsures_ite (fun _ => stateEnsures_bind (asks_other (by decide))
      fun _ _ => hlast _) fun _ => hlast _
  exact stateEnsures_ite (fun _ => stateEnsures_bind (asks_other (by decide))
    fun _ _ => hproduct ()) fun _ => hproduct ()

/-- The resolution of the endpoints keeps the configuration descriptor. -/
theorem step_resolve (hout : Descriptors U) (hcfg : .configurationDescriptor ∈ U)
    (hB : .interface ∈ B) :
    Step (Owns U B W E) KUSB488BTransport.resolve fun _ => Owns U B W E := by
  have hneeds : ∀ q ∈ [Resource.interface], q ∈ B ∪ E ∧ q ∉ U :=
    hout.covers (by simp [hB]) (by simp)
  refine triple_bind (step_take_out (r := .configurationDescriptor)
    (G := fun cfg : Option (List UInt8) => cfg.isSome) hneeds (fun _ => rfl) (fun _ => rfl)
    hcfg) fun cfg => ?_
  refine triple_ite (fun _ => ?_) fun _ => ?_
  · refine triple_bind (step_pass (c := .getInterfaceDescriptor) hneeds fun _ => ⟨rfl, rfl⟩)
      fun ifd => ?_
    beta_reduce
    split
    · exact step_overrun
    · exact triple_pure fun _ _ h => h
  · refine triple_bind (Q := fun _ => Owns U B W E) (triple_pure fun _ _ h => h) fun ifd => ?_
    beta_reduce
    split
    · exact step_overrun
    · exact triple_pure fun _ _ h => h

/-- What is copied of a configuration is given back on all ways. -/
theorem step_inspect_ni_usb : Step (Owns {.deviceDescriptor} {.interface} {.interface} ∅)
    ni_usb.inspect fun _ => Owns {.deviceDescriptor} {.interface} {.interface} ∅ := by
  have hout := descriptors_device
  have hcopy := step_take (U := {.deviceDescriptor}) (B := {.interface}) (W := {.interface})
    (E := ∅) (c := .copyConfigurationDescriptor)
    (G := fun cfg : Option (List UInt8) => cfg.isSome)
    (hout.covers (by simp [needs]) (by simp [needs])) (fun _ => rfl) (fun _ => rfl)
    (by decide) (by decide) (by decide)
  have hfree := step_give (U := {.deviceDescriptor}) (B := {.interface}) (W := {.interface})
    (E := {.configurationDescriptor}) (c := .release .configurationDescriptor)
    (by simp [needs]) (fun _ => rfl) (by decide) (by decide) (by decide) (by decide)
  refine triple_bind hcopy fun cfg => triple_ite (fun hcfg => ?_) fun hcfg => ?_
  · rw [if_pos hcfg]
    refine triple_bind (step_pass (hout.covers (by simp [needs]) (by simp [needs]))
      fun _ => ⟨rfl, rfl⟩) fun ifd => ?_
    refine triple_ite (fun _ => triple_ite (fun _ => ?_) fun hnone => absurd hcfg hnone)
      fun _ => ?_
    · exact triple_bind hfree fun _ => triple_pure fun _ _ h => h
    · refine triple_bind (step_inspectDevice hout (by decide) (by decide) (by decide) (by decide))
        fun _ => ?_
      exact triple_bind hfree fun _ => triple_pure fun _ _ h => h
  · rw [if_neg hcfg]
    refine triple_bind (triple_pure (Q := fun _ => _) fun _ _ h => h) fun ifd => ?_
    refine triple_ite (fun _ => ?_) fun hsome => ?_
    · exact triple_ite (fun h => absurd h hcfg) fun _ => triple_pure fun _ _ h => h
    · simp at hcfg
      simp [hcfg] at hsome

theorem inspect_ni_usb_opens :
    StateEnsures (· = .openInterface) ni_usb.inspect fun res => res ≠ some .success := by
  refine stateEnsures_bind (asks_other (by decide)) fun cfg _ => ?_
  have hrelease : ∀ res : Option StartResult, res ≠ some .success →
      StateEnsures (· = .openInterface)
        (do ask (.release .configurationDescriptor); return res) fun res => res ≠ some .success :=
    fun _ hres => stateEnsures_bind (asks_other (by decide)) fun _ _ => stateEnsures_pure hres
  have hrest : ∀ ifd : Option KUSB488BTransport.InterfaceDescriptor,
      StateEnsures (· = .openInterface) (do
        if cfg.isNone ∨ ifd.isNone then
          if cfg.isSome then ask (.release .configurationDescriptor)
          return some StartResult.error
        let _ ← inspectDevice
        ask (.release .configurationDescriptor)
        return none) fun res => res ≠ some .success :=
    fun _ => stateEnsures_ite (fun _ => stateEnsures_ite (fun _ => hrelease _ (by decide))
      fun _ => stateEnsures_pure (by decide)) fun _ =>
        stateEnsures_bind inspectDevice_opens fun _ _ => hrelease _ (by decide)
  refine stateEnsures_ite (fun _ => ?_) fun _ => ?_
  · exact stateEnsures_bind (asks_other (c := .getInterfaceDescriptor) (by decide))
      fun ifd _ => hrest ifd
  · exact stateEnsures_bind (P := fun _ => True) (stateEnsures_pure trivial)
      fun ifd _ => hrest ifd

theorem sound_ni_usb : Sound ni_usb {.deviceDescriptor} (equipped ∪ parts.erase (.buffer 2)) where
  descriptors := descriptors_device
  grown := by decide
  others := by decide
  inspect := step_inspect_ni_usb
  attach := step_bringUp descriptors_device based_equipped (by decide) (by decide) (by decide)
    (by decide)
  detach B W hB := step_detach descriptors_device hB
  free E hE := by
    have hout := descriptors_device
    refine triple_bind (step_closePipes hout hE based_equipped) fun _ =>
      triple_bind (step_releasePart hout hE based_equipped (by decide)) fun _ => ?_
    refine (step_releasePart hout hE based_equipped (by decide)).conseq (fun _ _ h => h)
      fun _ v d h => h.mono (Finset.Subset.refl _) (by decide)
  inspect_opens := inspect_ni_usb_opens
  free_opens := stateEnsures_bind closePipes_opens fun _ _ =>
    stateEnsures_bind (safeRelease_opens _) fun _ _ => safeRelease_opens _

/-- The members of a transport that opens the device for itself. -/
theorem step_attachDevice {x : Service GPIBTransportError}
    {f : Service GPIBTransportError} (hout : Descriptors U) (hx : x = (do
      match ← openDevice with
      | some rc => return rc
      | none => f))
    (hW : insert .device equipped ⊆ W)
    (hf : Step (Owns U (insert .device equipped) (insert .device equipped) {.interfaceSession}) f
      fun _ => Owns U (insert .device equipped) W {.interfaceSession}) :
    Step (Owns U equipped equipped {.interfaceSession}) x
      fun _ => Owns U equipped W {.interfaceSession} := by
  subst hx
  refine triple_bind (step_openDevice hout based_equipped (by decide) (by decide)) fun res => ?_
  cases res with
  | some rc =>
      exact triple_pure fun v d h =>
        h.mono (Finset.Subset.refl _) ((Finset.subset_insert _ _).trans hW)
  | none =>
      exact hf.conseq (fun _ _ h => h) fun _ v d h =>
        h.mono (Finset.subset_insert _ _) (Finset.Subset.refl _)

theorem sound_agilent_82357 : Sound agilent_82357 {.deviceDescriptor}
    (insert .device equipped ∪ parts.erase (.buffer 2)) where
  descriptors := descriptors_device
  grown := by decide
  others := by decide
  inspect := triple_bind (step_inspectDevice descriptors_device (by decide) (by decide)
    (by decide) (by decide)) fun _ => triple_pure fun _ _ h => h
  attach := by
    have hout := descriptors_device
    refine step_attachDevice hout rfl (by decide) ?_
    exact step_bringUp hout ⟨by decide, by decide, by decide⟩ (by decide) (by decide) (by decide)
      (by decide)
  detach B W hB := by
    have hout := descriptors_device
    exact triple_bind (step_quiesce hout hB) fun _ => step_detach hout hB
  free E hE := by
    have hout := descriptors_device
    refine triple_bind (step_closePipes hout hE based_equipped) fun _ =>
      triple_bind (step_releasePart hout hE based_equipped (by decide)) fun _ =>
      triple_bind (step_releasePart hout hE based_equipped (by decide)) fun _ => ?_
    refine (step_freeDevice hout (by decide) (by decide) hE).conseq (fun _ _ h => h)
      fun _ v d h => h.mono (by decide) (by decide)
  inspect_opens := stateEnsures_bind inspectDevice_opens fun _ _ =>
    stateEnsures_pure (by split <;> decide)
  free_opens := stateEnsures_bind closePipes_opens fun _ _ =>
    stateEnsures_bind (safeRelease_opens _) fun _ _ =>
    stateEnsures_bind (safeRelease_opens _) fun _ _ => freeDevice_opens

theorem sound_kusb_488b : Sound kusb_488b {.deviceDescriptor, .configurationDescriptor}
    (insert .device equipped ∪ parts) where
  descriptors := descriptors_both
  grown := by decide
  others := by decide
  inspect := triple_bind (step_inspectDevice descriptors_both (by decide) (by decide)
    (by decide) (by decide)) fun _ => triple_pure fun _ _ h => h
  attach := by
    have hout := descriptors_both
    refine step_attachDevice hout rfl (by decide) ?_
    refine triple_bind (step_resolve hout (by decide) (by decide)) fun rc => ?_
    refine triple_ite (fun _ => triple_pure fun v d h => ?_) fun _ => ?_
    · exact h.mono (Finset.Subset.refl _) (by decide)
    · exact step_bringUp hout ⟨by decide, by decide, by decide⟩ (by decide) (by decide) (by decide)
        (by decide)
  detach B W hB := by
    have hout := descriptors_both
    refine triple_bind (triple_get (Q := fun _ => Owns _ B W _) fun _ _ h => h) fun members => ?_
    refine triple_ite (fun _ => ?_) fun _ => step_detach hout hB
    exact triple_bind (step_quiesce hout hB) fun _ => step_detach hout hB
  free E hE := by
    have hout := descriptors_both
    refine triple_bind (step_closePipes hout hE based_equipped) fun _ =>
      triple_bind (step_releasePart hout hE based_equipped (by decide)) fun _ =>
      triple_bind (step_releasePart hout hE based_equipped (by decide)) fun _ =>
      triple_bind (step_releasePart hout hE based_equipped (by decide)) fun _ => ?_
    refine (step_freeDevice hout (by decide) (by decide) hE).conseq (fun _ _ h => h)
      fun _ v d h => h.mono (by decide) (by decide)
  inspect_opens := stateEnsures_bind inspectDevice_opens fun _ _ =>
    stateEnsures_pure (by split <;> decide)
  free_opens := stateEnsures_bind closePipes_opens fun _ _ =>
    stateEnsures_bind (safeRelease_opens _) fun _ _ =>
    stateEnsures_bind (safeRelease_opens _) fun _ _ =>
    stateEnsures_bind (safeRelease_opens _) fun _ _ => freeDevice_opens

/-! ## From the match to the end -/

section Life

variable {k : ServiceClass} (hk : Sound k U W)

include hk

theorem step_prepare :
    Step (Owns U ∅ ∅ ∅) k.prepare
      fun res => Owns U (if res.isNone then {.interface} else ∅) {.interface} ∅ := by
  have hlost : ∀ res : StartResult, Step (Owns U ∅ ∅ ∅) (pure (some res) : Service _)
      fun res => Owns U (if res.isNone then {.interface} else ∅) {.interface} ∅ :=
    fun _ => triple_pure fun v d h => h.mono (Finset.Subset.refl _) (Finset.empty_subset _)
  refine triple_bind (step_pass (by simp [needs]) fun _ => ⟨rfl, rfl⟩) fun ret => ?_
  refine triple_ite (fun _ => hlost _) fun _ => ?_
  refine triple_bind (step_pass (by simp [needs]) fun _ => ⟨rfl, rfl⟩) fun isInterface => ?_
  refine triple_ite (fun _ => hlost _) fun _ => ?_
  have hretain := step_take (U := U) (B := ∅) (W := ∅) (E := ∅) (c := .retain .interface)
    (G := fun _ => True) (by simp [needs]) (fun _ => rfl) (fun _ => rfl) (by decide)
    (by decide) (by decide)
  refine triple_bind hretain fun _ => ?_
  rw [if_pos trivial]
  refine triple_bind (step_store (by decide)) fun _ => ?_
  refine hk.inspect.conseq (fun _ _ h => h) fun res v d h => ?_
  cases res with
  | none => exact h
  | some res => exact h.mono (Finset.empty_subset _) (Finset.Subset.refl _)

/-- What a service owns that has not started. -/
def Unstarted (U W E members : Finset Resource) (d : Option (Resource → Nat)) : Prop :=
  Owns U ∅ {.interface} E members d ∨ Owns U equipped (insert .board W) E members d

/-- What a service owns besides its members when its start has failed. -/
def leftOpen (k : ServiceClass) : Finset Resource :=
  if k.undoesOpen then ∅ else {.interfaceSession}

theorem step_giveUp {attached : Bool} {ret : StartResult} (hB : .interface ∈ B)
    (hattached : attached → Based B) (hW : .interfaceSession ∉ W') :
    Step (Owns U B W' {.interfaceSession}) (k.giveUp attached ret)
      fun res v d => res = ret ∧ Owns U B W' (leftOpen k) v d := by
  refine triple_ite (fun hundoes => ?_) fun hundoes => ?_
  · have hclose : Step (Owns U B W' {.interfaceSession}) (do ask .closeInterface; return ret)
        fun res v d => res = ret ∧ Owns U B W' (leftOpen k) v d := by
      have hneeds : ∀ q ∈ [Resource.interface], q ∈ B ∪ {.interfaceSession} ∧ q ∉ U :=
        hk.descriptors.covers (by simp [hB]) (by simp)
      refine triple_bind (step_give (r := .interfaceSession) hneeds (fun _ => rfl) (by decide) hW
        (hk.descriptors.not_mem (by decide)) (by decide)) fun _ => ?_
      refine triple_pure fun v d h => ⟨rfl, ?_⟩
      rwa [leftOpen, if_pos hundoes]
    refine triple_ite (fun hatt => ?_) fun _ => hclose
    exact triple_bind (hk.detach B W' (hattached hatt)) fun _ => hclose
  · refine triple_pure fun v d h => ⟨rfl, ?_⟩
    rwa [leftOpen, if_neg hundoes]

theorem step_startTransport :
    Step (Owns U {.interface} {.interface} {.interfaceSession}) k.startTransport fun ret v d =>
      if ret = .success then
        Owns U (insert .board equipped) (insert .board W) {.interfaceSession} v d
      else Unstarted U W (leftOpen k) v d := by
  obtain ⟨hboard, hsession⟩ := hk.others
  have hfailed : ∀ {res}, res ≠ .success → Step (Owns U equipped W {.interfaceSession})
      (k.giveUp true res) fun ret v d =>
        if ret = .success then
          Owns U (insert .board equipped) (insert .board W) {.interfaceSession} v d
        else Unstarted U W (leftOpen k) v d := by
    intro res hres
    refine (step_giveUp hk (by decide) (fun _ => based_equipped) hsession).conseq (fun _ _ h => h)
      fun ret v d h => ?_
    rw [h.1, if_neg hres]
    exact .inr (h.2.mono (Finset.Subset.refl _) (Finset.subset_insert _ _))
  have htransport := step_take (U := U) (B := {.interface}) (W := {.interface})
    (E := {.interfaceSession}) (c := .allocate .transport) (G := fun found : Bool => found)
    (by simp [needs]) (fun _ => rfl) (fun _ => rfl) (by decide) (by decide) (by decide)
  refine triple_bind htransport fun allocated => triple_ite (fun hnone => ?_) fun hsome => ?_
  · rw [if_neg (by simpa using hnone)]
    have hgiven : Step (Owns U {.interface} {.interface} {.interfaceSession})
        (k.giveUp false .noMemory) fun res v d => res = .noMemory ∧
          Owns U {.interface} {.interface} (leftOpen k) v d :=
      step_giveUp hk (by decide) (by simp) (by decide)
    refine hgiven.conseq (fun _ _ h => h) fun ret v d h => ?_
    rw [h.1, if_neg (by decide)]
    exact .inl (h.2.mono (Finset.empty_subset _) (Finset.Subset.refl _))
  rw [if_pos (by simpa using hsome)]
  refine triple_bind (step_store (by decide)) fun _ => ?_
  have hattach : Step (Owns U (insert .transport {.interface}) (insert .transport {.interface})
      {.interfaceSession}) k.attach fun _ => Owns U equipped W {.interfaceSession} :=
    hk.attach.conseq (fun _ _ h => h.mono (by decide) (by decide)) fun _ _ _ h => h
  refine triple_bind hattach fun rc => triple_ite (fun _ => ?_) fun _ => ?_
  · exact hfailed (by decide)
  have hboard := step_take (U := U) (B := equipped) (W := W)
    (E := {.interfaceSession}) (c := .allocate .board) (G := fun found : Bool => found)
    (by simp [needs]) (fun _ => rfl) (fun _ => rfl) hboard (by decide) (by decide)
  refine triple_bind hboard fun allocated => triple_ite (fun hnone => ?_) fun hsome => ?_
  · rw [if_neg (by simpa using hnone)]
    exact hfailed (by decide)
  rw [if_pos (by simpa using hsome)]
  refine triple_bind (step_store (by decide)) fun _ => ?_
  refine triple_bind (step_pass (hk.descriptors.covers (by decide) (by simp [needs]))
    fun _ => ⟨rfl, rfl⟩) fun _ => ?_
  refine triple_bind (step_pass (by simp [needs]) fun _ => ⟨rfl, rfl⟩) fun _ => ?_
  refine triple_pure fun v d h => ?_
  rw [if_pos rfl]
  exact h

theorem step_stop :
    Step (Owns U (insert .board equipped) (insert .board W) {.interfaceSession}) k.stop
      fun _ => Unstarted U W ∅ := by
  have hsession : Resource.interfaceSession ∉ insert Resource.board W := by
    simp [hk.others.2]
  have hbased : Based (insert .board equipped) := ⟨by decide, by decide, by decide⟩
  have hclose : Step (Owns U (insert .board equipped) (insert .board W) {.interfaceSession})
      (do ask .closeInterface; ask .superStop) fun _ => Unstarted U W ∅ := by
    refine triple_bind (step_give (r := .interfaceSession) (hk.descriptors.covers (by decide)
      (by simp [needs])) (fun _ => rfl) (by decide) hsession (hk.descriptors.not_mem (by decide))
      (by decide)) fun _ => ?_
    refine (step_pass (by simp [needs]) fun _ => ⟨rfl, rfl⟩).conseq (fun _ _ h => h)
      fun _ v d h => .inr ?_
    exact h.mono (Finset.subset_insert _ _) (Finset.Subset.refl _)
  refine triple_bind (triple_get (Q := fun members v d => .interface ∈ members ∧
    Owns U (insert .board equipped) (insert .board W) {.interfaceSession} v d)
    fun v d h => ⟨h.lower (by decide), h⟩) fun members => triple_of_pre fun hinterface => ?_
  have hinner : ∀ _ : Unit, Step
      (Owns U (insert .board equipped) (insert .board W) {.interfaceSession})
      (do if k.detaches ∧ .transport ∈ members then k.detach
          if .interface ∈ members then ask .closeInterface
          ask .superStop) fun _ => Unstarted U W ∅ := by
    intro _
    have hlast : ∀ _ : Unit, Step
        (Owns U (insert .board equipped) (insert .board W) {.interfaceSession})
        (do if .interface ∈ members then ask .closeInterface
            ask .superStop) fun _ => Unstarted U W ∅ :=
      fun _ => triple_ite (fun _ => hclose) fun hnot => absurd hinterface hnot
    exact triple_ite (fun _ => triple_bind (hk.detach _ _ hbased) hlast) fun _ => hlast ()
  refine triple_ite (fun _ => triple_bind ?_ hinner) fun _ => hinner ()
  exact step_pass (hk.descriptors.covers (by decide) (by simp [needs])) fun _ => ⟨rfl, rfl⟩

theorem step_freeMembers (hE : E ⊆ {.interfaceSession}) :
    Step (Unstarted U W E) k.freeMembers fun _ => Owns U ∅ ∅ E := by
  have hE' : ∀ {q}, q ≠ .interfaceSession → q ∉ E :=
    fun hq h => hq (Finset.mem_singleton.mp (hE h))
  have hrelease : ∀ r ∈ [Resource.board, .transport, .interface], ∀ {B W},
      Step (Owns U B W E) (safeRelease r) fun _ => Owns U (B.erase r) (W.erase r) E := by
    intro r hr B W
    simp only [List.mem_cons, List.not_mem_nil, or_false] at hr
    obtain rfl | rfl | rfl := hr
    all_goals
      exact step_safeRelease (by simp [needs]) (hE' (by decide))
        (hk.descriptors.not_mem (by decide)) (by decide) (by decide)
  have hend : Step (Owns U ∅ {.interface} E) (safeRelease .interface)
      fun _ => Owns U ∅ ∅ E :=
    (hrelease .interface (by decide)).conseq (fun _ _ h => h)
      fun _ _ _ h => h.mono (by decide) (by decide)
  have hboard : Step (Unstarted U W E) (safeRelease .board) fun _ v d =>
      Owns U ∅ {.interface} E v d ∨ Owns U equipped W E v d := by
    intro v d u a v' d' h hrun hserves
    rcases h with h | h
    · have hreleased := hrelease .board (by decide) v d u a v' d' h hrun hserves
      exact .inl (hreleased.mono (by decide) (by decide))
    · have hreleased := hrelease .board (by decide) v d u a v' d' h hrun hserves
      rw [Finset.erase_insert hk.others.1] at hreleased
      exact .inr (hreleased.mono (by decide) (Finset.Subset.refl _))
  refine triple_bind hboard fun _ => ?_
  refine triple_bind (triple_get (Q := fun members v d => members = v ∧
    (Owns U ∅ {.interface} E v d ∨ Owns U equipped W E v d)) fun v d h => ⟨rfl, h⟩)
    fun members => triple_ite (fun hmem => ?_) fun hnot => ?_
  · have hequipped : Step (fun v d => members = v ∧
        (Owns U ∅ {.interface} E v d ∨ Owns U equipped W E v d)) k.free
        fun _ => Owns U equipped equipped E := by
      refine (hk.free E hE).conseq (fun v d h => ?_) fun _ _ _ h => h
      obtain ⟨rfl, h | h⟩ := h
      · exact absurd (h.upper hmem) (by decide)
      · exact h
    refine triple_bind hequipped fun _ => triple_bind (Q := fun _ => Owns U ∅ {.interface} E)
      ?_ fun _ => hend
    exact (hrelease .transport (by decide)).conseq (fun _ _ h => h)
      fun _ _ _ h => h.mono (by decide) (by decide)
  · refine hend.conseq (fun v d h => ?_) fun _ _ _ h => h
    obtain ⟨rfl, h | h⟩ := h
    · exact h
    · exact absurd (h.lower (by decide)) hnot

end Life

/-! ## Whole lives -/

/-- The interface is opened. -/
def isOpening : Exchange ServiceCall.Reply → Bool
  | ⟨.openInterface, (ret : IOReturn)⟩ => ret = .success
  | _ => false

theorem isOpening_eq_false {e : Exchange ServiceCall.Reply} (h : e.request ≠ .openInterface) :
    isOpening e = false := by
  unfold isOpening
  split
  · exact absurd rfl h
  · rfl

theorem any_isOpening_eq_false {u : Trace ServiceCall.Reply}
    (h : ∀ e ∈ u, ¬ e.request = .openInterface) : u.any isOpening = false :=
  List.any_eq_false.mpr fun e he => by simp [isOpening_eq_false (h e he)]

theorem prepare_opens {k : ServiceClass} (hk : Sound k U W) :
    StateEnsures (· = .openInterface) k.prepare fun res => res ≠ some .success := by
  refine stateEnsures_bind (asks_other (by decide)) fun _ _ => ?_
  refine stateEnsures_ite (fun _ => stateEnsures_pure (by simp)) fun _ => ?_
  refine stateEnsures_bind (asks_other (by decide)) fun _ _ => ?_
  refine stateEnsures_ite (fun _ => stateEnsures_pure (by decide)) fun _ => ?_
  refine stateEnsures_bind (asks_other (by decide)) fun _ _ => ?_
  exact stateEnsures_bind (stateEnsures_modify _) fun _ _ => hk.inspect_opens

theorem freeMembers_opens {k : ServiceClass} (hk : Sound k U W) :
    StateEnsures (· = .openInterface) k.freeMembers fun _ => True := by
  refine stateEnsures_bind (safeRelease_opens _) fun _ _ => ?_
  refine stateEnsures_bind stateEnsures_get fun _ _ => ?_
  refine stateEnsures_ite (fun _ => ?_) fun _ => safeRelease_opens _
  exact stateEnsures_bind hk.free_opens fun _ _ =>
    stateEnsures_bind (safeRelease_opens _) fun _ _ => safeRelease_opens _

/-- A start that fails behind the opening of the interface leaves it open, unless the class closes
it. -/
theorem run_start {k : ServiceClass} (hk : Sound k U W) {v : Finset Resource}
    {u : Trace ServiceCall.Reply} {ret : StartResult} (hrun : Run (k.start.run ∅) u (ret, v)) :
    if ret = .success then
      Owns U (insert .board equipped) (insert .board W) {.interfaceSession} v (custody.after u)
    else Unstarted U W (if u.any isOpening then leftOpen k else ∅) v (custody.after u) := by
  have hnothing : Owns U ∅ ∅ ∅ ∅ (some fun _ => 0) :=
    ⟨Finset.Subset.refl _, Finset.Subset.refl _, Custody.holds_zero U⟩
  obtain ⟨u₁, res, v₁, u₂, rfl, hprepare, hrest⟩ := run_stateT_bind_iff.mp hrun
  have hprepared := Custody.of_triple (step_prepare hk) hnothing hprepare
  obtain ⟨hothers, hres⟩ := (prepare_opens hk).of_run hprepare
  rw [List.any_append, any_isOpening_eq_false hothers, Bool.false_or]
  cases res with
  | some result =>
      obtain ⟨rfl, heq⟩ := run_stateT_pure_iff.mp hrest
      cases heq
      rw [if_neg fun h => hres (congrArg some h), List.append_nil]
      exact .inl (hprepared.mono (Finset.empty_subset _) (Finset.Subset.refl _))
  | none =>
      rw [Custody.after, Custody.balance_append]
      obtain ⟨u₃, ret₁, v₂, u₄, rfl, hopen, hbehind⟩ := run_stateT_bind_iff.mp hrest
      have htake := step_take (U := U) (B := {.interface}) (W := {.interface}) (E := ∅)
        (r := .interfaceSession) (c := .openInterface) (G := fun ret : IOReturn => ret = .success)
        (hk.descriptors.covers (by simp [needs]) (by simp [needs])) (fun _ => rfl) (fun _ => rfl)
        (by decide) (by decide) (by decide)
      have hopened := Custody.of_triple htake hprepared hopen
      obtain ⟨rfl, -⟩ := run_lift_call_iff.mp hopen
      rw [Custody.balance_append, List.any_append]
      rcases run_stateT_guard_iff.mp hbehind with ⟨hret₁, rfl, heq⟩ | ⟨hret₁, hstart⟩
      · cases heq
        have hclosed : List.any [⟨.openInterface, ret₁⟩] isOpening = false := by
          simpa [isOpening] using hret₁
        rw [if_neg hret₁] at hopened
        rw [if_neg (by simp), hclosed]
        exact .inl (hopened.mono (Finset.empty_subset _) (Finset.Subset.refl _))
      · have hsession : List.any [⟨.openInterface, ret₁⟩] isOpening = true := by
          simpa [isOpening] using not_not.mp hret₁
        rw [if_pos (not_not.mp hret₁)] at hopened
        rw [hsession, Bool.true_or, if_pos rfl]
        exact Custody.of_triple (step_startTransport hk) hopened hstart

/-- Nothing is left of a service at its end, but the descriptors that it does not give back, and
the interface where its start has failed behind opening it and its class does not close it. -/
theorem run_life {k : ServiceClass} (hk : Sound k U W) {v : Finset Resource}
    {u : Trace ServiceCall.Reply} {ret : StartResult} (hrun : Run (k.life.run ∅) u (ret, v)) :
    Custody.Holds U
      (if ret ≠ .success ∧ u.any isOpening ∧ ¬ k.undoesOpen then {.interfaceSession} else ∅)
      (custody.after u) := by
  obtain ⟨u₁, ret₁, v₁, u₂, rfl, hstart, hrest⟩ := run_stateT_bind_iff.mp hrun
  have hstarted := run_start hk hstart
  have hend : ∀ {E : Finset Resource} {u₃ : Trace ServiceCall.Reply} {v₃ : Finset Resource}
      {w : Trace ServiceCall.Reply}, Unstarted U W E v₃ (custody.after u₃) →
      E ⊆ {.interfaceSession} → Run ((k.freeMembers >>= fun _ => pure ret₁).run v₃) w (ret, v) →
      ret = ret₁ ∧ w.any isOpening = false ∧ Custody.Holds U E (custody.after (u₃ ++ w)) := by
    intro E u₃ v₃ w hunstarted hE hfree
    obtain ⟨a, hmembers, rfl⟩ := run_stateT_bind_pure_iff.mp hfree
    have hfreed := Custody.of_triple (step_freeMembers hk hE) hunstarted hmembers
    have hv : v = ∅ := Finset.subset_empty.mp hfreed.upper
    have hholds := hfreed.holds
    rw [hv, owed_of_no_device (Finset.notMem_empty _), Finset.empty_union] at hholds
    refine ⟨rfl, any_isOpening_eq_false ((freeMembers_opens hk).of_run hmembers).1, ?_⟩
    rwa [Custody.after, Custody.balance_append]
  rcases run_stateT_ite_iff.mp hrest with ⟨hret₁, hrest⟩ | ⟨hret₁, hrest⟩
  · rw [if_pos hret₁] at hstarted
    obtain ⟨u₃, a, v₂, u₄, rfl, hstop, hfree⟩ := run_stateT_bind_iff.mp hrest
    have hstopped := Custody.of_triple (step_stop hk) hstarted hstop
    rw [Custody.after, ← Custody.balance_append] at hstopped
    obtain ⟨rfl, -, hholds⟩ := hend hstopped (Finset.empty_subset _) hfree
    rw [if_neg fun h => h.1 hret₁, ← List.append_assoc]
    exact hholds
  · rw [if_neg hret₁] at hstarted
    have hE : (if u₁.any isOpening then leftOpen k else ∅) ⊆ {.interfaceSession} := by
      rw [leftOpen]
      split
      · split
        · exact Finset.empty_subset _
        · exact Finset.Subset.refl _
      · exact Finset.empty_subset _
    obtain ⟨rfl, hunopened, hholds⟩ := hend hstarted hE hrest
    rw [List.any_append, hunopened, Bool.or_false]
    refine Eq.mp (congrArg (Custody.Holds U · _) ?_) hholds
    cases hopened : u₁.any isOpening <;> cases hundoes : k.undoesOpen <;>
      simp [leftOpen, hundoes, hret₁]

/-- The service classes, each with the descriptors that nothing gives back. -/
def services : List (ServiceClass × Finset Resource) :=
  [(ni_usb, {.deviceDescriptor}), (agilent_82357, {.deviceDescriptor}),
    (kusb_488b, {.deviceDescriptor, .configurationDescriptor})]

theorem sound_of_mem {x : ServiceClass × Finset Resource} (hx : x ∈ services) :
    ∃ W, Sound x.1 x.2 W := by
  simp only [services, List.mem_cons, List.not_mem_nil, or_false] at hx
  obtain rfl | rfl | rfl := hx
  · exact ⟨_, sound_ni_usb⟩
  · exact ⟨_, sound_agilent_82357⟩
  · exact ⟨_, sound_kusb_488b⟩

/-- Whatever the system replies, a service gives back everything that it acquires, nothing that it
does not have, and needs nothing that it does not have; except that a start which fails behind the
opening of the interface leaves it open in two of the classes. -/
theorem services_give_back {k : ServiceClass} {U : Finset Resource}
    (hk : (k, U) ∈ services) {u : Trace ServiceCall.Reply} {ret : StartResult}
    {v : Finset Resource} (hrun : Run (k.life.run ∅) u (ret, v)) :
    ∃ held, custody.after u = some held ∧ ∀ r ∉ U, held r =
      if r = .interfaceSession ∧ ret ≠ .success ∧ u.any isOpening ∧ ¬ k.undoesOpen then 1
      else 0 := by
  obtain ⟨W, hsound⟩ := sound_of_mem hk
  obtain ⟨held, hafter, hheld⟩ := run_life hsound hrun
  refine ⟨held, hafter, fun r hr => (hheld r hr).trans (if_congr ?_ rfl rfl)⟩
  split
  · rename_i hleft
    exact Finset.mem_singleton.trans ⟨fun h => ⟨h, hleft⟩, And.left⟩
  · rename_i hleft
    exact ⟨fun h => absurd h (Finset.notMem_empty r), fun h => absurd h.2 hleft⟩

/-- There is no memory for the transport. -/
def unallocated : (c : ServiceCall) → Option c.Reply
  | .superStart => some IOReturn.success
  | .castInterface => some true
  | .retain _ => some ()
  | .copyConfigurationDescriptor => some (some [])
  | .getInterfaceDescriptor => some (some ⟨0, 0⟩)
  | .copyDevice _ => some (IOReturn.other, false)
  | .openInterface => some IOReturn.success
  | .allocate _ => some false
  | .release _ => some ()
  | _ => none

theorem services_give_back_unallocated : ∃ u v held, Run (ni_usb.life.run ∅) u (.noMemory, v) ∧
    custody.after u = some held ∧ held .interfaceSession = 1 ∧ held .interface = 0 := by
  have hfollow : (follow unallocated (ni_usb.life.run ∅)).map
      (fun x => (x.1.any isOpening, x.2.1)) = some (true, .noMemory) := by
    rfl
  obtain ⟨⟨u, ret, v⟩, hu, heq⟩ := Option.map_eq_some_iff.mp hfollow
  obtain ⟨hopened, rfl⟩ := Prod.mk.injEq .. ▸ heq
  have hrun := run_of_follow unallocated hu
  obtain ⟨held, hafter, hheld⟩ := services_give_back (U := {.deviceDescriptor})
    (by simp [services]) hrun
  refine ⟨u, v, held, hrun, hafter, ?_, ?_⟩
  · rw [hheld _ (by decide), if_pos ⟨rfl, by decide, hopened, by decide⟩]
  · rw [hheld _ (by decide), if_neg fun h => absurd h.1 (by decide)]

end Service

end DarwinGpib
