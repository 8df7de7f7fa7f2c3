import DarwinGpib.Library.Custody
import DarwinGpib.Model.Services
import Mathlib.Data.Finset.Lattice.Lemmas

/-!
# What the parts of a service acquire

The requests of a service acquire and release. A service owns its members, the open session of its
device and what it holds besides; every part of a service is a step from what is owned before to
what is owned behind it.
-/

namespace DarwinGpib

open Interaction

namespace Service

/-! ## Acquiring and releasing -/

def takes : Exchange ServiceCall.Reply → Option Resource
  | ⟨.retain r, _⟩ => some r
  | ⟨.copyConfigurationDescriptor, (cfg : Option (List UInt8))⟩ =>
      if cfg.isSome then some .configurationDescriptor else none
  | ⟨.copyDevice r, (reply : IOReturn × Bool)⟩ => if reply = (.success, true) then some r else none
  | ⟨.copyDeviceDescriptor, (dev : Option UInt16)⟩ =>
      if dev.isSome then some .deviceDescriptor else none
  | ⟨.copyStringDescriptor, (found : Bool)⟩ => if found then some .stringDescriptor else none
  | ⟨.copyDeviceString, (found : Bool)⟩ => if found then some .product else none
  | ⟨.openInterface, (ret : IOReturn)⟩ => if ret = .success then some .interfaceSession else none
  | ⟨.openDevice, (ret : IOReturn)⟩ => if ret = .success then some .deviceSession else none
  | ⟨.obtain r, (ret : IOReturn)⟩ => if ret = .success then some r else none
  | ⟨.allocate r, (found : Bool)⟩ => if found then some r else none
  | _ => none

def gives : Exchange ServiceCall.Reply → Option Resource
  | ⟨.release r, _⟩ => some r
  | ⟨.closeInterface, _⟩ => some .interfaceSession
  | ⟨.closeDevice, _⟩ => some .deviceSession
  | _ => none

/-- What a request takes for G. -/
def needs : ServiceCall → List Resource
  | .copyConfigurationDescriptor | .getInterfaceDescriptor | .copyDevice _ | .openInterface
  | .closeInterface => [.interface]
  | .copyDeviceDescriptor | .copyStringDescriptor => [.usbDevice]
  | .openDevice | .closeDevice => [.transport, .device]
  | .release (.pipe _) | .release (.buffer _) | .release .device => [.transport]
  | .obtain _ => [.interface, .interfaceSession, .transport]
  | .runInitSequence | .quiesce => [.interfaceSession, .transport]
  | .setOnline _ => [.interfaceSession, .transport, .board]
  | _ => []

def custody : Custody ServiceCall.Reply Resource := ⟨takes, gives, needs⟩

/-! ## Members -/

/-- A device that is a member is open. -/
def sessions (members : Finset Resource) : Finset Resource :=
  if .device ∈ members then {.deviceSession} else ∅

/-- What a service has to give back besides, with what it owns through its members. -/
def owed (E members : Finset Resource) : Finset Resource := members ∪ E ∪ sessions members

/-- The members are at least `B` and at most `W`, and are owned. -/
structure Owns (U B W E members : Finset Resource) (d : Option (Resource → Nat)) : Prop where
  lower : B ⊆ members
  upper : members ⊆ W
  holds : Custody.Holds U (owed E members) d

variable {U B W E B' W' : Finset Resource} {r : Resource}

/-- What a part of a service needs and does to its members. -/
abbrev Step {α : Type} (P : Finset Resource → Option (Resource → Nat) → Prop) (x : Service α)
    (Q : α → Finset Resource → Option (Resource → Nat) → Prop) : Prop :=
  Triple custody.Accounting P x Q

theorem Owns.mono {v : Finset Resource} {d : Option (Resource → Nat)} (h : Owns U B W E v d)
    (hB : B' ⊆ B) (hW : W ⊆ W') : Owns U B' W' E v d :=
  ⟨hB.trans h.lower, h.upper.trans hW, h.holds⟩

/-- What is among the members, or owned besides, is there when it is needed. -/
theorem Owns.covers {v : Finset Resource} {d : Option (Resource → Nat)} (h : Owns U B W E v d)
    {needs : List Resource} (hneeds : ∀ q ∈ needs, q ∈ B ∪ E ∧ q ∉ U) :
    Custody.Covers U (owed E v) needs := by
  intro q hq
  obtain ⟨hin, hout⟩ := hneeds q hq
  refine ⟨?_, hout⟩
  rw [owed, Finset.mem_union, Finset.mem_union]
  rcases Finset.mem_union.mp hin with hB | hE
  · exact .inl (.inl (h.lower hB))
  · exact .inl (.inr hE)

/-- A request that takes and gives nothing. -/
theorem step_pass {c : ServiceCall} (hneeds : ∀ q ∈ needs c, q ∈ B ∪ E ∧ q ∉ U)
    (hneutral : ∀ reply, gives ⟨c, reply⟩ = none ∧ takes ⟨c, reply⟩ = none) :
    Step (Owns U B W E) (ask c) fun _ => Owns U B W E :=
  triple_lift_call fun _ _ reply _ h hserve => ⟨h.lower, h.upper,
    h.holds.pass (h.covers hneeds) (hneutral reply).1 (hneutral reply).2 hserve⟩

/-- A request that takes something, or does not, as its reply says. -/
theorem step_take {c : ServiceCall} {G : c.Reply → Prop} [DecidablePred G]
    (hneeds : ∀ q ∈ needs c, q ∈ B ∪ E ∧ q ∉ U) (hgives : ∀ reply, gives ⟨c, reply⟩ = none)
    (htakes : ∀ reply, takes ⟨c, reply⟩ = if G reply then some r else none)
    (hW : r ∉ W) (hE : r ∉ E) (hr : r ≠ .deviceSession) :
    Step (Owns U B W E) (ask c)
      fun reply => Owns U B W (if G reply then insert r E else E) := by
  refine triple_lift_call fun v d reply d' h hserve => ?_
  by_cases hgranted : G reply
  · rw [if_pos hgranted]
    have howed : owed (insert r E) v = insert r (owed E v) := by
      simp [owed, Finset.union_insert, Finset.insert_union]
    have hfresh : r ∉ owed E v := by
      have hv : r ∉ v := fun hv => hW (h.upper hv)
      rw [owed, sessions]
      split <;> simp [hv, hE, hr]
    have htaken := (htakes reply).trans (if_pos hgranted)
    exact ⟨h.lower, h.upper,
      howed ▸ h.holds.take (h.covers hneeds) (hgives reply) htaken hfresh hserve⟩
  · rw [if_neg hgranted]
    exact ⟨h.lower, h.upper, h.holds.pass (h.covers hneeds) (hgives reply)
      ((htakes reply).trans (if_neg hgranted)) hserve⟩

/-- What is never given back may be taken all the same. -/
theorem step_take_out {c : ServiceCall} {G : c.Reply → Prop} [DecidablePred G]
    (hneeds : ∀ q ∈ needs c, q ∈ B ∪ E ∧ q ∉ U) (hgives : ∀ reply, gives ⟨c, reply⟩ = none)
    (htakes : ∀ reply, takes ⟨c, reply⟩ = if G reply then some r else none) (hr : r ∈ U) :
    Step (Owns U B W E) (ask c) fun _ => Owns U B W E := by
  refine triple_lift_call fun v d reply d' h hserve => ⟨h.lower, h.upper, ?_⟩
  by_cases hgranted : G reply
  · exact h.holds.take_out (h.covers hneeds) (hgives reply)
      ((htakes reply).trans (if_pos hgranted)) hr hserve
  · exact h.holds.pass (h.covers hneeds) (hgives reply)
      ((htakes reply).trans (if_neg hgranted)) hserve

/-- A request that gives back what is owned besides. -/
theorem step_give {c : ServiceCall} (hneeds : ∀ q ∈ needs c, q ∈ B ∪ E ∧ q ∉ U)
    (hgives : ∀ reply, gives ⟨c, reply⟩ = some r) (hE : r ∈ E) (hW : r ∉ W) (hout : r ∉ U)
    (hr : r ≠ .deviceSession) :
    Step (Owns U B W E) (ask c) fun _ => Owns U B W (E.erase r) := by
  refine triple_lift_call fun v d reply d' h hserve => ⟨h.lower, h.upper, ?_⟩
  have hv : r ∉ v := fun hv => hW (h.upper hv)
  have howed : owed (E.erase r) v = (owed E v).erase r := by
    ext q
    by_cases hqr : q = r
    · subst hqr
      simp only [owed, sessions, Finset.mem_union, Finset.mem_erase]
      split <;> simp [hv, hr]
    · simp [owed, hqr]
  have hmem : r ∈ owed E v := by simp [owed, hE]
  exact howed ▸ h.holds.give (h.covers hneeds) (hgives reply) hmem hout hserve

theorem sessions_of_mem_iff {v v' : Finset Resource} (h : .device ∈ v' ↔ .device ∈ v) :
    sessions v' = sessions v := by
  simp only [sessions, h]

/-- What has been acquired becomes a member. -/
theorem step_store (hr : r ≠ .device) :
    Step (Owns U B W (insert r E)) (store r)
      fun _ => Owns U (insert r B) (insert r W) E := by
  refine triple_modify fun v d h =>
    ⟨Finset.insert_subset_insert r h.lower, Finset.insert_subset_insert r h.upper, ?_⟩
  have hsame : sessions (insert r v) = sessions v := sessions_of_mem_iff (by simp [hr.symm])
  have howed : owed E (insert r v) = owed (insert r E) v := by
    rw [owed, owed, hsame, Finset.insert_union, Finset.union_insert]
  exact howed ▸ h.holds

/-- A member is given back, if there is one. -/
theorem step_safeRelease (hneeds : ∀ q ∈ needs (.release r), q ∈ B ∪ E ∧ q ∉ U)
    (hE : r ∉ E) (hout : r ∉ U) (hdevice : r ≠ .device) (hr : r ≠ .deviceSession) :
    Step (Owns U B W E) (safeRelease r) fun _ => Owns U (B.erase r) (W.erase r) E := by
  refine triple_bind (Q := fun members v d => members = v ∧ Owns U B W E v d)
    (triple_get fun v d h => ⟨rfl, h⟩) fun members => triple_ite (fun hmem => ?_) fun hnot => ?_
  · refine triple_bind (Q := fun _ v d => r ∈ v ∧ B ⊆ v ∧ v ⊆ W ∧
      Custody.Holds U ((owed E v).erase r) d) ?_ fun _ => triple_modify fun v d h => ?_
    · refine triple_lift_call fun v d reply d' h hserve => ?_
      obtain ⟨rfl, h⟩ := h
      exact ⟨hmem, h.lower, h.upper, h.holds.give (h.covers hneeds) rfl
        (by simp [owed, hmem]) hout hserve⟩
    · obtain ⟨-, hlower, hupper, hholds⟩ := h
      refine ⟨Finset.erase_subset_erase r hlower, Finset.erase_subset_erase r hupper, ?_⟩
      have hsame : sessions (v.erase r) = sessions v := sessions_of_mem_iff (by simp [hdevice.symm])
      have howed : owed E (v.erase r) = (owed E v).erase r := by
        rw [owed, owed, hsame]
        ext q
        by_cases hqr : q = r
        · subst hqr
          simp only [sessions, Finset.mem_union, Finset.mem_erase]
          split <;> simp [hE, hr]
        · simp [hqr]
      exact howed ▸ hholds
  · refine triple_pure fun v d h => ?_
    obtain ⟨rfl, h⟩ := h
    refine ⟨(Finset.erase_subset r B).trans h.lower, fun q hq => ?_, h.holds⟩
    exact Finset.mem_erase.mpr ⟨fun hqr => hnot (hqr ▸ hq), h.upper hq⟩

/-! ## The transports -/

/-- What is left out is a descriptor. -/
def Descriptors (U : Finset Resource) : Prop :=
  ∀ r ∈ U, r = .deviceDescriptor ∨ r = .configurationDescriptor

/-- The members without the parts of the transport, which they have. -/
structure Based (B : Finset Resource) : Prop where
  interface : .interface ∈ B
  transport : .transport ∈ B
  parts : ∀ r ∈ parts, r ∉ B

theorem Descriptors.not_mem (hout : Descriptors U)
    (hr : r ≠ .deviceDescriptor ∧ r ≠ .configurationDescriptor) : r ∉ U :=
  fun h => (hout r h).elim hr.1 hr.2

/-- What is needed of the service itself is there. -/
theorem Descriptors.covers (hout : Descriptors U) {S : Finset Resource} {rs : List Resource}
    (hmem : ∀ r ∈ rs, r ∈ S)
    (hrs : ∀ r ∈ rs, r ≠ .deviceDescriptor ∧ r ≠ .configurationDescriptor) :
    ∀ r ∈ rs, r ∈ S ∧ r ∉ U :=
  fun r hr => ⟨hmem r hr, hout.not_mem (hrs r hr)⟩

section Transport

variable (hout : Descriptors U)

include hout

/-- A transport gives up a pipe or buffer. -/
theorem step_releasePart (hE : E ⊆ {.interfaceSession}) (hB : Based B) (hr : r ∈ parts) :
    Step (Owns U B W E) (safeRelease r) fun _ => Owns U B (W.erase r) E := by
  have hkind : r ≠ .deviceDescriptor ∧ r ≠ .configurationDescriptor ∧ r ≠ .device ∧
      r ≠ .deviceSession ∧ r ≠ .interfaceSession ∧ needs (.release r) = [.transport] := by
    simp only [parts, Finset.mem_insert, Finset.mem_singleton] at hr
    rcases hr with rfl | rfl | rfl | rfl | rfl | rfl
    all_goals exact ⟨by decide, by decide, by decide, by decide, by decide, rfl⟩
  obtain ⟨hdev, hcfg, hdevice, hsession, hinterface, hneeds⟩ := hkind
  have hB' : B.erase r = B := Finset.erase_eq_of_notMem (hB.parts r hr)
  have hr' : r ∉ E := fun h => hinterface (Finset.mem_singleton.mp (hE h))
  have hcovered : ∀ q ∈ needs (.release r), q ∈ B ∪ E ∧ q ∉ U := by
    rw [hneeds]
    exact hout.covers (by simp [hB.transport]) (by simp)
  have hkept : r ∉ U := hout.not_mem ⟨hdev, hcfg⟩
  have hrelease := step_safeRelease (W := W) hcovered hr' hkept hdevice hsession
  rwa [hB'] at hrelease

theorem step_closePipes (hE : E ⊆ {.interfaceSession}) (hB : Based B) :
    Step (Owns U B W E) closePipes
      fun _ => Owns U B (((W.erase (.pipe 0)).erase (.pipe 1)).erase (.pipe 2)) E :=
  triple_bind (step_releasePart hout hE hB (by decide)) fun _ =>
    triple_bind (step_releasePart hout hE hB (by decide)) fun _ =>
      step_releasePart hout hE hB (by decide)

/-- Pipes and buffers become members one after the other, up to a failure. -/
theorem step_openPipes {pipes : List (Resource × Bool)} (hB : Based B)
    (hpipes : ∀ x ∈ pipes, x.1 ∈ parts \ W) (hnodup : (pipes.map Prod.fst).Nodup)
    (hW' : W ⊆ W') (hadded : ∀ x ∈ pipes, x.1 ∈ W') :
    Step (Owns U B W {.interfaceSession}) (openPipes pipes)
      fun _ => Owns U B W' {.interfaceSession} := by
  induction pipes generalizing W with
  | nil =>
      exact triple_pure fun v d h => h.mono (Finset.Subset.refl _) hW'
  | cons x pipes ih =>
      obtain ⟨r, optional⟩ := x
      obtain ⟨hpart, hW⟩ := Finset.mem_sdiff.mp (hpipes _ List.mem_cons_self)
      obtain ⟨hfresh, hnodup⟩ := List.nodup_cons.mp hnodup
      have hrest : ∀ x ∈ pipes, x.1 ∈ parts \ insert r W := by
        intro x hx
        obtain ⟨hx', hxW⟩ := Finset.mem_sdiff.mp (hpipes x (List.mem_cons_of_mem _ hx))
        refine Finset.mem_sdiff.mpr ⟨hx', fun h => ?_⟩
        rcases Finset.mem_insert.mp h with heq | h
        · exact hfresh (List.mem_map.mpr ⟨x, hx, heq⟩)
        · exact hxW h
      have hgrown : insert r W ⊆ W' := Finset.insert_subset (hadded _ List.mem_cons_self) hW'
      have hadded' : ∀ x ∈ pipes, x.1 ∈ W' := fun x hx => hadded x (List.mem_cons_of_mem _ hx)
      have hkind : r ≠ .device ∧ r ≠ .deviceSession ∧ r ≠ .interfaceSession := by
        simp only [parts, Finset.mem_insert, Finset.mem_singleton] at hpart
        rcases hpart with rfl | rfl | rfl | rfl | rfl | rfl
        all_goals exact ⟨by decide, by decide, by decide⟩
      have hask := step_take (U := U) (B := B) (E := {.interfaceSession}) (c := .obtain r)
        (G := fun ret => ret = IOReturn.success)
        (hout.covers (by simp [needs, hB.interface, hB.transport]) (by simp [needs])) (fun _ => rfl)
        (fun _ => rfl) hW (by simpa using hkind.2.2) hkind.2.1
      refine triple_bind hask fun ret => triple_ite (fun hret => ?_) fun hret => ?_
      · rw [if_pos hret]
        refine triple_bind (step_store hkind.1) fun _ => ?_
        exact (ih hrest hnodup hgrown hadded').conseq (fun v d h =>
          h.mono (Finset.subset_insert r B) (Finset.Subset.refl _)) fun _ _ _ h => h
      · rw [if_neg hret]
        refine triple_ite (fun _ => ?_) fun _ => ?_
        · exact ih (fun x hx => hpipes x (List.mem_cons_of_mem _ hx)) hnodup hW' hadded'
        · exact triple_pure fun v d h => h.mono (Finset.Subset.refl _) hW'

theorem step_bringUp {pipes : List (Resource × Bool)} (hB : Based B)
    (hpipes : ∀ x ∈ pipes, x.1 ∈ parts \ W) (hnodup : (pipes.map Prod.fst).Nodup)
    (hW' : W ⊆ W') (hadded : ∀ x ∈ pipes, x.1 ∈ W') :
    Step (Owns U B W {.interfaceSession}) (bringUp pipes)
      fun _ => Owns U B W' {.interfaceSession} := by
  refine triple_bind (step_openPipes hout hB hpipes hnodup hW' hadded) fun rc => ?_
  refine triple_ite (fun _ => triple_pure fun _ _ h => h) fun _ => ?_
  have hneeds : ∀ q ∈ needs .runInitSequence, q ∈ B ∪ {.interfaceSession} ∧ q ∉ U :=
    hout.covers (by simp [needs, hB.transport]) (by simp [needs])
  exact step_pass hneeds fun _ => ⟨rfl, rfl⟩

end Transport

/-! ## The device -/

/-- The device is a member, but not open. -/
structure Unopened (U B W E members : Finset Resource) (d : Option (Resource → Nat)) : Prop where
  device : .device ∈ members
  lower : B ⊆ members.erase .device
  upper : members.erase .device ⊆ W
  holds : Custody.Holds U (members ∪ E) d

theorem owed_of_device {v : Finset Resource} (h : .device ∈ v) :
    owed E v = insert .deviceSession (v ∪ E) := by
  rw [owed, sessions, if_pos h, Finset.union_comm, Finset.insert_eq]

theorem owed_of_no_device {v : Finset Resource} (h : .device ∉ v) : owed E v = v ∪ E := by
  rw [owed, sessions, if_neg h, Finset.union_empty]

theorem step_store_device (hW : .device ∉ W) :
    Step (Owns U B W (insert .device E)) (store .device) fun _ => Unopened U B W E := by
  refine triple_modify fun v d h => ?_
  have hv : .device ∉ v := fun hv => hW (h.upper hv)
  refine ⟨Finset.mem_insert_self _ v, ?_, ?_, ?_⟩
  · rw [Finset.erase_insert hv]
    exact h.lower
  · rw [Finset.erase_insert hv]
    exact h.upper
  · have hholds := h.holds
    rw [owed_of_no_device hv, Finset.union_insert] at hholds
    rwa [Finset.insert_union]

theorem Unopened.covers {v : Finset Resource} {d : Option (Resource → Nat)}
    (h : Unopened U B W E v d) (hout : Descriptors U) (hB : .transport ∈ B) :
    Custody.Covers U (v ∪ E) [.transport, .device] := by
  refine hout.covers (fun r hr => Finset.mem_union_left E ?_) (by simp)
  rcases List.mem_cons.mp hr with rfl | hr
  · exact Finset.mem_of_mem_erase (h.lower hB)
  · obtain rfl := List.mem_singleton.mp hr
    exact h.device

theorem step_open (hout : Descriptors U) (hB : .transport ∈ B) (hW : .deviceSession ∉ W)
    (hE : .deviceSession ∉ E) :
    Step (Unopened U B W E) (ask .openDevice) fun ret v d =>
      if ret = .success then Owns U (insert .device B) (insert .device W) E v d
      else Unopened U B W E v d := by
  refine triple_lift_call fun v d ret d' h hserve => ?_
  have hcovers := h.covers hout hB
  by_cases hret : ret = .success
  · rw [if_pos hret]
    have hfresh : .deviceSession ∉ v ∪ E := by
      rw [Finset.mem_union, not_or]
      exact ⟨fun hv => hW (h.upper (Finset.mem_erase.mpr ⟨by decide, hv⟩)), hE⟩
    refine ⟨?_, ?_, ?_⟩
    · exact Finset.insert_subset h.device (h.lower.trans (Finset.erase_subset _ v))
    · rw [← Finset.insert_erase h.device]
      exact Finset.insert_subset_insert _ h.upper
    · rw [owed_of_device h.device]
      exact h.holds.take hcovers rfl (if_pos hret) hfresh hserve
  · rw [if_neg hret]
    exact ⟨h.device, h.lower, h.upper, h.holds.pass hcovers rfl (if_neg hret) hserve⟩

/-- A device that was not opened is let go. -/
theorem step_release_unopened (hout : Descriptors U) (hB : .transport ∈ B) (hE : .device ∉ E) :
    Step (Unopened U B W E) (safeRelease .device) fun _ => Owns U B W E := by
  refine triple_bind (Q := fun members v d => members = v ∧ Unopened U B W E v d)
    (triple_get fun v d h => ⟨rfl, h⟩) fun members => triple_ite (fun hmem => ?_) fun hnot => ?_
  · refine triple_bind (Q := fun _ v d => B ⊆ v.erase .device ∧ v.erase .device ⊆ W ∧
      Custody.Holds U ((v ∪ E).erase .device) d) ?_ fun _ => triple_modify fun v d h => ?_
    · refine triple_lift_call fun v d reply d' h hserve => ?_
      obtain ⟨-, h⟩ := h
      refine ⟨h.lower, h.upper, h.holds.give (fun r hr => ?_) rfl
        (Finset.mem_union_left E h.device) (hout.not_mem (by decide)) hserve⟩
      obtain rfl := List.mem_singleton.mp hr
      exact h.covers hout hB _ List.mem_cons_self
    · obtain ⟨hlower, hupper, hholds⟩ := h
      refine ⟨hlower, hupper, ?_⟩
      rw [owed_of_no_device (Finset.notMem_erase _ v)]
      rwa [Finset.erase_union_distrib, Finset.erase_eq_of_notMem hE] at hholds
  · rintro v d u a v' d' ⟨rfl, h⟩
    exact absurd h.device hnot

theorem missing_iff {ret : IOReturn} {found : Bool} :
    (ret ≠ .success ∨ !found) ↔ (ret, found) ≠ (.success, true) := by
  cases found <;> simp

theorem step_openDevice (hout : Descriptors U) (hB : Based B) (hW : .device ∉ W)
    (hW' : .deviceSession ∉ W) :
    Step (Owns U B W {.interfaceSession}) openDevice fun res =>
      if res.isNone then Owns U (insert .device B) (insert .device W) {.interfaceSession}
      else Owns U B W {.interfaceSession} := by
  have hcopy := step_take (U := U) (B := B) (W := W) (E := {.interfaceSession})
    (c := .copyDevice .device) (G := fun reply : IOReturn × Bool => reply = (.success, true))
    (hout.covers (by simp [needs, hB.interface]) (by simp [needs])) (fun _ => rfl) (fun _ => rfl)
    hW (by decide) (by decide)
  refine triple_bind hcopy fun reply => ?_
  obtain ⟨ret, found⟩ := reply
  refine triple_ite (fun hmissing => ?_) fun hfound => ?_
  · rw [if_neg (missing_iff.mp hmissing)]
    exact triple_pure fun _ _ h => h
  · rw [if_pos (not_not.mp (mt missing_iff.mpr hfound))]
    refine triple_bind (step_store_device hW) fun _ => ?_
    refine triple_bind (step_open hout hB.transport hW' (by decide)) fun ret => ?_
    refine triple_ite (fun hret => ?_) fun hret => triple_pure fun v d h => ?_
    · simp only [if_neg hret]
      exact triple_bind (step_release_unopened hout hB.transport (by decide))
        fun _ => triple_pure fun _ _ h => h
    · rwa [if_pos (not_not.mp hret)] at h

/-- A device that is a member is closed and let go. -/
theorem step_freeDevice (hout : Descriptors U) (hB : .transport ∈ B) (hW : .deviceSession ∉ W)
    (hE : E ⊆ {.interfaceSession}) :
    Step (Owns U B W E) freeDevice fun _ => Owns U (B.erase .device) (W.erase .device) E := by
  have hsession : .deviceSession ∉ E := fun h => absurd (hE h) (by decide)
  have hdevice : .device ∉ E := fun h => absurd (hE h) (by decide)
  have hB' : .transport ∈ B.erase .device := Finset.mem_erase.mpr ⟨by decide, hB⟩
  refine triple_bind (Q := fun members v d => members = v ∧ Owns U B W E v d)
    (triple_get fun v d h => ⟨rfl, h⟩) fun members => triple_ite (fun hmem => ?_) fun hnot => ?_
  · refine triple_bind (Q := fun _ => Unopened U (B.erase .device) (W.erase .device) E)
      (triple_lift_call fun v d reply d' h hserve => ?_) fun _ =>
        step_release_unopened hout hB' hdevice
    obtain ⟨rfl, h⟩ := h
    have hholds := h.holds
    rw [owed_of_device hmem] at hholds
    have hcovers : Custody.Covers U (insert .deviceSession (members ∪ E))
        [.transport, .device] := by
      refine hout.covers (fun r hr => ?_) (by simp)
      refine Finset.mem_insert_of_mem (Finset.mem_union_left E ?_)
      rcases List.mem_cons.mp hr with rfl | hr
      · exact h.lower hB
      · obtain rfl := List.mem_singleton.mp hr
        exact hmem
    have hfresh : .deviceSession ∉ members ∪ E := by
      rw [Finset.mem_union, not_or]
      exact ⟨fun hv => hW (h.upper hv), hsession⟩
    have hgiven := hholds.give hcovers rfl (Finset.mem_insert_self _ _)
      (hout.not_mem (by decide)) hserve
    rw [Finset.erase_insert hfresh] at hgiven
    exact ⟨hmem, Finset.erase_subset_erase _ h.lower, Finset.erase_subset_erase _ h.upper, hgiven⟩
  · refine triple_pure fun v d h => ?_
    obtain ⟨rfl, h⟩ := h
    refine ⟨(Finset.erase_subset _ B).trans h.lower, fun q hq => ?_, h.holds⟩
    exact Finset.mem_erase.mpr ⟨fun hqr => hnot (hqr ▸ hq), h.upper hq⟩

end Service

end DarwinGpib
