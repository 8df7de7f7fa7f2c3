import DarwinGpib.Client.Lookup

/-!
# Library calls that go well

What a library call does when the broker and the driver do what they are asked.
-/

namespace DarwinGpib

open Interaction

namespace Libgpib

/-- The broker and the driver do what they are asked: boards are found, descriptors are opened,
and writes report no error. -/
def Succeeds : Exchange BrokerCall.Reply → Prop
  | ⟨.probe _, (kr : Int64)⟩ => kr = 0
  | ⟨.call _ (.openDescriptor _), (reply : CallReply)⟩ =>
      reply.kr.toInt32 = 0 ∧ 0 ≤ (openDescriptorOut reply.out).1
  | ⟨.call _ (.write _ _ _), (reply : CallReply)⟩ =>
      reply.kr.toInt32 = 0 ∧ (writeOut reply.out).ibsta &&& Ibsta.err = 0
  | ⟨.call _ _, (reply : CallReply)⟩ => reply.kr.toInt32 = 0

theorem Succeeds.kr_eq {conn : Int32} {c : DriverCall} {reply : CallReply}
    (h : Succeeds ⟨.call conn c, reply⟩) : reply.kr.toInt32 = 0 := by
  cases c <;> first | exact h.1 | exact h

section Calls

variable {δ α : Type} {serve : δ → Exchange BrokerCall.Reply → δ → Prop} {i : Int32}
  {P : Process → δ → Prop} {Q : α → Process → δ → Prop}

variable (hserve : ∀ d e d', serve d e d' → Succeeds e)

include hserve

theorem goingWell_callStruct (conn : Int32) (c : DriverCall) :
    Triple serve P (callStruct conn c) fun r _ _ =>
      r.1 = kernSuccess ∧ ∃ reply : CallReply, r.2 = reply.out ∧
        Succeeds ⟨.call conn c, reply⟩ := by
  apply triple_callStruct
  · rintro reply kr p p' d d' - hne - - h
    exact absurd (hserve _ _ _ h).kr_eq hne
  · rintro reply p d d' - - h
    exact ⟨rfl, reply, rfl, hserve _ _ _ h⟩

theorem goingWell_connForBoard (j : Int32) :
    Triple serve P (connForBoard j) fun conn _ _ => conn.isSome = inRange j :=
  triple_connForBoard_isSome (fun _ _ _ _ h => hserve _ _ _ h) j

/-- What is left of a lookup whose board is found. -/
theorem goingWell_found {f : Option Int32 → Lib α} (hi : inRange i = true)
    (hP : Triple serve P (connForBoard i) fun _ => P)
    (hf : ∀ c, Triple serve P (f (some c)) Q) : Triple serve P (connForBoard i >>= f) Q := by
  have hfound := goingWell_connForBoard hserve (P := P) i
  refine triple_bind ((hfound.and hP).conseq (fun _ _ h => ⟨h, h⟩) fun _ _ _ h => h)
    fun conn => triple_of_pre fun hsome => ?_
  rw [hi] at hsome
  obtain ⟨c, rfl⟩ := Option.isSome_iff_exists.mp hsome
  exact hf c

/-- A descriptor that is opened has a handle. -/
theorem goingWell_openDescriptor {f : Int32 × Option DriverReply → Lib α} {conn : Int32}
    {o : OpenDescriptorIn} (hf : ∀ out, 0 ≤ (openDescriptorOut out).1 →
      Triple serve P (f (kernSuccess, out)) Q)
    (hP : Triple serve P (callStruct conn (.openDescriptor o)) fun _ => P) :
    Triple serve P (callStruct conn (.openDescriptor o) >>= f) Q := by
  have hcall := goingWell_callStruct hserve (P := P) conn (.openDescriptor o)
  refine triple_bind ((hcall.and hP).conseq (fun _ _ h => ⟨h, h⟩) fun _ _ _ h => h) ?_
  rintro ⟨kr, out⟩
  apply triple_of_pre
  rintro ⟨rfl, reply, rfl, hopened⟩
  exact hf reply.out hopened.2

theorem goingWell_openBoard (hi : inRange i = true) :
    Triple serve P (openBoard i) fun h _ _ => 0 ≤ h := by
  refine Triple.conseq (P := fun _ _ => True) ?_ (fun _ _ _ => trivial) fun _ _ _ h => h
  unfold openBoard
  refine goingWell_found hserve hi (triple_trivial _) fun c => ?_
  refine triple_bind (goingWell_callStruct hserve c (.boardOnline 1)) ?_
  rintro ⟨kr, out⟩
  apply triple_of_pre
  rintro rfl
  refine Triple.conseq (P := fun _ _ => True) ?_ (fun _ _ _ => trivial) fun _ _ _ h => h
  refine goingWell_openDescriptor hserve (fun out hout => ?_) (triple_trivial _)
  refine triple_ite (fun hkr => absurd rfl hkr) fun _ => ?_
  refine triple_ite (fun hneg => absurd hneg (Int32.not_lt.mpr hout)) fun _ => ?_
  exact triple_bind (Q := fun _ _ _ => True) (triple_trivial _) fun _ =>
    triple_pure fun _ _ _ => hout

/-- The board's own descriptor is found, or opened. -/
theorem goingWell_boardHandle (hi : inRange i = true) :
    Triple serve P (boardHandle i) fun h _ _ => 0 ≤ h := by
  refine triple_boardHandle (fun _ _ hout _ => ?_) (fun _ _ hle _ => hle)
    fun _ => goingWell_openBoard hserve hi
  rw [hi] at hout
  cases hout

/-- A descriptor for a device of a board is opened. -/
theorem goingWell_ibdev (hi : inRange i = true) (pad sad timo sendEoi eosmode : Int32) :
    Triple serve P (ibdev i pad sad timo sendEoi eosmode) fun ud _ _ => 0 ≤ ud := by
  refine Triple.conseq (P := fun _ _ => True) ?_ (fun _ _ _ => trivial) fun _ _ _ h => h
  unfold ibdev
  refine triple_bind (goingWell_boardHandle hserve hi) fun h => ?_
  refine triple_ite (fun hneg => ?_) fun _ => ?_
  · exact fun p d u a p' d' hle => absurd hneg (Int32.not_lt.mpr hle)
  refine Triple.conseq (P := fun _ _ => True) ?_ (fun _ _ _ => trivial) fun _ _ _ h => h
  refine goingWell_found hserve hi (triple_trivial _) fun c => ?_
  refine goingWell_openDescriptor hserve (fun out hout => ?_) (triple_trivial _)
  refine triple_ite (fun hkr => absurd rfl hkr) fun _ => ?_
  refine triple_ite (fun hneg => absurd hneg (Int32.not_lt.mpr hout)) fun _ => ?_
  exact triple_bind (Q := fun _ _ _ => True) (triple_trivial _) fun _ =>
    triple_pure fun _ _ _ => Int32.not_lt.mp (makeUd_not_neg _ _)

end Calls

end Libgpib

end DarwinGpib
