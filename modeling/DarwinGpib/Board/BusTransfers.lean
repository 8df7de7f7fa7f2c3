import DarwinGpib.Board.Requests
import DarwinGpib.Library.Blocks
import Mathlib.Data.Finset.Option

/-!
# Data on the bus

The data phases in the log of a bus: who listens, and which bytes go out with or without EOI. An
operation that succeeds in writing makes exactly one.
-/

namespace DarwinGpib

open Blocks Interaction Ieee488

/-- A data phase: the devices that listen, and the bytes they hear. -/
structure BusTransfer where
  listeners : Finset Address
  stream : List (UInt8 × Bool)
  deriving DecidableEq

def transferOf : Addressing × BoardRequest → Option BusTransfer
  | (s, .writeData buf sendEoi _) => some ⟨s.listeners, framed sendEoi buf⟩
  | _ => none

/-- The data phases in a log, earliest first. -/
def transfers (log : Log Addressing BoardRequest) : List BusTransfer :=
  log.reverse.filterMap transferOf

theorem transfers_cons (e : Addressing × BoardRequest) (log : Log Addressing BoardRequest) :
    transfers (e :: log) = transfers log ++ (transferOf e).toList := by
  cases h : transferOf e <;> simp [transfers, h]

theorem transfers_append (later earlier : Log Addressing BoardRequest) :
    transfers (later ++ earlier) = transfers earlier ++ transfers later := by
  rw [transfers, transfers, transfers, List.reverse_append, List.filterMap_append]

/-! ## Operations without data -/

/-- Requests other than those that put data on the bus. -/
def WithoutData : Addressing → BoardRequest → Prop
  | _, .writeData _ _ _ => False
  | _, _ => True

theorem allowsQuiet_withoutData : AllowsQuiet WithoutData := by
  intro t req hreq
  cases req <;> trivial

theorem allows_withoutData (cmds : List UInt8) : Allows WithoutData cmds :=
  fun _ => trivial

theorem transferOf_withoutData {e : Addressing × BoardRequest} (h : WithoutData e.1 e.2) :
    transferOf e = none := by
  obtain ⟨s, req⟩ := e
  cases req <;> first | rfl | exact h.elim

section Operations

variable {α : Type} {earlier : List BusTransfer}

/-- The data phases of a bus are those of `earlier`, and it is addressed as `P` says. -/
def HasCarried (earlier : List BusTransfer) (P : Addressing → Prop)
    (x : Addressing × Log Addressing BoardRequest) : Prop :=
  P x.1 ∧ transfers x.2 = earlier

/-- Requests without data add no data phase. -/
theorem meets_of_aims {p : BoardCalls α} {Q : α → Addressing → Prop}
    (h : Aims WithoutData Anyhow p Q) :
    Meets (Logging BusReacts) (HasCarried earlier Anyhow) p fun a => HasCarried earlier (Q a) := by
  rintro ⟨s, log⟩ u a ⟨s', log'⟩ ⟨-, rfl⟩ hrun hserves
  obtain ⟨later, rfl, hown⟩ := serves_logging_append (l := []) hserves
  obtain ⟨hQ, hlog⟩ := h (s, []) u a (s', later) ⟨trivial, by simp⟩ hrun hown
  refine ⟨hQ, ?_⟩
  have hnone : transfers later = [] := by
    rw [transfers, List.filterMap_eq_nil_iff]
    exact fun e he => transferOf_withoutData (hlog e (List.mem_reverse.mp he))
  rw [transfers_append, hnone, List.append_nil]

/-- A write that succeeded has made one data phase, with what its descriptor addresses. -/
def WriteMade (earlier : List BusTransfer) (desc : Option GPIBDescriptor) (boardPAD : UInt8)
    (buf : List UInt8) (sendEoi : Bool) (status : Status)
    (x : Addressing × Log Addressing BoardRequest) : Prop :=
  status.ibsta &&& Ibsta.err = 0 → ∃ d t, desc = some d ∧
    Addressed (BoardState.writeCommands boardPAD d.pad d.sad) t ∧
      transfers x.2 = earlier ++ [⟨t.listeners, framed (sendEoi && d.eot) buf⟩]

theorem meets_write {desc : Option GPIBDescriptor} {buf : List UInt8} {sendEoi : Bool}
    {s : BoardState} :
    Meets (Logging BusReacts) (HasCarried earlier Anyhow)
      (BoardState.write anyTransport desc buf sendEoi s)
      fun r => WriteMade earlier desc s.boardPAD buf sendEoi r.1.toStatus := by
  have hfail {a : CountStatus × BoardState} {P : Addressing × Log Addressing BoardRequest → Prop}
      (ha : a.1.ibsta &&& Ibsta.err ≠ 0) :
      Meets (Logging BusReacts) P (pure a)
        fun r => WriteMade earlier desc s.boardPAD buf sendEoi r.1.toStatus :=
    meets_pure fun _ _ hok => absurd hok ha
  have herr : Ibsta.err &&& Ibsta.err ≠ 0 := by decide
  unfold BoardState.write
  cases desc with
  | none => exact hfail herr
  | some d =>
      refine meets_ite (fun _ => hfail herr) fun _ => ?_
      refine meets_ite (fun _ => hfail herr) fun _ => ?_
      refine meets_bind (meets_of_aims (aims_addressWithRecovery allowsQuiet_withoutData
        (allows_withoutData _) (aims_sendAddressing (allows_withoutData _)))) fun r => ?_
      obtain ⟨failure, s'⟩ := r
      cases failure with
      | some status => exact hfail herr
      | none =>
          refine meets_bind (Q := fun _ x => ∃ t,
            Addressed (BoardState.writeCommands s.boardPAD d.pad d.sad) t ∧
              transfers x.2 = earlier ++ [⟨t.listeners, framed (sendEoi && d.eot) buf⟩])
            (meets_call (i := BoardRequest.writeData buf (sendEoi && d.eot) d.timeoutUs) ?_)
            fun r => ?_
          · rintro ⟨t, log⟩ r ⟨t', log'⟩ ⟨haddressed, rfl⟩ ⟨-, rfl⟩
            exact ⟨t, haddressed rfl, transfers_cons _ _⟩
          · refine meets_ite (fun _ => hfail errIbsta_and_err) fun _ => meets_pure fun x h _ => ?_
            obtain ⟨t, haddressed, hcarried⟩ := h
            exact ⟨d, t, rfl, haddressed, hcarried⟩

end Operations

end DarwinGpib
