import DarwinGpib.Transfer.BoardRead
import DarwinGpib.Transfer.Operations

/-!
# Reads stay inside their buffers

Whatever the adapter answers, a read of each transport accesses no array out of bounds, stores
no more than it was asked for and reports no more than it may; the reply that `handleRead`
builds then fits its scratch buffer.
-/

namespace DarwinGpib

open Interaction

/-- The program makes no access out of bounds and returns only results satisfying `Q`. -/
abbrev InBounds {α : Type} (p : Usb α) (Q : α → Prop) : Prop :=
  Ensures (· = Usb.Request.overrun) p Q

/-- A read into a buffer of `n` bytes makes no access out of bounds, stores at most `n` bytes and
reports at most `n`. -/
def ReadInBounds (n : Nat) (p : Usb ReadResult) : Prop :=
  InBounds p fun r => r.buf.length ≤ n ∧ r.bytesRead ≤ n

/-! ## Through the board and the user client -/

/-- The reply of a read fits the scratch buffer it is built in, and carries exactly the bytes
it reports. -/
def ReadReplyFits (requestCount : Nat) : DriverReply → Prop
  | .read s _ data finalLen =>
      finalLen = UserClient.sizeofReadOut + s.ibcnt ∧
        finalLen ≤ UserClient.scratchSize requestCount ∧ data.length = s.ibcnt
  | _ => False

section Board

variable {τ : Type} {T : IGPIBTransport (StateT τ Usb)}

/-- A transport whose operations stay in bounds. -/
abbrev TransportInBounds (T : IGPIBTransport (StateT τ Usb)) : Prop :=
  TransportEnsures (· = Usb.Request.overrun) (fun _ _ => True)
    (fun n r => r.buf.length ≤ n ∧ r.bytesRead ≤ n) T

/-- The reply of `handleRead` fits, over every transport that stays in bounds. -/
theorem handleRead_fits (hT : TransportInBounds T) (b : GPIBBoard) (handle : Int) (n : Nat) :
    StateEnsures (· = Usb.Request.overrun) (UserClient.handleRead T b handle n)
      fun r => ReadReplyFits n r.1 := by
  unfold UserClient.handleRead GPIBBoard.onBus
  refine stateEnsures_bind (P := fun r => ReadOutcome
    (fun r => r.buf.length ≤ UserClient.clampedRequest n ∧
      r.bytesRead ≤ UserClient.clampedRequest n) r.1) ?_ ?_
  · exact stateEnsures_bind (stateEnsures_read hT (fun _ _ => trivial) _ _)
      fun r hr => stateEnsures_pure hr
  · rintro ⟨r, b'⟩ houtcome
    obtain ⟨hdata, hcnt⟩ : r.data.length ≤ UserClient.clampedRequest n ∧
        r.ibcnt ≤ UserClient.clampedRequest n := by
      rcases houtcome with ⟨-, hcnt, hdata⟩ | ⟨rr, ⟨hbuf, hbytes⟩, hdata, hcnt, -, -⟩
      · simp only at hcnt hdata
        rw [hdata, hcnt]
        exact ⟨Nat.zero_le _, Nat.zero_le _⟩
      · simp only at hcnt hdata
        rw [hdata, hcnt]
        exact ⟨hbuf, hbytes⟩
    refine stateEnsures_pure ⟨rfl, Nat.add_le_add_left hcnt _, ?_⟩
    rw [List.length_take, List.length_append, List.length_replicate]
    omega

end Board

/-- Whatever the adapter sends, no read of any transport leaves its buffers, and the reply
`handleRead` builds from it fits the scratch buffer. -/
theorem read_never_overruns :
    (∀ (t : NIUSBTransport) n c f us, ReadInBounds n (t.readData n c f us)) ∧
    (∀ (t : Agilent82357Transport) n c f us, ReadInBounds n (t.readData n c f us)) ∧
    (∀ fuel (t : KUSB488BTransport) n c f us,
      ReadInBounds n (KUSB488BTransport.readData fuel t n c f us)) ∧
    (∀ b handle n t,
      InBounds ((UserClient.handleRead NIUSBTransport.asTransport b handle n).run t)
        fun r => ReadReplyFits n r.1.1) ∧
    (∀ b handle n t,
      InBounds ((UserClient.handleRead Agilent82357Transport.asTransport b handle n).run t)
        fun r => ReadReplyFits n r.1.1) ∧
    ∀ fuel b handle n t,
      InBounds ((UserClient.handleRead (KUSB488BTransport.asTransport fuel) b handle n).run t)
        fun r => ReadReplyFits n r.1.1 :=
  ⟨fun t n _ _ _ => t.ensures_readData (Usb.onlyBad_overrun _) n fun _ => by simp,
    fun t n _ f _ => t.ensures_readData (Usb.onlyBad_overrun _) n f fun _ => by simp,
    fun fuel t n _ _ _ =>
      KUSB488BTransport.ensures_readData (Usb.onlyBad_overrun _) fuel t n (by simp),
    handleRead_fits (NIUSBTransport.transportEnsures (Usb.onlyBad_overrun _) (by simp)),
    handleRead_fits (Agilent82357Transport.transportEnsures (Usb.onlyBad_overrun _) (by simp)),
    fun fuel =>
      handleRead_fits (KUSB488BTransport.transportEnsures (Usb.onlyBad_overrun _) (by simp) fuel)⟩

end DarwinGpib
