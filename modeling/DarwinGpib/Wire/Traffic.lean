import DarwinGpib.Client.PublicOperations
import DarwinGpib.Wire.Refinement

/-!
# Whatever bytes arrive

No client is trusted: a message may name any board and any selector and carry any bytes. Behind
the broker, its second try at a stale connection included, it makes its board perform the public
operation that it spells, once, or nothing at all.
-/

namespace DarwinGpib

open Interaction UserClient Behaviour
open Libgpib

/-! ## One message -/

/-- The operation that a message spells for a board. -/
def Gpibd.Message.opOn (m : Gpibd.Message) (i : Int32) : Option BoardOp :=
  if m.outcap.toNat ≤ Gpibd.maxOut ∧ m.op ≠ Gpibd.opListBoards ∧ m.op ≠ Gpibd.opProbe ∧
      m.board.toUInt32.toInt32 = i then
    ((Selector.ofCode m.op.toUInt32.toNat).bind fun s => request s (m.input.getD [])).map
      DriverCall.op
  else none

/-- What is documented of IOKit and any call: the input is passed on as it is or not inline, and
what the driver has taken does not come back as a call on a dead connection. -/
structure Kernel.Reliable (k : Kernel) : Prop where
  delivered : ∀ input cap, ∀ bs ∈ (k.deliver input cap).structureInput, bs = input
  alive : ∀ out cap, Gpibd.connectionIsDead (k.collect ⟨0, some out⟩ cap).1 = false

namespace Libgpib

variable {k : Kernel} {d d' : Bench} {i : Int32} {m : Gpibd.Message}

/-- A board performs an operation. -/
inductive Bench.Performs (d : Bench) (i : Int32) (op : BoardOp) : Bench → Prop where
  | mk {calls result b' bus'} (hperforms : (d.board i).Performs ⟨op, calls, result⟩ b')
      (hbus : Serves (Logging BusReacts) (d.bus i) calls bus') :
      Performs d i op ⟨Function.update d.board i b', Function.update d.bus i bus'⟩

/-- What a user client makes of any input: it dispatches the call that the input spells, or
nothing. -/
theorem run_externalMethod_any {base : Super} {b : GPIBBoard} {fuel selector : Nat}
    {args : Arguments} {u : BoardTrace} {result : Result} {b' : GPIBBoard}
    (hrun : Run (externalMethod anyTransport anyUptime fuel base (some b) selector args) u
      (some (result, some b'))) :
    (u = [] ∧ b' = b) ∨
      ∃ c out, ((Selector.ofCode selector).bind fun s => args.structureInput.bind (request s)) =
          some c ∧
        Run (dispatch anyTransport b anyUptime fuel c) u (some (out, b')) ∧
        result = ⟨0, some out.output⟩ := by
  unfold externalMethod at hrun
  cases hs : Selector.ofCode selector with
  | none =>
      rw [hs] at hrun
      obtain ⟨rfl, heq⟩ := run_pure_iff.mp hrun
      cases heq
      exact .inl ⟨rfl, rfl⟩
  | some s =>
      rw [hs] at hrun
      cases hrefuses : base.refuses (externalMethodChecks s) args with
      | some kr =>
          simp only [hrefuses] at hrun
          obtain ⟨rfl, heq⟩ := run_pure_iff.mp hrun
          cases heq
          exact .inl ⟨rfl, rfl⟩
      | none =>
          simp only [hrefuses, dispatchMethod] at hrun
          cases hc : args.structureInput.bind (request s) with
          | none =>
              rw [hc] at hrun
              obtain ⟨rfl, heq⟩ := run_pure_iff.mp hrun
              cases heq
              exact .inl ⟨rfl, rfl⟩
          | some c =>
              rw [hc] at hrun
              obtain ⟨v, o, w, rfl, hv, hw⟩ := run_bind_iff.mp hrun
              obtain ⟨rfl, heq⟩ := run_pure_iff.mp hw
              obtain ⟨⟨out, b₁⟩, rfl, heq⟩ := Option.map_eq_some_iff.mp heq.symm
              cases heq
              rw [List.append_nil]
              exact .inr ⟨c, out, hc, hv, rfl⟩

/-- One driver call with any input. -/
theorem performs_of_carries (hk : k.Reliable) {selector : UInt32} {input : List UInt8} {cap : Nat}
    {r : Int32 × List UInt8}
    (h : Bench.Carries k d ⟨.callStructMethod i selector input cap, r⟩ d') :
    d' = d ∨ Gpibd.connectionIsDead r.1 = false ∧
      ∃ op, ((Selector.ofCode selector.toNat).bind fun s => request s input).map DriverCall.op =
        some op ∧ d.Performs i op d' := by
  cases h with
  | failed _ => exact .inl rfl
  | taken hrun hbounds hbus =>
      rcases run_externalMethod_any hrun with ⟨rfl, rfl⟩ | ⟨c, out, hc, hdispatch, rfl⟩
      · cases hbus
        simp
      · obtain ⟨res, hperforms, -⟩ := performs_of_dispatch hdispatch
        refine .inr ⟨hk.alive _ _, c.op, ?_, .mk hperforms hbus⟩
        obtain ⟨s, hs, hrequest⟩ := Option.bind_eq_some_iff.mp hc
        obtain ⟨bs, hbs, hread⟩ := Option.bind_eq_some_iff.mp hrequest
        obtain rfl := hk.delivered _ _ bs hbs
        rw [hs, Option.bind_some, hread, Option.map_some]

/-- What a message brings about. -/
inductive Undergoes (m : Gpibd.Message) (d : Bench) : Bench → Prop where
  | nothing : Undergoes m d d
  | performed {i op d'} (hop : m.opOn i = some op) (hperforms : d.Performs i op d') :
      Undergoes m d d'

/-- The second try at a stale connection is the first that reaches the board. -/
theorem undergoes_callWithRetry (hk : k.Reliable) (hcap : m.outcap.toNat ≤ Gpibd.maxOut)
    (hlist : m.op ≠ Gpibd.opListBoards) (hprobe : m.op ≠ Gpibd.opProbe) (cap : Nat) :
    Meets (Bench.Carries k) (· = d)
      (Gpibd.callWithRetry m.board.toUInt32.toInt32 m.op.toUInt32 (m.input.getD []) cap)
      fun _ x => Undergoes m d x := by
  have hcall : Meets (Bench.Carries k) (· = d)
      (Program.call (Gpibd.BrokerOp.callStructMethod m.board.toUInt32.toInt32 m.op.toUInt32
        (m.input.getD []) cap)) fun (r : Int32 × List UInt8) x =>
        Undergoes m d x ∧ (Gpibd.connectionIsDead r.1 = true → x = d) := by
    apply meets_call
    rintro d r d' rfl h
    rcases performs_of_carries hk h with rfl | ⟨halive, op, hop, hperforms⟩
    · exact ⟨.nothing, fun _ => rfl⟩
    · have hopOn : m.opOn m.board.toUInt32.toInt32 = some op := by
        rw [Gpibd.Message.opOn, if_pos ⟨hcap, hlist, hprobe, rfl⟩, hop]
      refine ⟨.performed hopOn hperforms, fun hdead => ?_⟩
      rw [halive] at hdead
      cases hdead
  have hdrop (r : Int32 × List UInt8) : Meets (Bench.Carries k)
      (fun x => Undergoes m d x ∧ (Gpibd.connectionIsDead r.1 = true → x = d))
      (Gpibd.dropIfDead m.board.toUInt32.toInt32 r.1 >>= fun _ => pure r)
      fun _ x => Undergoes m d x :=
    meets_bind (quiet_dropIfDead r.1 _) fun _ => meets_pure fun _ h => h.1
  unfold Gpibd.callWithRetry
  refine meets_bind hcall fun first => ?_
  apply meets_ite
  · intro _
    exact meets_pure fun _ h => h.1
  intro hdead
  have hstale : Gpibd.connectionIsDead first.1 = true := by simpa using hdead
  refine meets_bind (quiet_call (by simp) _) fun _ => ?_
  refine meets_bind (quiet_call (by simp) _) fun rc => ?_
  apply meets_ite
  · intro _
    exact hdrop first
  · intro _
    have hagain : Meets (Bench.Carries k) (· = d) _ _ := meets_bind hcall hdrop
    exact hagain.conseq (fun x h => h.2 hstale) fun _ _ h => h

/-- Whatever a message holds, one operation at most is performed for it, and it is the one that the
message spells. -/
theorem undergoes_handleRequest (hk : k.Reliable) (m : Gpibd.Message) :
    Meets (Bench.Carries k) (· = d) (Gpibd.handleRequest m) fun _ x => Undergoes m d x := by
  have hnothing (a : Gpibd.Answer) : Meets (Bench.Carries k) (· = d) (pure a)
      fun _ x => Undergoes m d x :=
    meets_pure fun x h => h ▸ .nothing
  unfold Gpibd.handleRequest
  apply meets_ite
  · intro _
    exact hnothing _
  intro hcap
  apply meets_ite
  · intro _
    exact meets_bind (quiet_call (by simp) _) fun _ => hnothing _
  intro hlist
  refine meets_bind (quiet_call (by simp) _) fun (rc : Int64) => ?_
  apply meets_ite
  · intro _
    exact hnothing _
  intro _
  apply meets_ite
  · intro _
    exact hnothing _
  intro hprobe
  refine meets_bind (undergoes_callWithRetry hk (not_lt.mp hcap) hlist hprobe _) fun r => ?_
  exact meets_bind (quiet_trackDescriptor _ _ _ _) fun _ => meets_pure fun _ h => h

/-! ## Any traffic -/

theorem Bench.Handles.undergoes (hk : k.Reliable)
    {e : Exchange fun _ : Gpibd.Message => Option Gpibd.Answer} (h : Bench.Handles k d e d') :
    Undergoes e.request d d' := by
  cases h with
  | lost => exact .nothing
  | handled hrun hserves => exact undergoes_handleRequest hk _ d _ _ _ rfl hrun hserves

/-- The history of a board goes on with what the message spells for it, or not at all. -/
theorem Undergoes.history (h : Undergoes m d d') (i : Int32)
    {past : List (GPIBBoard × GPIBBoard.Event)} (hpast : BoardHistory past (d.board i)) :
    ∃ recent, BoardHistory (recent ++ past) (d'.board i) ∧
      (recent.map fun e => e.2.op).reverse.Sublist (m.opOn i).toList := by
  cases h with
  | nothing => exact ⟨[], hpast, List.nil_sublist _⟩
  | @performed j op _ hop hperforms =>
      obtain @⟨calls, result, b', bus', hboard, -⟩ := hperforms
      by_cases hij : i = j
      · subst hij
        have hnext : BoardHistory ((d.board i, ⟨op, calls, result⟩) :: past) b' :=
          .step hpast hboard
        refine ⟨[(d.board i, ⟨op, calls, result⟩)], ?_, ?_⟩
        · simpa using hnext
        · simp [hop]
      · refine ⟨[], ?_, List.nil_sublist _⟩
        simpa [Function.update_of_ne hij] using hpast

/-- The operations that messages spell for a board, in order. -/
def opsOn (i : Int32) (u : Trace fun _ : Gpibd.Message => Option Gpibd.Answer) : List BoardOp :=
  u.flatMap fun e => (Gpibd.Message.opOn e.request i).toList

/-- Whatever messages arrive, each board goes on with its history, and the operations that it has
performed since are some of those that the messages spell for it, in their order and each once. -/
theorem boards_perform_messages (hk : k.Reliable)
    {u : Trace fun _ : Gpibd.Message => Option Gpibd.Answer}
    (hserves : Serves (Bench.Handles k) d u d') (i : Int32)
    {past : List (GPIBBoard × GPIBBoard.Event)} (hpast : BoardHistory past (d.board i)) :
    ∃ recent, BoardHistory (recent ++ past) (d'.board i) ∧
      (recent.map fun e => e.2.op).reverse.Sublist (opsOn i u) := by
  induction hserves generalizing past with
  | nil d => exact ⟨[], hpast, List.nil_sublist _⟩
  | @cons d e d₁ u d' hstep hrest ih =>
      obtain ⟨recent₁, hpast₁, hsub₁⟩ := (hstep.undergoes hk).history i hpast
      obtain ⟨recent₂, hpast₂, hsub₂⟩ := ih hpast₁
      refine ⟨recent₂ ++ recent₁, ?_, ?_⟩
      · rwa [List.append_assoc]
      · rw [List.map_append, List.reverse_append]
        exact hsub₁.append hsub₂

/-! ## A message with noise in it, and one for a stale connection -/

theorem reliable_directKernel : directKernel.Reliable where
  delivered input cap bs h := by
    cases h
    rfl
  alive _ _ := rfl

def freshBench : Bench := ⟨fun _ => .init, fun _ => (.clear, [])⟩

/-- A write of two bytes on handle 9, with a third byte behind them and with noise in the high
halves of `op` and `board`. -/
def noisyWrite : Gpibd.Message where
  op := 0x300000004
  board := 0x700000000
  input := some (Wire.WriteIn.layout.encode ⟨9, 1, 2, 0⟩ ++ [0x41, 0x42, 0x43])
  outcap := 16

def refusedOutput : List UInt8 := (DriverReply.counted ⟨⟨Ibsta.err, Iberr.earg⟩, 0⟩).output

def refusedBoard : GPIBBoard := { GPIBBoard.init with state.ibsta := Ibsta.err }

def refusedBench : Bench where
  board := Function.update freshBench.board 0 refusedBoard
  bus := Function.update freshBench.bus 0 (.clear, [])

def refusedReply : (q : Gpibd.BrokerOp) → Option q.Reply
  | .connectionForBoard _ => some (0 : Int64)
  | .callStructMethod _ _ _ _ => some ((0, refusedOutput) : Int32 × List UInt8)
  | _ => none

theorem handles_noisyWrite :
    Bench.Handles directKernel freshBench ⟨noisyWrite, some ⟨0, some refusedOutput, none⟩⟩
      refusedBench := by
  have hcall : Bench.Carries directKernel freshBench
      ⟨.callStructMethod 0 4 (noisyWrite.input.getD []) 16,
        directKernel.collect ⟨0, some refusedOutput⟩ 16⟩ refusedBench := by
    have hrun : Run (externalMethod anyTransport anyUptime 0 directKernel.base
        (some (freshBench.board 0)) 4 (directKernel.deliver (noisyWrite.input.getD []) 16)) []
        (some (⟨0, some refusedOutput⟩, some refusedBoard)) := .pure _
    exact .taken hrun (by simp) (.nil _)
  exact .handled (run_of_follow refusedReply rfl)
    (.cons (.connectionForBoard (by decide)) (.cons hcall (.nil _)))

/-- A device clear on handle 9, as the library sends it. -/
def clearMessage : Gpibd.Message := callMessage 0 (.deviceClear 9)

def clearOutput : List UInt8 := (DriverReply.status ⟨Ibsta.err, Iberr.earg⟩).output

def clearBench : Bench where
  board := Function.update refusedBench.board 0 refusedBoard
  bus := Function.update refusedBench.bus 0 (.clear, [])

/-- The connection is stale, and `handle_request` calls again. -/
theorem handles_clearMessage :
    Bench.Handles directKernel refusedBench ⟨clearMessage, some ⟨0, some clearOutput, none⟩⟩
      clearBench := by
  have hcall : Bench.Carries directKernel refusedBench
      ⟨.callStructMethod 0 6 (clearMessage.input.getD []) 16,
        directKernel.collect ⟨0, some clearOutput⟩ 16⟩ clearBench := by
    have hrun : Run (externalMethod anyTransport anyUptime 0 directKernel.base
        (some (refusedBench.board 0)) 6 (directKernel.deliver (clearMessage.input.getD []) 16)) []
        (some (⟨0, some clearOutput⟩, some refusedBoard)) := .pure _
    exact .taken hrun (by simp) (.nil _)
  have hstale : Bench.Carries directKernel refusedBench
      ⟨.callStructMethod 0 6 (clearMessage.input.getD []) 16,
        ((machSendInvalidDest, []) : Int32 × List UInt8)⟩ refusedBench :=
    .failed (by decide)
  have hrun : Run (Gpibd.handleRequest clearMessage)
      [⟨.connectionForBoard 0, (0 : Int64)⟩,
        ⟨.callStructMethod 0 6 (clearMessage.input.getD []) 16,
          ((machSendInvalidDest, []) : Int32 × List UInt8)⟩,
        ⟨.dropBoard 0, ()⟩, ⟨.connectionForBoard 0, (0 : Int64)⟩,
        ⟨.callStructMethod 0 6 (clearMessage.input.getD []) 16,
          ((0, clearOutput) : Int32 × List UInt8)⟩]
      ⟨0, some clearOutput, none⟩ :=
    .ask (.ask (.ask (.ask (.ask (.pure _)))))
  exact .handled hrun (.cons (.connectionForBoard (by decide)) (.cons hstale
    (.cons .dropBoard (.cons (.connectionForBoard (by decide)) (.cons hcall (.nil _))))))

theorem boards_perform_noisyWrite :
    ∃ recent, BoardHistory (recent ++ []) (clearBench.board 0) ∧
      (recent.map fun e => e.2.op).reverse.Sublist
        [.write 9 [0x41, 0x42] true, .deviceClear 9] :=
  boards_perform_messages reliable_directKernel
    (.cons handles_noisyWrite (.cons handles_clearMessage (.nil _))) 0 (.start rfl)

end Libgpib

end DarwinGpib
