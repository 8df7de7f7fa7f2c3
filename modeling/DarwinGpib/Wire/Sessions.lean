import DarwinGpib.Broker.Waiting
import DarwinGpib.Wire.Refinement

/-!
# Sessions in bytes

What `handle_request` writes down about a descriptor, and what `session_reap` does with the
list: its driver calls offer no room for the status that `CloseDescriptor` returns.
-/

namespace DarwinGpib

open Interaction UserClient Libgpib

namespace Libgpib

variable {k : Kernel} {d d' : Bench} {i : Int32}

/-! ## Reaping -/

/-- A driver call that comes back with an error. -/
def CallFails (e : Exchange Gpibd.BrokerOp.Reply) : Prop :=
  ∀ i selector input cap, ∀ r : Int32 × List UInt8,
    e = ⟨.callStructMethod i selector input cap, r⟩ → r.1 ≠ 0

/-- A call whose sizes are not those of its entry. -/
theorem refused_of_carries (hk : k.Documented) {s : Selector} {input : List UInt8} {cap : Nat}
    {r : Int32 × List UInt8} (hadmits : ¬ (externalMethodChecks s).Admits input.length cap)
    (hinput : input.length ≤ inlineSize) (hcap : cap ≤ inlineSize)
    (h : Bench.Carries k d ⟨.callStructMethod i (UInt32.ofNat s.code) input cap, r⟩ d') :
    r.1 ≠ 0 ∧ d' = d := by
  obtain ⟨kr, hkr⟩ := Option.isSome_iff_exists.mp ((hk.refuses_iff _ _ _).mpr hadmits)
  have hcode : (UInt32.ofNat s.code).toNat = s.code := by cases s <;> rfl
  cases h with
  | failed hr => exact ⟨hr, rfl⟩
  | taken hrun hbounds hbus =>
      simp only [hk.inline _ _ hinput hcap, externalMethod, hcode, Selector.ofCode_code, hkr] at hrun
      obtain ⟨rfl, heq⟩ := run_pure_iff.mp hrun
      cases heq
      cases hbus
      exact ⟨hk.failed _ _ (hk.refused _ _ _ hkr), by simp⟩

/-- `session_reap` offers no room for the status that a close returns. -/
theorem close_not_admitted (handle : Int32) :
    ¬ (externalMethodChecks .closeDescriptor).Admits
      (Wire.HandleIn.layout.encode ⟨handle, 0⟩).length 0 :=
  fun hadmits => Gpibd.not_admitsOutput_close handle.toInt hadmits.2

theorem reapClose_refused (hk : k.Documented) {handle : Int32}
    {u : Trace Gpibd.BrokerOp.Reply} (hrun : Run (Gpibd.reapClose i handle) u ())
    (hserves : Serves (Bench.Carries k) d u d') : d' = d ∧ ∀ e ∈ u, CallFails e := by
  obtain ⟨rc, v, rfl, hv⟩ := run_call_bind_iff.mp hrun
  obtain ⟨d₁, hconn, hrest⟩ := serves_cons_iff.mp hserves
  obtain rfl := hconn.quiet (by simp)
  have hquiet : CallFails ⟨.connectionForBoard i, rc⟩ := by
    intro _ _ _ _ _ h
    cases h
  split_ifs at hv with hrc
  · obtain ⟨rfl, -⟩ := run_pure_iff.mp hv
    exact ⟨serves_nil_iff.mp hrest, by simpa using hquiet⟩
  · obtain ⟨r, w, rfl, hw⟩ := run_call_bind_iff.mp hv
    obtain ⟨rfl, -⟩ := run_pure_iff.mp hw
    obtain ⟨hfails, rfl⟩ := refused_of_carries hk (close_not_admitted handle)
      (by rw [Layout.length_encode]; decide) (Nat.zero_le _) (serves_singleton_iff.mp hrest)
    refine ⟨rfl, ?_⟩
    simp only [List.forall_mem_cons, List.not_mem_nil, false_implies, implies_true, and_true]
    refine ⟨hquiet, ?_⟩
    intro _ _ _ _ _ h
    cases h
    exact hfails

/-- Whatever list `session_reap` takes, each of its closes fails, and no board is told of one. -/
theorem session_reap_closes_nothing (hk : k.Documented) {list : List (Int32 × Int32)}
    {u : Trace Gpibd.BrokerOp.Reply} (hrun : Run (Gpibd.sessionReap list) u ())
    (hserves : Serves (Bench.Carries k) d u d') : d' = d ∧ ∀ e ∈ u, CallFails e := by
  induction list generalizing u d with
  | nil =>
      obtain ⟨rfl, -⟩ := run_pure_iff.mp hrun
      exact ⟨serves_nil_iff.mp hserves, by simp⟩
  | cons entry list ih =>
      obtain ⟨board, handle⟩ := entry
      obtain ⟨v, _, w, rfl, hv, hw⟩ := run_bind_iff.mp hrun
      obtain ⟨d₁, hserves₁, hserves₂⟩ := serves_append_iff.mp hserves
      obtain ⟨rfl, hfails₁⟩ := reapClose_refused hk hv hserves₁
      obtain ⟨rfl, hfails₂⟩ := ih hw hserves₂
      refine ⟨rfl, fun e he => ?_⟩
      rcases List.mem_append.mp he with he | he
      · exact hfails₁ e he
      · exact hfails₂ e he

/-- `session_reap` on the one descriptor of a board. -/
def reapOfOne : Trace Gpibd.BrokerOp.Reply :=
  [⟨.connectionForBoard 0, (0 : Int64)⟩,
    ⟨.callStructMethod 0 2 (Wire.HandleIn.layout.encode ⟨1, 0⟩) 0,
      ((kIOReturnBadArgument, []) : Int32 × List UInt8)⟩]

/-- The descriptor is open behind it. -/
theorem session_reap_closes_not_one :
    ∃ d', Serves (Bench.Carries directKernel) foundBench reapOfOne d' ∧
      ((d'.board 0).descriptors.descriptorFor 1).isSome := by
  have hrun : Run (Gpibd.sessionReap [(0, 1)]) reapOfOne () := .ask (.ask (.pure _))
  have hrefused : Run (externalMethod anyTransport anyUptime 0 directKernel.base
      (some (foundBench.board 0)) 2
      (directKernel.deliver (Wire.HandleIn.layout.encode ⟨1, 0⟩) 0)) []
      (some (⟨kIOReturnBadArgument, none⟩, some (foundBench.board 0))) := .pure _
  let d' : Bench :=
    ⟨Function.update foundBench.board 0 (foundBench.board 0),
      Function.update foundBench.bus 0 (foundBench.bus 0)⟩
  have hcall : Bench.Carries directKernel foundBench
      ⟨.callStructMethod 0 2 (Wire.HandleIn.layout.encode ⟨1, 0⟩) 0,
        directKernel.collect ⟨kIOReturnBadArgument, none⟩ 0⟩ d' :=
    .taken hrefused (by simp) (.nil _)
  have hserves : Serves (Bench.Carries directKernel) foundBench reapOfOne d' :=
    .cons (.connectionForBoard (by decide)) (.cons hcall (.nil _))
  obtain ⟨hsame, -⟩ := session_reap_closes_nothing documented_directKernel hrun hserves
  refine ⟨d', hserves, ?_⟩
  rw [hsame]
  decide

end Libgpib

/-! ## Tracking -/

namespace Gpibd

/-- The handle in the reply to an open. -/
def openedHandle : DriverReply → Option Int
  | .opened handle _ => some handle
  | _ => none

/-- What an operation of the broker makes of the session it works for. -/
def BrokerOp.onSession (b : Board) (x : Session) : BrokerOp → Session
  | sessionAddDesc board handle => if board.toInt = b.val then x.addDesc b handle.toInt else x
  | sessionForgetDesc board handle =>
      if board.toInt = b.val then x.forgetDesc b handle.toInt else x
  | _ => x

/-- What the operations of a run make of a session. -/
def onSession (b : Board) (x : Session) (u : Trace BrokerOp.Reply) : Session :=
  u.foldl (fun x e => BrokerOp.onSession b x e.request) x

variable {m : Message} {b : Board} {i : Int32} {c : DriverCall} {out : DriverReply}
  {u : Trace BrokerOp.Reply}

/-- `op` is a selector when its low half is the selector and its high half is clear. -/
theorem op_eq_code_iff {op : UInt64} {s s' : Selector}
    (h : Selector.ofCode op.toUInt32.toNat = some s) :
    op = UInt64.ofNat s'.code ↔ s' = s ∧ (op >>> 32).toUInt32 = 0 := by
  have hlow : op.toUInt32.toNat = s.code := Selector.ofCode_eq_some_iff.mp h
  constructor
  · rintro rfl
    rw [toUInt32_code, Selector.ofCode_code] at h
    cases h
    refine ⟨rfl, ?_⟩
    cases s <;> rfl
  · rintro ⟨rfl, hhigh⟩
    have hzero : op.toNat / 2 ^ 32 % 2 ^ 32 = 0 := by
      have := congrArg UInt32.toNat hhigh
      simpa [Nat.shiftRight_eq_div_pow] using this
    have hlt := op.toNat_lt
    rw [UInt64.toNat_toUInt32] at hlow
    apply UInt64.toNat_inj.mp
    rw [UInt64.toNat_ofNat', ← hlow]
    omega

theorem length_output_ge (out : DriverReply) : 16 ≤ out.output.length := by
  cases out with
  | read s endFlag data finalLen =>
      rw [DriverReply.output, List.length_append, Layout.length_encode]
      exact Nat.le_add_right 16 _
  | _ =>
      rw [DriverReply.output, Layout.length_encode]
      exact le_refl 16

/-- Behind an `op` with a high half nothing is written down. -/
theorem descs_track_of_high (x : Session) {high : UInt32} (h : high ≠ 0) {cap : Nat}
    {opened : Option Int} : (x.track b high c cap opened).descs = x.descs := by
  unfold Session.track
  split
  · rw [if_neg h]
    split <;> rfl
  · rw [if_neg fun hclear => h hclear.1]
  · rfl

/-- The list that `handle_request` keeps is the one of the transition system. -/
theorem track_agrees (hi : i.toInt = b.val) {s : Selector}
    (hs : Selector.ofCode m.op.toUInt32.toNat = some s)
    (hc : UserClient.request s (m.input.getD []) = some c) (hreply : c.RepliedBy out)
    (hfits : out.output.length ≤ m.outcap.toNat)
    (hrun : Run (trackDescriptor m i 0 out.output) u ()) (x : Session) :
    (onSession b x u).descs =
      (x.track b (m.op >>> 32).toUInt32 c m.outcap.toNat (openedHandle out)).descs := by
  have hroom : 16 ≤ m.outcap.toNat := (length_output_ge out).trans hfits
  have hcap : ¬ ((0 : Int32) ≠ 0 ∨ m.outcap = 0) := by
    rintro (h | h)
    · exact h rfl
    · rw [h] at hroom
      exact absurd hroom (by decide)
  obtain ⟨rfl, hrep, reserved, rest, hinput⟩ := shape_of_request hc
  unfold trackDescriptor at hrun
  rw [if_neg hcap] at hrun
  by_cases hhigh : (m.op >>> 32).toUInt32 = 0
  · have hop : m.op = UInt64.ofNat c.selector.code := (op_eq_code_iff hs).mpr ⟨rfl, hhigh⟩
    have hother (s' : Selector) (h : s' ≠ c.selector) : m.op ≠ UInt64.ofNat s'.code :=
      fun heq => h ((op_eq_code_iff hs).mp heq).1
    cases c with
    | openDescriptor fields =>
        cases hreply with
        | status h => cases h
        | @opened _ handle status hint =>
            have hlen : Wire.OpenDescriptorOut.layout.size ≤
                (DriverReply.opened handle status).output.length := length_output_ge _
            rw [if_pos ⟨hop, hlen⟩, DriverReply.output, Layout.decode_encode] at hrun
            simp only [Session.track, openedHandle, hhigh, if_true, sizeofOpenDescriptorOut]
            have hsign : (0 ≤ Int32.ofInt handle) ↔ 0 ≤ handle := by
              rw [Int32.le_iff_toInt_le, hint]
              rfl
            by_cases hpos : 0 ≤ handle
            · simp only [hsign, hpos] at hrun
              obtain rfl := run_call_iff.mp hrun
              simp [onSession, BrokerOp.onSession, hi, hint, hroom, hpos]
            · simp only [hsign, hpos] at hrun
              obtain ⟨rfl, -⟩ := run_pure_iff.mp hrun
              simp [onSession, hpos]
    | closeDescriptor handle =>
        have hhandle : (Int32.ofInt handle).toInt = handle := hrep
        have hread : m.input.bind Wire.HandleIn.layout.decode =
            some ⟨Int32.ofInt handle, reserved⟩ := by
          cases hm : m.input with
          | none =>
              rw [hm] at hc
              cases hc
          | some bs =>
              rw [hm] at hinput
              simp only [Option.getD_some] at hinput
              rw [hinput]
              exact Layout.decode_encode_append _ _ _
        rw [if_neg fun h => hother .openDescriptor (by simp [DriverCall.selector]) h.1,
          if_pos (by exact hop), hread] at hrun
        obtain rfl := run_call_iff.mp hrun
        have hpos : 0 < m.outcap.toNat := by omega
        simp [onSession, BrokerOp.onSession, hi, hhandle, Session.track, hhigh, hpos]
    | _ =>
        rw [if_neg fun h => hother .openDescriptor (by simp [DriverCall.selector]) h.1,
          if_neg (hother .closeDescriptor (by simp [DriverCall.selector]))] at hrun
        obtain ⟨rfl, -⟩ := run_pure_iff.mp hrun
        simp [onSession, Session.track]
  · have hne (s' : Selector) : m.op ≠ UInt64.ofNat s'.code :=
      fun h => hhigh ((op_eq_code_iff hs).mp h).2
    simp only [hne, false_and, if_false] at hrun
    obtain ⟨rfl, -⟩ := run_pure_iff.mp hrun
    exact (descs_track_of_high x hhigh).symm

/-- An open that returns handle 1. -/
theorem track_agrees_open :
    (onSession 0 .init [⟨.sessionAddDesc 0 1, ()⟩]).descs =
      (Session.init.track 0 0 (.openDescriptor boardDescriptorIn) 16 (some 1)).descs := by
  let m : Message := callMessage 0 (.openDescriptor boardDescriptorIn)
  let out : DriverReply := .opened 1 ⟨Ibsta.cmpl, 0⟩
  let answer : (q : BrokerOp) → Option q.Reply
    | .sessionAddDesc _ _ => some ()
    | _ => none
  have hrun : Run (trackDescriptor m 0 0 out.output) [⟨.sessionAddDesc 0 1, ()⟩] () :=
    run_of_follow answer rfl
  have hread : UserClient.request .openDescriptor (m.input.getD []) =
      some (.openDescriptor boardDescriptorIn) :=
    request_input (c := .openDescriptor boardDescriptorIn) trivial
  have hhigh : (m.op >>> 32).toUInt32 = 0 := by decide
  have hcap : m.outcap.toNat = 16 := by decide
  rw [← hhigh, ← hcap]
  exact track_agrees (b := 0) rfl rfl hread (.opened (by decide)) (by decide) hrun .init

end Gpibd

end DarwinGpib
