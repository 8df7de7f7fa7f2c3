import DarwinGpib.Broker.Waiting
import DarwinGpib.Library.Progress
import Mathlib.Algebra.Order.BigOperators.Group.Finset
import Mathlib.Data.Fintype.BigOperators

/-!
# The broker comes to rest

Clients send and leave, adapters come and go; what the broker then does of its own accord ends.
Its effort is the work that is queued, the work that is running and the descriptors that are to
be reaped. At rest no block is left on any queue and every client that left has been reaped: no
`dispatch_sync` of `session_reap` waits in vain.
-/

namespace DarwinGpib

namespace Gpibd

open Transition

/-! ## The broker's own steps -/

/-- What a client does. -/
def Action.FromClient : Action → Prop
  | .send _ _ | .disconnect _ => True
  | _ => False

/-- What the broker does. -/
def Action.Own : Action → Prop
  | .send _ _ | .disconnect _ | .plug _ | .unplug _ => False
  | _ => True

instance : DecidablePred Action.Own := fun a => by
  cases a <;> unfold Action.Own <;> infer_instance

/-! ## Effort -/

/-- What a block may add to the list of a client that has left. -/
def Block.credit : Block → Nat
  | .request _ _ _ => 20
  | _ => 0

/-- The steps that are left of a running block. -/
def Phase.left : Phase → Nat
  | .starting false => 7
  | .found false _ => 6
  | .connected false _ => 5
  | .starting true => 4
  | .found true _ => 3
  | .connected true _ => 2
  | .answered _ => 1

def effortRunning : Option (Block × Phase) → Nat
  | none => 0
  | some (blk, ph) => ph.left + blk.credit

def effortQueued (queue : List Block) : Nat := (queue.map fun blk => 8 + blk.credit).sum

/-- A reaping closes one descriptor after the other. -/
def Session.effort (x : Session) : Nat :=
  match x.state with
  | .connected | .freed => 0
  | .disconnected => 20 * x.descs.length + 2
  | .reaping rest => 20 * rest.length + 1
  | .closing rest => 20 * rest.length + 5

namespace Broker

def boardEffort (s : Broker) (b : Board) : Nat :=
  effortQueued (s.queue b) + effortRunning (s.running b)

/-- The work that is left, with these clients' sessions. -/
def effort (C : Finset Client) (s : Broker) : Nat :=
  ∑ b, s.boardEffort b + ∑ c ∈ C, (s.session c).effort

/-- All other clients are connected. -/
def OnlyLeft (C : Finset Client) (s : Broker) : Prop :=
  ∀ c, c ∉ C → (s.session c).state = .connected

end Broker

variable {s t : Broker} {a : Action} {C : Finset Client}

/-! ## What a step does to it -/

theorem effort_resume_le (x : Session) : x.resume.effort ≤ x.effort := by
  unfold Session.resume
  split
  · rename_i rest h
    simp [Session.effort, h]
  · exact le_refl _

theorem effort_of_resumed {x y : Session} (h : Resumed x y) : y.effort ≤ x.effort := by
  rcases h with rfl | rfl
  · exact le_refl _
  · exact effort_resume_le x

/-- The effort depends on the state and on the list alone. -/
theorem effort_le_of_length {x y : Session} {n : Nat} (hstate : y.state = x.state)
    (hdescs : y.descs.length ≤ x.descs.length + n) : y.effort ≤ x.effort + 20 * n := by
  unfold Session.effort
  rw [hstate]
  split <;> omega

theorem length_descs_track_le (x : Session) (b : Board) (high : UInt32) (call : DriverCall)
    (cap : Nat) (opened : Option Int) :
    (x.track b high call cap opened).descs.length ≤ x.descs.length + 1 := by
  have herase (d : Board × Int) : (x.descs.erase d).length ≤ x.descs.length :=
    List.erase_sublist.length_le
  unfold Session.track Session.addDesc Session.forgetDesc
  grind

/-- A step on one board that at most resumes sessions. -/
theorem effort_lt_of_board {b : Board} (hb : ∀ k, k ≠ b → t.boardEffort k = s.boardEffort k)
    (hc : ∀ c ∈ C, (t.session c).effort ≤ (s.session c).effort)
    (hlt : t.boardEffort b < s.boardEffort b) : t.effort C < s.effort C := by
  have hboards := Finset.sum_add_of_ne_at (Finset.mem_univ b) hb
  have hsessions : ∑ c ∈ C, (t.session c).effort ≤ ∑ c ∈ C, (s.session c).effort :=
    Finset.sum_le_sum hc
  unfold Broker.effort
  omega

/-- A step on one board and on one session. -/
theorem effort_lt_of_both {b : Board} {c : Client} (hmem : c ∈ C)
    (hb : ∀ k, k ≠ b → t.boardEffort k = s.boardEffort k)
    (hc : ∀ c', c' ≠ c → t.session c' = s.session c')
    (hlt : t.boardEffort b + (t.session c).effort < s.boardEffort b + (s.session c).effort) :
    t.effort C < s.effort C := by
  have hboards := Finset.sum_add_of_ne_at (Finset.mem_univ b) hb
  have hsessions := Finset.sum_add_of_ne_at (f := fun c => (s.session c).effort)
    (g := fun c => (t.session c).effort) hmem fun c' h => by rw [hc c' h]
  unfold Broker.effort
  omega

theorem Phase.left_pos (ph : Phase) : 0 < ph.left := by
  cases ph with
  | answered opened => exact Nat.one_pos
  | starting retry | found retry service | connected retry service =>
      cases retry <;> exact Nat.succ_pos _

/-- The running block goes on. -/
theorem effort_setRunning_lt {b : Board} {blk : Block} {ph ph' : Phase}
    (conn : Board → Option Service) (slots : Service → Int → Option Client)
    (hrun : s.running b = some (blk, ph)) (hlt : ph'.left < ph.left) :
    ({ s with conn, slots }.setRunning b (some (blk, ph'))).effort C < s.effort C := by
  apply effort_lt_of_board (b := b)
  · intro k hk
    simp [Broker.boardEffort, hk]
  · exact fun c _ => le_refl _
  · simp [Broker.boardEffort, effortRunning, hrun, hlt]

/-- The running block ends. -/
theorem effort_finish_lt {b : Board} {blk : Block} {ph : Phase}
    (conn : Board → Option Service) (slots : Service → Int → Option Client)
    (hrun : s.running b = some (blk, ph)) :
    ({ s with conn, slots }.finish b blk).effort C < s.effort C := by
  have hleft := ph.left_pos
  apply effort_lt_of_board (b := b)
  · intro k hk
    simp [Broker.boardEffort, hk]
  · exact fun c _ => effort_of_resumed (finish_session _ b blk c)
  · simp only [Broker.boardEffort, finish_queue, finish_running, Function.update_self, hrun,
      effortRunning]
    omega

theorem effortRunning_answer_le (s : Broker) (b : Board) (blk : Block) (service : Service)
    (c : Client) (call : DriverCall) :
    effortRunning ((s.answer b blk service c call).running b) ≤ 1 + blk.credit := by
  cases blk with
  | reapClose c' handle => simp [Broker.answer, effortRunning]
  | request c' op cap | outOfRange c' =>
      rw [answer_running_self (by simp)]
      exact le_refl _

theorem Broker.OnlyLeft.mem (h : s.OnlyLeft C) {c : Client}
    (hc : (s.session c).state ≠ .connected) : c ∈ C :=
  not_not.mp fun hmem => hc (h c hmem)

/-- Each step of the broker's own is progress. -/
theorem effort_lt_of_stepped (hleft : s.OnlyLeft C) (hstep : Stepped s a t) (hown : a.Own) :
    t.effort C < s.effort C := by
  cases hstep with
  | sendOutOfRange | send | disconnect | plug | unplug => exact absurd hown id
  | @begin b blk rest hidle hqueue =>
      apply effort_lt_of_board (b := b)
      · intro k hk
        simp [Broker.boardEffort, hk]
      · exact fun c _ => le_refl _
      · simp only [Broker.boardEffort, effortRunning, effortQueued, hidle, hqueue, Phase.left]
        simp
        omega
  | unresolved hrun => exact effort_finish_lt s.conn s.slots hrun
  | probed hrun => exact effort_finish_lt s.conn s.slots hrun
  | @cached b blk retry service c call hrun =>
      refine effort_setRunning_lt s.conn s.slots hrun ?_
      cases retry <;> simp [Phase.left]
  | @located b blk retry service hrun =>
      refine effort_setRunning_lt s.conn s.slots hrun ?_
      cases retry <;> simp [Phase.left]
  | notOpened hrun => exact effort_finish_lt s.conn s.slots hrun
  | openedForProbe hrun => exact effort_finish_lt _ s.slots hrun
  | @opened b blk retry service c call hrun =>
      refine effort_setRunning_lt _ s.slots hrun ?_
      cases retry <;> simp [Phase.left]
  | @taken b blk retry service c call hrun hcall hattached =>
      apply effort_lt_of_board (b := b)
      · intro k hk
        rw [Broker.boardEffort, Broker.boardEffort, answer_queue, answer_running_of_ne hk]
      · exact fun c' _ => effort_of_resumed (answer_session c')
      · have hanswered := effortRunning_answer_le s b blk service c call
        have hlater : 1 < (Phase.connected retry service).left := by
          cases retry <;> simp [Phase.left]
        simp only [Broker.boardEffort, answer_queue, hrun]
        change _ < _ + ((Phase.connected retry service).left + blk.credit)
        omega
  | failed hrun => exact effort_finish_lt s.conn s.slots hrun
  | deadInReap hrun => exact effort_finish_lt s.conn s.slots hrun
  | stale hrun => exact effort_setRunning_lt _ s.slots hrun (by simp [Phase.left])
  | lost hrun => exact effort_finish_lt _ s.slots hrun
  | @track b c high call cap opened hrun =>
      have hblock : s.boardEffort b = effortQueued (s.queue b) + 21 := by
        simp [Broker.boardEffort, effortRunning, hrun, Phase.left, Block.credit]
      have htrack := effort_le_of_length (track_state (s.session c) b high call cap opened)
        (length_descs_track_le _ b high call cap opened)
      by_cases hmem : c ∈ C
      · apply effort_lt_of_both (b := b) hmem
        · intro k hk
          simp [Broker.boardEffort, hk]
        · intro c' hc'
          simp [hc']
        · simp only [Broker.boardEffort, Broker.setRunning, Broker.setSession,
            Function.update_self, effortRunning] at hblock ⊢
          omega
      · apply effort_lt_of_board (b := b)
        · intro k hk
          simp [Broker.boardEffort, hk]
        · intro c' hc'
          have hne : c' ≠ c := fun h => hmem (h ▸ hc')
          simp [hne]
        · simp only [Broker.boardEffort, Broker.setRunning, Broker.setSession,
            Function.update_self, effortRunning] at hblock ⊢
          omega
  | @reap c hc =>
      apply effort_lt_of_both (b := 0) (c := c) (hleft.mem (by simp [hc]))
      · exact fun k _ => rfl
      · intro c' hc'
        simp [hc']
      · simp [Broker.boardEffort, Session.effort, hc]
  | @closeNext c b handle rest hc =>
      apply effort_lt_of_both (b := b) (c := c) (hleft.mem (by simp [hc]))
      · intro k hk
        simp [Broker.boardEffort, hk]
      · intro c' hc'
        simp [hc']
      · simp [Broker.boardEffort, Session.effort, hc, effortQueued, Block.credit]
        omega
  | @freeSession c hc =>
      apply effort_lt_of_both (b := 0) (c := c) (hleft.mem (by simp [hc]))
      · exact fun k _ => rfl
      · intro c' hc'
        simp [hc']
      · simp [Broker.boardEffort, Session.effort, hc]

/-! ## Nothing is stuck -/

/-- A block is at a phase of its kind. -/
def Proper : Option (Block × Phase) → Prop
  | some (blk, .connected _ _) => blk.call?.isSome
  | some (blk, .answered _) => ∃ c high call cap, blk = .request c (.call high call) cap
  | _ => True

/-- Running blocks are proper, and a reaping that waits has a block to wait for. -/
structure Live (s : Broker) : Prop where
  proper : ∀ b, Proper (s.running b)
  closing : ∀ c rest, (s.session c).state = .closing rest →
    ∃ b handle, Block.reapClose c handle ∈ s.waiting b

theorem live_init : Live .init where
  proper _ := trivial
  closing c rest h := by cases h

/-- No block is queued or running, and every client that left has been reaped. -/
structure AtRest (s : Broker) : Prop where
  idle : Idle s
  reaped : ∀ c, (s.session c).state = .connected ∨ (s.session c).state = .freed

/-- A running block can go on, whatever it waits for. -/
theorem Live.exists_block_step (h : Live s) {b : Board} {blk : Block} {ph : Phase}
    (hrun : s.running b = some (blk, ph)) : ∃ a t, a.Own ∧ step s a = some t := by
  have hproper := h.proper b
  rw [hrun] at hproper
  cases ph with
  | starting retry =>
      refine ⟨.lookup b, ?_⟩
      simp only [step, Broker.lookup, hrun]
      split
      · exact ⟨_, trivial, rfl⟩
      split
      · exact ⟨_, trivial, rfl⟩
      split <;> exact ⟨_, trivial, rfl⟩
  | found retry service =>
      refine ⟨.openService b false, ?_⟩
      simp only [step, Broker.openService, hrun]
      exact ⟨_, trivial, rfl⟩
  | connected retry service =>
      obtain ⟨⟨c, call⟩, hcall⟩ := Option.isSome_iff_exists.mp hproper
      refine ⟨.call b .dead, ?_⟩
      simp only [step, Broker.call, hrun, hcall]
      split
      · exact ⟨_, trivial, rfl⟩
      split <;> exact ⟨_, trivial, rfl⟩
  | answered opened =>
      obtain ⟨c, high, call, cap, rfl⟩ := hproper
      refine ⟨.track b, ?_⟩
      simp only [step, Broker.track, hrun]
      exact ⟨_, trivial, rfl⟩

/-- A session that is left by its client, and not freed, has something to do while the queues are
empty. -/
theorem Live.exists_reap_step (h : Live s) (hidle : Idle s) {c : Client}
    (hconnected : (s.session c).state ≠ .connected) (hfreed : (s.session c).state ≠ .freed) :
    ∃ a t, a.Own ∧ step s a = some t := by
  cases hstate : (s.session c).state with
  | connected => exact absurd hstate hconnected
  | freed => exact absurd hstate hfreed
  | disconnected =>
      refine ⟨.reap c, ?_⟩
      simp only [step, Broker.reap, hstate, if_true]
      exact ⟨_, trivial, rfl⟩
  | reaping rest =>
      cases rest with
      | nil =>
          refine ⟨.freeSession c, ?_⟩
          simp only [step, Broker.freeSession, hstate]
          exact ⟨_, trivial, rfl⟩
      | cons d rest =>
          refine ⟨.closeNext c, ?_⟩
          simp only [step, Broker.closeNext, hstate]
          exact ⟨_, trivial, rfl⟩
  | closing rest =>
      obtain ⟨b, handle, hwait⟩ := h.closing c rest hstate
      rw [hidle.waiting b] at hwait
      cases hwait

/-- A broker that is not at rest has something to do. -/
theorem Live.exists_own_step (h : Live s) (hrest : ¬ AtRest s) :
    ∃ a t, a.Own ∧ step s a = some t := by
  by_cases hidle : Idle s
  · have hwaits : ∃ c, ¬ ((s.session c).state = .connected ∨ (s.session c).state = .freed) := by
      by_contra hnone
      exact hrest ⟨hidle, fun c => not_not.mp fun hc => hnone ⟨c, hc⟩⟩
    obtain ⟨c, hc⟩ := hwaits
    exact h.exists_reap_step hidle (fun h => hc (.inl h)) fun h => hc (.inr h)
  · have hbusy : ∃ b, ¬ (s.queue b = [] ∧ s.running b = none) := by
      by_contra hnone
      exact hidle fun b => not_not.mp fun hb => hnone ⟨b, hb⟩
    obtain ⟨b, hb⟩ := hbusy
    cases hrun : s.running b with
    | some r => exact h.exists_block_step hrun
    | none =>
        cases hqueue : s.queue b with
        | nil => exact absurd ⟨hqueue, hrun⟩ hb
        | cons blk rest =>
            refine ⟨.begin b, ?_⟩
            simp only [step, Broker.begin, hrun, hqueue]
            exact ⟨_, trivial, rfl⟩

/-! ## Invariance -/

/-- A step behind which sessions that wait have waited before, and for blocks that are still
there. -/
theorem Live.of_waiting (h : Live s) (hproper : ∀ b, Proper (t.running b))
    (hclosing : ∀ c rest, (t.session c).state = .closing rest →
      (s.session c).state = .closing rest ∧
        ∀ b handle, Block.reapClose c handle ∈ s.waiting b →
          Block.reapClose c handle ∈ t.waiting b) : Live t where
  proper := hproper
  closing c rest hc := by
    obtain ⟨hs, hstays⟩ := hclosing c rest hc
    obtain ⟨b, handle, hwait⟩ := h.closing c rest hs
    exact ⟨b, handle, hstays b handle hwait⟩

theorem Live.proper_update (h : Live s) {b : Board} {r : Option (Block × Phase)} (hr : Proper r)
    (k : Board) : Proper (Function.update s.running b r k) := by
  by_cases hk : k = b
  · rwa [hk, Function.update_self]
  · rw [Function.update_of_ne hk]
    exact h.proper k

theorem resume_ne_closing (x : Session) (rest : List (Board × Int)) :
    x.resume.state ≠ .closing rest := by
  unfold Session.resume
  split
  · simp
  · rename_i hstate
    exact hstate rest

/-- The block that ends is waited for by the session that it resumes. -/
theorem Live.finish (h : Live s) (conn : Board → Option Service)
    (slots : Service → Int → Option Client) {b : Board} {blk : Block} {ph : Phase}
    (hrun : s.running b = some (blk, ph)) : Live ({ s with conn, slots }.finish b blk) := by
  apply h.of_waiting
  · intro k
    rw [finish_running]
    exact h.proper_update (r := none) trivial k
  · intro c rest hc
    have hsame : ({ s with conn, slots }.finish b blk).session c = s.session c := by
      rcases finish_session { s with conn, slots } b blk c with hx | hx
      · exact hx
      · rw [hx] at hc
        exact absurd hc (resume_ne_closing _ rest)
    refine ⟨hsame ▸ hc, fun k handle hwait => ?_⟩
    rcases mem_waiting_finish (s := { s with slots }) conn hrun hwait with hstays | ⟨rfl, rfl⟩
    · exact hstays
    · have hresumed : ({ s with conn, slots }.finish k (.reapClose c handle)).session c =
          (s.session c).resume := by simp [Broker.finish]
      rw [hresumed] at hc
      exact absurd hc (resume_ne_closing _ rest)

/-- The running block goes on. -/
theorem Live.setRunning (h : Live s) (conn : Board → Option Service)
    (slots : Service → Int → Option Client) {b : Board} {blk : Block} {ph ph' : Phase}
    (hrun : s.running b = some (blk, ph)) (hph : ph.Unanswered) (hproper : Proper (some (blk, ph')))
    (hstays : ∀ c handle, blk = .reapClose c handle → ph'.Unanswered) :
    Live ({ s with conn, slots }.setRunning b (some (blk, ph'))) := by
  apply h.of_waiting
  · exact h.proper_update hproper
  · intro c rest hc
    refine ⟨hc, fun k handle hwait => ?_⟩
    by_cases hk : k = b
    · subst hk
      rw [waiting_of_running hrun hph] at hwait
      rcases List.mem_cons.mp hwait with rfl | hqueue
      · exact mem_waiting_of_running (by simp) (hstays c handle rfl)
      · exact mem_waiting_of_queue hqueue
    · exact (waiting_setRunning_of_ne (s := { s with conn, slots }) hk).symm ▸ hwait

/-- A session that does not wait changes. -/
theorem Live.setSession (h : Live s) {c : Client} {x : Session}
    (hx : ∀ rest, x.state = .closing rest → (s.session c).state = .closing rest) :
    Live (s.setSession c x) := by
  apply h.of_waiting (t := s.setSession c x) h.proper
  intro c' rest hc'
  refine ⟨?_, fun _ _ hwait => hwait⟩
  by_cases hcc : c' = c
  · subst hcc
    exact hx rest (by simpa using hc')
  · simpa [hcc] using hc'

theorem Live.enqueue (h : Live s) (b : Board) (blk : Block) : Live (s.enqueue b blk) := by
  apply h.of_waiting (t := s.enqueue b blk) h.proper
  intro c rest hc
  exact ⟨hc, fun k handle hwait => mem_waiting_enqueue.mpr (.inl hwait)⟩

theorem Live.stepped (h : Live s) (hstep : Stepped s a t) : Live t := by
  cases hstep with
  | sendOutOfRange => exact h.enqueue 0 _
  | send hc hr => exact (h.enqueue _ _).setSession fun rest hrest => by simpa using hrest
  | disconnect hc => exact h.setSession fun rest hrest => by cases hrest
  | @begin b blk rest hidle hqueue =>
      apply h.of_waiting
      · exact h.proper_update trivial
      · intro c rest' hc
        refine ⟨hc, fun k handle hwait => ?_⟩
        rwa [waiting_begin hidle hqueue]
  | unresolved hrun => exact h.finish s.conn s.slots hrun
  | probed hrun => exact h.finish s.conn s.slots hrun
  | cached hrun hconn hcall =>
      refine h.setRunning s.conn s.slots hrun trivial ?_ fun _ _ _ => trivial
      exact Option.isSome_of_eq_some hcall
  | located hrun => exact h.setRunning s.conn s.slots hrun trivial trivial fun _ _ _ => trivial
  | notOpened hrun => exact h.finish s.conn s.slots hrun
  | openedForProbe hrun => exact h.finish _ s.slots hrun
  | opened hrun hcall =>
      refine h.setRunning _ s.slots hrun trivial ?_ fun _ _ _ => trivial
      exact Option.isSome_of_eq_some hcall
  | @taken b blk retry service c call hrun hcall hattached =>
      let slots := Function.update s.slots service (applyCall (s.slots service) c call).2
      cases blk with
      | reapClose c' handle => exact h.finish s.conn slots hrun
      | outOfRange c' => cases hcall
      | request c' op cap =>
          obtain ⟨rfl, high, rfl⟩ := call?_request.mp hcall
          exact h.setRunning s.conn slots hrun trivial ⟨_, _, _, _, rfl⟩
            fun _ _ hblk => by cases hblk
  | failed hrun => exact h.finish s.conn s.slots hrun
  | deadInReap hrun => exact h.finish s.conn s.slots hrun
  | stale hrun => exact h.setRunning _ s.slots hrun trivial trivial fun _ _ _ => trivial
  | lost hrun => exact h.finish _ s.slots hrun
  | @track b c high call cap opened hrun =>
      have htracked : Live (s.setSession c ((s.session c).track b high call cap opened)) :=
        h.setSession fun rest hrest => by simpa using hrest
      apply htracked.of_waiting
      · exact h.proper_update (r := none) trivial
      · intro c' rest hc
        refine ⟨hc, fun k handle hwait => ?_⟩
        rwa [waiting_setRunning_none (s := s.setSession c _) hrun]
  | reap hc => exact h.setSession fun rest hrest => by cases hrest
  | @closeNext c b handle rest hc =>
      refine ⟨h.proper, fun c' rest' hc' => ?_⟩
      by_cases hcc : c' = c
      · have hnew : Block.reapClose c handle ∈ (s.enqueue b (.reapClose c handle)).waiting b :=
          mem_waiting_enqueue.mpr (.inr ⟨rfl, rfl⟩)
        exact ⟨b, handle, hcc ▸ hnew⟩
      · obtain ⟨k, handle', hwait⟩ := h.closing c' rest' (by simpa [hcc] using hc')
        exact ⟨k, handle', mem_waiting_enqueue.mpr (.inl hwait)⟩
  | freeSession hc => exact h.setSession fun rest hrest => by cases hrest
  | plug => exact h.of_waiting h.proper fun _ _ hc => ⟨hc, fun _ _ hwait => hwait⟩
  | unplug => exact h.of_waiting h.proper fun _ _ hc => ⟨hc, fun _ _ hwait => hwait⟩

theorem Broker.OnlyLeft.stepped (h : s.OnlyLeft C) (hstep : Stepped s a t)
    (ha : ¬ a.FromClient) : t.OnlyLeft C := by
  have hfinish (conn : Board → Option Service) (slots : Service → Int → Option Client)
      (b : Board) (blk : Block) : ({ s with conn, slots }.finish b blk).OnlyLeft C :=
    fun c hc => (finish_session { s with conn, slots } b blk c).connected.mpr (h c hc)
  have hother {c : Client} {x : Session} (hc : (s.session c).state ≠ .connected) :
      (s.setSession c x).OnlyLeft C := by
    intro c' hc'
    have hne : c' ≠ c := fun heq => hc (heq ▸ h c' hc')
    simpa [hne] using h c' hc'
  cases hstep with
  | sendOutOfRange | send | disconnect => exact absurd trivial ha
  | begin | cached | located | opened | stale | plug | unplug => exact h
  | unresolved | probed | notOpened | failed | deadInReap => exact hfinish s.conn s.slots _ _
  | openedForProbe | lost => exact hfinish _ s.slots _ _
  | taken => exact fun c hc => (answer_session c).connected.mpr (h c hc)
  | @track b c high call cap opened hrun =>
      intro c' hc'
      by_cases hcc : c' = c
      · subst hcc
        simpa using h c' hc'
      · simpa [hcc] using h c' hc'
  | reap hc => exact hother (by simp [hc])
  | closeNext hc => exact hother (by simp [hc])
  | freeSession hc => exact hother (by simp [hc])

/-! ## Runs -/

/-- Only finitely many clients have left. -/
theorem exists_onlyLeft {as : List Action} (hrun : run step .init as = some s) :
    ∃ C, s.OnlyLeft C := by
  apply run_invariant (I := fun s => ∃ C : Finset Client, s.OnlyLeft C) _ ⟨∅, fun c _ => rfl⟩
    (along_of_forall (P := fun _ _ => True) (fun _ _ _ => trivial) _) hrun
  rintro s a t ⟨C, hC⟩ - h
  by_cases ha : a.FromClient
  · cases stepped_of_step h with
    | sendOutOfRange => exact ⟨C, hC⟩
    | @send c r b hc hr =>
        refine ⟨C, fun c' hc' => ?_⟩
        by_cases hcc : c' = c
        · subst hcc
          simpa using hc
        · simpa [hcc] using hC c' hc'
    | @disconnect c hc =>
        refine ⟨insert c C, fun c' hc' => ?_⟩
        rw [Finset.mem_insert, not_or] at hc'
        simpa [hc'.1] using hC c' hc'.2
    | _ => exact absurd ha id
  · exact ⟨C, hC.stepped (stepped_of_step h) ha⟩

theorem live_of_run {as : List Action} (hrun : run step .init as = some s) : Live s :=
  run_invariant (fun _ _ _ h _ hstep => h.stepped (stepped_of_step hstep)) live_init
    (along_of_forall (P := fun _ _ => True) (fun _ _ _ => trivial) _) hrun

/-- The broker's effort ranks the runs in which no client sends or leaves. -/
theorem ranked_effort (C : Finset Client) :
    Ranked step (fun s => s.OnlyLeft C ∧ Live s) (fun a => ¬ a.FromClient) Action.Own
      (Broker.effort C) where
  ok_of_own a h := by
    cases a <;> first | exact id | exact absurd h id
  keeps s a t h ha hstep :=
    ⟨h.1.stepped (stepped_of_step hstep) ha, h.2.stepped (stepped_of_step hstep)⟩
  lt s a t h hown hstep := effort_lt_of_stepped h.1 (stepped_of_step hstep) hown
  le s a t h ha hstep := by
    by_cases hown : a.Own
    · exact (effort_lt_of_stepped h.1 (stepped_of_step hstep) hown).le
    · cases stepped_of_step hstep with
      | sendOutOfRange | send | disconnect => exact absurd trivial ha
      | plug | unplug => exact le_refl _
      | _ => exact absurd trivial hown

/-- A client that leaves with an open and a close on their way. -/
def leavesAtOnce : List Action :=
  [.plug 0, .send 0 ⟨0, .call 0 (.openDescriptor ⟨5, 0, 0, 11, 0, 0, 1⟩), 16⟩,
    .send 0 ⟨0, .call 0 (.closeDescriptor 1), 16⟩, .disconnect 0]

end Gpibd

end DarwinGpib
