import DarwinGpib.Broker.BoardIndices
import DarwinGpib.Broker.Waiting

/-!
# Whose descriptors the broker acts on

The broker forwards every handle as it stands, so that the driver acts on the right descriptor
only as long as what a client counts on is still the client's: a claim. Clients that name
descriptors they hold, and a registry that keeps the adapters of claimed indices, keep all claims
true.
-/

namespace DarwinGpib

namespace Gpibd

variable {s t : Broker} {a : Action}

/-! ## The property and its conditions -/

/-- The handle that the driver looks up for a call. The other calls either have no handle or
do not look at it. -/
def target : DriverCall → Option Int
  | .closeDescriptor handle | .configure handle _ _ | .write handle _ _ | .read handle _
  | .deviceClear handle | .wait handle _ _ | .ask handle _ | .serialPoll handle
  | .trigger handle | .goToLocal handle => some handle
  | _ => none

/-- The driver looks up this handle for the block's call, which it does if it takes the call. -/
def Block.Targets (c : Client) (handle : Int) (blk : Block) : Prop :=
  ∃ call, blk.admitted? = some (c, call) ∧ target call = some handle

def Block.Closes (c : Client) (handle : Int) (blk : Block) : Prop :=
  blk.admitted? = some (c, .closeDescriptor handle)

/-- A descriptor that a call acts on was opened for the client that the call is made for. -/
def ActsOnOwn (s : Broker) : Action → Prop
  | .call b .taken => ∀ blk retry service c handle,
      s.running b = some (blk, .connected retry service) → service ∈ s.registry →
      blk.Targets c handle → ∀ owner, s.slots service handle = some owner → owner = c
  | _ => True

/-- A client names descriptors that it holds, unless the driver refuses the request. -/
def SendsOwn (s : Broker) : Action → Prop
  | .send c r => ∀ b handle, r.index = some b →
      (Block.request c r.op r.cap).Targets c handle → (b, handle) ∈ (s.session c).held
  | _ => True

/-- Somebody counts on a descriptor of a board being the client's. -/
inductive Claim (s : Broker) (c : Client) (b : Board) (handle : Int) : Prop where
  /-- The client, which may name it in a request. -/
  | held (hstate : (s.session c).state = .connected) (hmem : (b, handle) ∈ (s.session c).held)
  /-- A block that is to act on it. -/
  | waiting {blk} (hmem : blk ∈ s.waiting b) (htarget : blk.Targets c handle)
  /-- The block that has just opened it, of which the client is yet to be told. -/
  | opened {high o cap} (hstate : (s.session c).state = .connected) (hhandle : 0 ≤ handle)
      (hrun : s.running b = some (.request c (.call high (.openDescriptor o)) cap,
        .answered (some handle)))

/-- An index for which somebody claims a descriptor gets no other adapter. -/
def KeepsClaims (s : Broker) (a : Action) : Prop :=
  ∀ c b handle, Claim s c b handle → ∀ service, (registryAfter s a)[b.val]? = some service →
    s.registry[b.val]? = some service

/-! ## The invariant -/

/-- The descriptor is the client's on the adapter that has the board's index. -/
def Owns (s : Broker) (c : Client) (b : Board) (handle : Int) : Prop :=
  ∀ service, s.registry[b.val]? = some service → s.slots service handle = some c

structure Claims (s : Broker) : Prop where
  owns : ∀ c b handle, Claim s c b handle → Owns s c b handle
  heldNodup : ∀ c, (s.session c).state = .connected → (s.session c).held.Nodup
  /-- Behind a close no block names its descriptor. -/
  ordered : ∀ b, (s.waiting b).Pairwise fun blk blk' =>
    ∀ c handle, blk.Closes c handle → ¬ blk'.Targets c handle
  /-- Once a close waits, the client does not count on its descriptor. -/
  closing : ∀ b blk c handle, blk ∈ s.waiting b → blk.Closes c handle →
    (s.session c).state = .connected → (b, handle) ∉ (s.session c).held
  /-- The client does not count on a descriptor yet that has just been opened. -/
  fresh : ∀ b c high o cap handle, (s.session c).state = .connected → 0 ≤ handle →
    s.running b = some (.request c (.call high (.openDescriptor o)) cap,
      .answered (some handle)) →
    (b, handle) ∉ (s.session c).held ∧ ∀ blk ∈ s.waiting b, ¬ blk.Closes c handle

theorem targets_of_closes {c : Client} {handle : Int} {blk : Block} (h : blk.Closes c handle) :
    blk.Targets c handle :=
  ⟨_, h, rfl⟩

theorem targets_request {c c' : Client} {op : Op} {cap : Nat} {handle : Int}
    (h : (Block.request c op cap).Targets c' handle) :
    c' = c ∧ ∃ high call, op = .call high call ∧ target call = some handle := by
  obtain ⟨call, hcall, htarget⟩ := h
  obtain ⟨rfl, high, rfl⟩ := call?_request.mp (admitted?_eq_some.mp hcall).1
  exact ⟨rfl, high, call, rfl, htarget⟩

theorem claims_init : Claims .init where
  owns c b handle h service hservice := by cases hservice
  heldNodup _ _ := List.nodup_nil
  ordered _ := List.Pairwise.nil
  closing b blk c handle h := by cases h
  fresh b c high o cap handle _ _ h := by cases h

/-! ### Steps after which nobody counts on more -/

/-- Fewer blocks wait, and clients count on less. -/
structure Shrinks (s t : Broker) : Prop where
  slots : t.slots = s.slots
  held : ∀ c, (t.session c).state = .connected →
    (s.session c).state = .connected ∧ (t.session c).held.Sublist (s.session c).held
  waiting : ∀ b, (t.waiting b).Sublist (s.waiting b)
  answered : ∀ b blk opened, t.running b = some (blk, .answered opened) ↔
    s.running b = some (blk, .answered opened)

theorem Shrinks.claim (h : Shrinks s t) {c : Client} {b : Board} {handle : Int}
    (hclaim : Claim t c b handle) : Claim s c b handle := by
  cases hclaim with
  | held hstate hmem =>
      obtain ⟨hstate, hsub⟩ := h.held c hstate
      exact .held hstate (hsub.subset hmem)
  | waiting hmem htarget => exact .waiting ((h.waiting b).subset hmem) htarget
  | opened hstate hhandle hrun =>
      exact .opened (h.held c hstate).1 hhandle ((h.answered b _ _).mp hrun)

theorem Claims.shrinks (h : Claims s) (hshrinks : Shrinks s t)
    (hregistry : ∀ c b handle, Claim s c b handle → ∀ service,
      t.registry[b.val]? = some service → s.registry[b.val]? = some service) : Claims t where
  owns c b handle hclaim service hservice := by
    have hclaim := hshrinks.claim hclaim
    rw [hshrinks.slots]
    exact h.owns c b handle hclaim service (hregistry c b handle hclaim service hservice)
  heldNodup c hstate := by
    obtain ⟨hstate, hsub⟩ := hshrinks.held c hstate
    exact (h.heldNodup c hstate).sublist hsub
  ordered b := (h.ordered b).sublist (hshrinks.waiting b)
  closing b blk c handle hmem hclose hstate hin := by
    obtain ⟨hstate, hsub⟩ := hshrinks.held c hstate
    exact h.closing b blk c handle ((hshrinks.waiting b).subset hmem) hclose hstate
      (hsub.subset hin)
  fresh b c high o cap handle hstate hhandle hrun := by
    obtain ⟨hstate, hsub⟩ := hshrinks.held c hstate
    obtain ⟨hheld, hwaiting⟩ := h.fresh b c high o cap handle hstate hhandle
      ((hshrinks.answered b _ _).mp hrun)
    exact ⟨fun hin => hheld (hsub.subset hin),
      fun blk hmem => hwaiting blk ((hshrinks.waiting b).subset hmem)⟩

theorem Quiet.shrinks (h : Quiet s t) : Shrinks s t where
  slots := h.slots
  held c hstate := ⟨(h.session c).connected.mp hstate, by rw [(h.session c).held]⟩
  waiting := h.waiting
  answered := h.answered

/-- A step that changes one session and nothing else. -/
theorem shrinks_setSession {c : Client} {x : Session}
    (hheld : x.state = .connected →
      (s.session c).state = .connected ∧ x.held.Sublist (s.session c).held) :
    Shrinks s (s.setSession c x) where
  slots := rfl
  held c' hstate := by
    by_cases hc : c' = c
    · subst hc
      simpa using hheld (by simpa using hstate)
    · simp only [Broker.setSession, Function.update_of_ne hc] at hstate ⊢
      exact ⟨hstate, List.Sublist.refl _⟩
  waiting _ := List.Sublist.refl _
  answered _ _ _ := Iff.rfl

/-- A session that is not connected claims nothing of its own. -/
theorem Claims.setSession (h : Claims s) {c : Client} {x : Session}
    (hx : x.state ≠ .connected) : Claims (s.setSession c x) :=
  h.shrinks (shrinks_setSession fun hstate => absurd hstate hx) fun _ _ _ _ _ hservice => hservice

/-! ### Blocks that arrive -/

/-- A block may join the queue of a board when what it names belongs to its client, nobody
before it closes that, and its client does not count on what it closes itself. -/
theorem Claims.enqueue (h : Claims s) {b : Board} {blk : Block}
    (howns : ∀ c handle, blk.Targets c handle → Owns s c b handle)
    (hbefore : ∀ c handle, blk.Targets c handle → ∀ blk' ∈ s.waiting b, ¬ blk'.Closes c handle)
    (hcloses : ∀ c handle, blk.Closes c handle → (s.session c).state = .connected →
      (b, handle) ∉ (s.session c).held)
    (hfresh : ∀ c handle, blk.Closes c handle → (s.session c).state = .connected →
      0 ≤ handle → ∀ high o cap, s.running b ≠
        some (.request c (.call high (.openDescriptor o)) cap, .answered (some handle))) :
    Claims (s.enqueue b blk) where
  owns c k handle hclaim := by
    cases hclaim with
    | held hstate hmem => exact h.owns c k handle (.held hstate hmem)
    | waiting hmem htarget =>
        rcases mem_waiting_enqueue.mp hmem with hmem | ⟨rfl, rfl⟩
        · exact h.owns c k handle (.waiting hmem htarget)
        · exact howns c handle htarget
    | opened hstate hhandle hrun => exact h.owns c k handle (.opened hstate hhandle hrun)
  heldNodup := h.heldNodup
  ordered k := by
    by_cases hk : k = b
    · subst hk
      rw [waiting_enqueue_self, List.pairwise_append]
      refine ⟨h.ordered k, List.pairwise_singleton _ _, ?_⟩
      intro blk' hmem blk'' hlast c handle hclose htarget
      rw [List.mem_singleton] at hlast
      subst hlast
      exact hbefore c handle htarget blk' hmem hclose
    · rw [waiting_enqueue_of_ne hk]
      exact h.ordered k
  closing k blk' c handle hmem hclose := by
    rcases mem_waiting_enqueue.mp hmem with hmem | ⟨rfl, rfl⟩
    · exact h.closing k blk' c handle hmem hclose
    · exact hcloses c handle hclose
  fresh k c high o cap handle hstate hhandle hrun := by
    obtain ⟨hheld, hwaiting⟩ := h.fresh k c high o cap handle hstate hhandle hrun
    refine ⟨hheld, fun blk' hmem hclose => ?_⟩
    rcases mem_waiting_enqueue.mp hmem with hmem | ⟨rfl, rfl⟩
    · exact hwaiting blk' hmem hclose
    · exact hfresh c handle hclose hstate hhandle high o cap hrun

/-- A block whose call the driver does not take may join any queue. -/
theorem Claims.enqueue_refused (h : Claims s) (b : Board) {blk : Block}
    (hnone : blk.admitted? = none) : Claims (s.enqueue b blk) := by
  have hcall {c : Client} {call : DriverCall} : blk.admitted? ≠ some (c, call) := by
    simp [hnone]
  apply h.enqueue
  · rintro _ _ ⟨_, htargets, _⟩
    exact absurd htargets hcall
  · rintro _ _ ⟨_, htargets, _⟩
    exact absurd htargets hcall
  · exact fun _ _ hcloses => absurd hcloses hcall
  · exact fun _ _ hcloses => absurd hcloses hcall

/-- The descriptors that a client holds once it has sent a request. -/
theorem sent_held_sublist (x : Session) (b : Board) (op : Op) (cap : Nat) :
    (x.sent b op cap).held.Sublist x.held := by
  unfold Session.sent
  split
  · split
    · exact List.erase_sublist
    · exact List.Sublist.refl _
  · exact List.Sublist.refl _

/-- A client that sends a close does not hold its descriptor any more. -/
theorem not_mem_sent {x : Session} (hnodup : x.held.Nodup) {b : Board} {c c' : Client} {op : Op}
    {cap : Nat} {handle : Int} (h : (Block.request c op cap).Closes c' handle) :
    (b, handle) ∉ (x.sent b op cap).held := by
  obtain ⟨high, cap, heq, hadmits⟩ := admitted?_eq_some_iff.mp h
  cases heq
  simp [Session.sent, hadmits, hnodup.mem_erase_iff]

/-- A client that sends a request names a descriptor that it holds. -/
theorem Claims.send (h : Claims s) {c : Client} {r : Request} {b : Board}
    (hstate : (s.session c).state = .connected) (hr : r.index = some b)
    (hsends : SendsOwn s (.send c r)) :
    Claims ((s.enqueue b (.request c r.op r.cap)).setSession c
      ((s.session c).sent b r.op r.cap)) := by
  have hshrinks : Shrinks s (s.setSession c ((s.session c).sent b r.op r.cap)) :=
    shrinks_setSession fun _ => ⟨hstate, sent_held_sublist _ _ _ _⟩
  have h' := h.shrinks hshrinks fun _ _ _ _ _ hservice => hservice
  have hheld {c' : Client} {handle : Int}
      (htarget : (Block.request c r.op r.cap).Targets c' handle) :
      c' = c ∧ (b, handle) ∈ (s.session c).held := by
    obtain ⟨rfl, -⟩ := targets_request htarget
    exact ⟨rfl, hsends b handle hr htarget⟩
  apply h'.enqueue
  · intro c' handle htarget
    obtain ⟨rfl, hmem⟩ := hheld htarget
    exact h.owns c' b handle (.held hstate hmem)
  · intro c' handle htarget blk' hmem hclose
    obtain ⟨rfl, hin⟩ := hheld htarget
    exact h.closing b blk' c' handle hmem hclose hstate hin
  · intro c' handle hclose _
    obtain ⟨rfl, -⟩ := hheld (targets_of_closes hclose)
    simpa using not_mem_sent (h.heldNodup c' hstate) hclose
  · intro c' handle hclose _ hhandle high o cap hrun
    obtain ⟨rfl, hmem⟩ := hheld (targets_of_closes hclose)
    exact (h.fresh b c' high o cap handle hstate hhandle hrun).1 hmem

/-! ### Blocks that run -/

/-- What `openDescriptor` hands out was free and now belongs to the client. -/
theorem applyCall_opened {u : Int → Option Client} {c : Client} {o : OpenDescriptorIn}
    {handle : Int} (h : (applyCall u c (.openDescriptor o)).1 = some handle)
    (hhandle : 0 ≤ handle) :
    u handle = none ∧ (applyCall u c (.openDescriptor o)).2 handle = some c := by
  cases halloc : SlotTable.alloc DescriptorTable.handles u c with
  | none =>
      simp only [applyCall, halloc, Option.some.injEq] at h
      omega
  | some r =>
      obtain ⟨handle', u'⟩ := r
      obtain ⟨hfree, rfl⟩ := SlotTable.alloc_eq_some_iff.mp halloc
      simp only [applyCall, halloc, Option.some.injEq] at h
      subst h
      refine ⟨(SlotTable.firstFree_eq_some hfree).2, ?_⟩
      simp [applyCall, halloc]

section Taken

variable {b : Board} {blk : Block} {retry : Bool} {service : Service} {c : Client}
  {call : DriverCall}

/-- A call that the driver takes leaves only what its block has opened to be claimed anew. -/
theorem claim_of_answer (hrun : s.running b = some (blk, .connected retry service))
    {c' : Client} {k : Board} {handle : Int}
    (hclaim : Claim (s.answer b blk service c call) c' k handle) :
    Claim s c' k handle ∨
      (k = b ∧ 0 ≤ handle ∧ (∃ high o cap,
          blk = .request c' (.call high (.openDescriptor o)) cap) ∧
        (applyCall (s.slots service) c call).1 = some handle) := by
  cases hclaim with
  | held hstate hmem =>
      left
      rw [(answer_session c').held] at hmem
      exact .held ((answer_session c').connected.mp hstate) hmem
  | waiting hmem htarget =>
      exact .inl (.waiting ((waiting_answer_sublist hrun k).subset hmem) htarget)
  | opened hstate hhandle hrun' =>
      rcases answered_of_answer hrun' with hrun' | ⟨rfl, rfl, hopened⟩
      · exact .inl (.opened ((answer_session c').connected.mp hstate) hhandle hrun')
      · exact .inr ⟨rfl, hhandle, ⟨_, _, _, rfl⟩, hopened.symm⟩

/-- Behind a close that the driver has taken, nobody claims its descriptor. -/
theorem Claims.not_claim_closed (h : Claims s)
    (hrun : s.running b = some (blk, .connected retry service)) {handle : Int}
    (hclose : blk.Closes c handle) :
    ¬ Claim (s.answer b blk service c (.closeDescriptor handle)) c b handle := by
  have hmem : blk ∈ s.waiting b := mem_waiting_of_running hrun trivial
  intro hclaim
  cases hclaim with
  | held hstate hin =>
      rw [(answer_session c).held] at hin
      exact h.closing b blk c handle hmem hclose ((answer_session c).connected.mp hstate) hin
  | waiting hin htarget =>
      have hordered := h.ordered b
      rw [waiting_of_running hrun trivial, List.pairwise_cons] at hordered
      rw [waiting_answer_self] at hin
      exact hordered.1 _ hin c handle hclose htarget
  | opened _ _ hrun' =>
      rcases answered_of_answer hrun' with hrun' | ⟨-, rfl, -⟩
      · rw [hrun] at hrun'
        cases hrun'
      · cases (admitted?_eq_some.mp hclose).1

theorem Claims.owns_taken (h : Claims s) (hindex : IndexInv s)
    (hrun : s.running b = some (blk, .connected retry service))
    (hcall : blk.admitted? = some (c, call)) (hattached : service ∈ s.registry)
    {c' : Client} {k : Board} {handle : Int}
    (hclaim : Claim (s.answer b blk service c call) c' k handle) :
    Owns (s.answer b blk service c call) c' k handle := by
  have hb : s.registry[b.val]? = some service :=
    hindex.indexed b service (.inr ⟨blk, _, hrun, rfl⟩) hattached
  intro service' hk
  rw [answer_registry] at hk
  rw [answer_slots]
  rcases claim_of_answer hrun hclaim with hbefore | ⟨rfl, hhandle, ⟨high, o, cap, rfl⟩, hopened⟩
  · have hslot := h.owns c' k handle hbefore service' hk
    by_cases hservice : service' = service
    · subst hservice
      have hkb : k = b := by
        apply Fin.ext
        apply (List.getElem?_inj (List.getElem?_eq_some_iff.mp hk).choose hindex.nodup).mp
        rw [hk, hb]
      subst hkb
      rw [Function.update_self]
      by_cases hclose : call = .closeDescriptor handle
      · subst hclose
        have hself := h.owns c k handle
          (.waiting (mem_waiting_of_running hrun trivial) ⟨_, hcall, rfl⟩) service' hk
        rw [hslot, Option.some.injEq] at hself
        subst hself
        exact absurd hclaim (h.not_claim_closed hrun hcall)
      · exact applyCall_of_open hslot hclose
    · rw [Function.update_of_ne hservice, hslot]
  · rw [hb, Option.some.injEq] at hk
    subst hk
    cases (admitted?_eq_some.mp hcall).1
    rw [Function.update_self]
    exact (applyCall_opened hopened hhandle).2

theorem Claims.taken (h : Claims s) (hindex : IndexInv s)
    (hrun : s.running b = some (blk, .connected retry service))
    (hcall : blk.admitted? = some (c, call)) (hattached : service ∈ s.registry) :
    Claims (s.answer b blk service c call) where
  owns c' k handle hclaim := h.owns_taken hindex hrun hcall hattached hclaim
  heldNodup c' hstate := by
    rw [(answer_session c').held]
    exact h.heldNodup c' ((answer_session c').connected.mp hstate)
  ordered k := (h.ordered k).sublist (waiting_answer_sublist hrun k)
  closing k blk' c' handle hmem hclose := by
    rw [(answer_session c').held, (answer_session c').connected]
    exact h.closing k blk' c' handle ((waiting_answer_sublist hrun k).subset hmem) hclose
  fresh k c' high o cap handle hstate hhandle hrun' := by
    rw [(answer_session c').connected] at hstate
    rw [(answer_session c').held]
    rcases answered_of_answer hrun' with hbefore | ⟨rfl, rfl, hopened⟩
    · obtain ⟨hheld, hwaiting⟩ := h.fresh k c' high o cap handle hstate hhandle hbefore
      refine ⟨hheld, fun blk' hmem => ?_⟩
      exact hwaiting blk' ((waiting_answer_sublist hrun k).subset hmem)
    · cases (admitted?_eq_some.mp hcall).1
      have hservice : s.registry[k.val]? = some service :=
        hindex.indexed k service (.inr ⟨_, _, hrun, rfl⟩) hattached
      have hfree := (applyCall_opened hopened.symm hhandle).1
      have hnone (c'' : Client) : ¬ Claim s c'' k handle := by
        intro hclaim
        rw [h.owns c'' k handle hclaim service hservice] at hfree
        cases hfree
      refine ⟨fun hmem => hnone _ (.held hstate hmem), fun blk' hmem hclose => ?_⟩
      have hmem := (waiting_answer_sublist hrun k).subset hmem
      exact hnone _ (.waiting hmem (targets_of_closes hclose))

end Taken

section Tracked

variable {b : Board} {c : Client} {high : UInt32} {call : DriverCall} {cap : Nat}
  {opened : Option Int}

/-- A handle in the output of a call was opened by it. -/
theorem answered_open
    (hrun : s.running b = some (.request c (.call high call) cap, .answered opened))
    {handle : Int} (hopened : opened = some handle) (hcall : ∃ o, call = .openDescriptor o) :
    ∃ o, s.running b = some (.request c (.call high (.openDescriptor o)) cap,
      .answered (some handle)) := by
  obtain ⟨o, rfl⟩ := hcall
  exact ⟨o, by rw [hrun, hopened]⟩

/-- The state behind the tracking of a request. -/
abbrev tracked (s : Broker) (b : Board) (c : Client) (high : UInt32) (call : DriverCall)
    (cap : Nat) (opened : Option Int) : Broker :=
  (s.setSession c ((s.session c).track b high call cap opened)).setRunning b none

theorem tracked_session_of_ne {c' : Client} (h : c' ≠ c) :
    (tracked s b c high call cap opened).session c' = s.session c' := by
  simp [h]

theorem tracked_session_self : (tracked s b c high call cap opened).session c =
    (s.session c).track b high call cap opened := by
  simp

theorem tracked_state (c' : Client) :
    ((tracked s b c high call cap opened).session c').state = (s.session c').state := by
  by_cases hc : c' = c
  · subst hc
    simp
  · rw [tracked_session_of_ne hc]

theorem running_of_tracked {k : Board} {r : Block × Phase}
    (h : (tracked s b c high call cap opened).running k = some r) :
    k ≠ b ∧ s.running k = some r := by
  by_cases hk : k = b
  · subst hk
    simp at h
  · refine ⟨hk, ?_⟩
    simpa [hk] using h

theorem waiting_tracked
    (hrun : s.running b = some (.request c (.call high call) cap, .answered opened)) (k : Board) :
    (tracked s b c high call cap opened).waiting k = s.waiting k :=
  waiting_setRunning_none (k := k) hrun

/-- Tracking hands out at most the descriptor that the call has opened for the client. -/
theorem held_tracked
    (hrun : s.running b = some (.request c (.call high call) cap, .answered opened))
    (c' : Client) :
    ((tracked s b c high call cap opened).session c').held = (s.session c').held ∨
      ∃ handle o, 0 ≤ handle ∧
        s.running b = some (.request c' (.call high (.openDescriptor o)) cap,
          .answered (some handle)) ∧
        ((tracked s b c high call cap opened).session c').held =
          (b, handle) :: (s.session c').held := by
  by_cases hc : c' = c
  · subst hc
    rw [tracked_session_self]
    rcases track_held (s.session c') b high call cap opened with hheld |
      ⟨handle, hhandle, hopened, hcall, hheld⟩
    · exact .inl hheld
    · obtain ⟨o, hrun⟩ := answered_open hrun hopened hcall
      exact .inr ⟨handle, o, hhandle, hrun, hheld⟩
  · rw [tracked_session_of_ne hc]
    exact .inl rfl

theorem mem_held_tracked
    (hrun : s.running b = some (.request c (.call high call) cap, .answered opened))
    {c' : Client} {d : Board × Int}
    (hmem : d ∈ ((tracked s b c high call cap opened).session c').held) :
    d ∈ (s.session c').held ∨ (d.1 = b ∧ 0 ≤ d.2 ∧ ∃ o,
      s.running b = some (.request c' (.call high (.openDescriptor o)) cap,
        .answered (some d.2))) := by
  rcases held_tracked hrun c' with hheld | ⟨handle, o, hhandle, hrun, hheld⟩
  · rw [hheld] at hmem
    exact .inl hmem
  · rw [hheld] at hmem
    rcases List.mem_cons.mp hmem with rfl | hmem
    · exact .inr ⟨rfl, hhandle, o, hrun⟩
    · exact .inl hmem

/-- Tracking claims nothing that was not claimed when the call had been made. -/
theorem claim_of_tracked
    (hrun : s.running b = some (.request c (.call high call) cap, .answered opened))
    {c' : Client} {k : Board} {handle : Int}
    (hclaim : Claim (tracked s b c high call cap opened) c' k handle) : Claim s c' k handle := by
  cases hclaim with
  | held hstate hmem =>
      rw [tracked_state] at hstate
      rcases mem_held_tracked hrun hmem with hmem | ⟨rfl, hhandle, o, hrun'⟩
      · exact .held hstate hmem
      · exact .opened hstate hhandle hrun'
  | waiting hmem htarget =>
      rw [waiting_tracked hrun] at hmem
      exact .waiting hmem htarget
  | opened hstate hhandle hrun' =>
      rw [tracked_state] at hstate
      exact .opened hstate hhandle (running_of_tracked hrun').2

theorem Claims.track (h : Claims s)
    (hrun : s.running b = some (.request c (.call high call) cap, .answered opened)) :
    Claims (tracked s b c high call cap opened) where
  owns c' k handle hclaim := h.owns c' k handle (claim_of_tracked hrun hclaim)
  heldNodup c' hstate := by
    rw [tracked_state] at hstate
    rcases held_tracked hrun c' with hheld | ⟨handle, o, hhandle, hrun', hheld⟩
    · rw [hheld]
      exact h.heldNodup c' hstate
    · have hfresh := h.fresh b c' high o cap handle hstate hhandle hrun'
      rw [hheld]
      exact List.nodup_cons.mpr ⟨hfresh.1, h.heldNodup c' hstate⟩
  ordered k := by
    rw [waiting_tracked hrun]
    exact h.ordered k
  closing k blk c' handle hmem hclose hstate hin := by
    rw [waiting_tracked hrun] at hmem
    rw [tracked_state] at hstate
    rcases mem_held_tracked hrun hin with hin | ⟨rfl, hhandle, o, hrun'⟩
    · exact h.closing k blk c' handle hmem hclose hstate hin
    · exact (h.fresh k c' high o cap handle hstate hhandle hrun').2 blk hmem hclose
  fresh k c' high' o cap' handle hstate hhandle hrun' := by
    rw [tracked_state] at hstate
    obtain ⟨hk, hrun'⟩ := running_of_tracked hrun'
    obtain ⟨hheld, hwaiting⟩ := h.fresh k c' high' o cap' handle hstate hhandle hrun'
    rw [waiting_tracked hrun]
    refine ⟨fun hin => ?_, hwaiting⟩
    rcases mem_held_tracked hrun hin with hin | ⟨heq, -⟩
    · exact hheld hin
    · exact hk heq

end Tracked

/-! ### Steps -/

/-- A change of the registry that brings no other adapter to a claimed index. -/
theorem Claims.registry (h : Claims s) {registry : List Service} {next : Service}
    (hkeeps : ∀ c b handle, Claim s c b handle → ∀ service,
      registry[b.val]? = some service → s.registry[b.val]? = some service) :
    Claims { s with registry, next } :=
  h.shrinks ⟨rfl, fun _ hstate => ⟨hstate, List.Sublist.refl _⟩, fun _ => List.Sublist.refl _,
    fun _ _ _ => Iff.rfl⟩ hkeeps

theorem Claims.stepped (h : Claims s) (hindex : IndexInv s) (hkeeps : KeepsClaims s a)
    (hsends : SendsOwn s a) (hstep : Stepped s a t) : Claims t := by
  by_cases hloud : a.Loud
  · cases hstep with
    | @sendOutOfRange c => exact h.enqueue_refused 0 (admitted?_outOfRange (c := c))
    | send hstate hr => exact h.send hstate hr hsends
    | disconnect => exact h.setSession (by simp)
    | taken hrun hcall hattached hadmits =>
        exact h.taken hindex hrun (admitted?_eq_some.mpr ⟨hcall, hadmits⟩) hattached
    | track hrun => exact h.track hrun
    | reap => exact h.setSession (by simp)
    | @closeNext c b handle rest =>
        have h' : Claims (s.setState c (.closing rest)) := h.setSession (by simp)
        exact h'.enqueue_refused b (admitted?_reapClose (c := c) handle)
    | freeSession => exact h.setSession (by simp)
    | plug => exact h.registry hkeeps
    | unplug => exact h.registry hkeeps
    | _ => exact False.elim hloud
  · have hquiet := quiet_of_stepped hstep hloud
    exact h.shrinks hquiet.shrinks fun _ _ _ _ _ hservice => hquiet.registry ▸ hservice

theorem Claims.actsOnOwn (h : Claims s) (hindex : IndexInv s) (a : Action) : ActsOnOwn s a := by
  cases a with
  | call b outcome =>
      cases outcome with
      | taken =>
          intro blk retry service c handle hrun hattached htarget owner hslot
          have hservice := hindex.indexed b service (.inr ⟨blk, _, hrun, rfl⟩) hattached
          have hclaim : Claim s c b handle := .waiting (mem_waiting_of_running hrun trivial) htarget
          rw [h.owns c b handle hclaim service hservice, Option.some.injEq] at hslot
          exact hslot.symm
      | _ => trivial
  | _ => trivial

/-- While clients name what they hold and the registry keeps the adapters of claimed indices,
every call acts on descriptors of the client it is made for: those of requests and those of
`session_reap`. -/
theorem calls_act_on_own {as : List Action}
    (hindices : Transition.Along step KeepsIndices .init as)
    (hclaims : Transition.Along step KeepsClaims .init as)
    (hsends : Transition.Along step SendsOwn .init as) :
    Transition.Along step ActsOnOwn .init as := by
  refine Transition.along_of_invariant (I := fun s => IndexInv s ∧ Claims s) ?_ ?_
    ⟨indexInv_init, claims_init⟩ ((hindices.and hclaims).and hsends)
  · intro s a t ⟨hindex, h⟩ ⟨⟨hi, hk⟩, hs⟩ ht
    have hstep := stepped_of_step ht
    exact ⟨hindex.stepped hi hstep, h.stepped hindex hk hs hstep⟩
  · intro s a ⟨hindex, h⟩ _
    exact h.actsOnOwn hindex a

/-- The request that opens a descriptor for a device on board 0, up to its reply. -/
def opensDevice (c : Client) : List Action :=
  [.send c ⟨0, .call 0 (.openDescriptor ⟨5, 0, 0, 13, 0, 0, 1⟩), 16⟩,
    .begin 0, .lookup 0, .openService 0 true, .call 0 .taken, .track 0]

/-- A client opens a descriptor, writes to it and leaves. -/
def opensAndWrites : List Action :=
  (.plug 0 :: opensDevice 0) ++
    [.send 0 ⟨0, .call 0 (.write 1 1 [42]), 16⟩, .begin 0, .lookup 0, .call 0 .taken, .track 0,
      .disconnect 0]

/-- `session_reap` asks for a close, and the driver refuses it. -/
def reaps : List Action :=
  [.reap 0, .closeNext 0, .begin 0, .lookup 0, .call 0 .failed, .freeSession 0]

theorem along_keepsClaims {as : List Action} (h : ∀ a ∈ as, a.keepsRegistry = true)
    (s : Broker) : Transition.Along step KeepsClaims s as := by
  refine Transition.along_of_forall (fun a ha s => ?_) s
  intro c b handle _ service hservice
  rwa [registryAfter_of_keepsRegistry (h a ha)] at hservice

theorem calls_act_on_own_opensAndWrites :
    Transition.Along step ActsOnOwn .init (opensAndWrites ++ reaps) := by
  have hother {P : Broker → Action → Prop} {as : List Action} (has : ∀ a ∈ as, ∀ s, P s a)
      (s : Broker) : Transition.Along step P s as := Transition.along_of_forall has s
  apply calls_act_on_own
  · exact ⟨keepsIndices_plug_last _, fun t _ => along_keepsIndices (by decide) t⟩
  · refine ⟨?_, fun t _ => along_keepsClaims (by decide) t⟩
    intro c b handle hclaim
    cases hclaim with
    | held _ hmem => cases hmem
    | waiting hmem _ => cases hmem
    | opened _ _ hrun => cases hrun
  · refine Transition.along_append ?_ fun t _ => hother (by simp [reaps, SendsOwn]) t
    refine Transition.along_append (hother ?_ _) ?_
    · -- An open names no descriptor.
      simp only [opensDevice, List.forall_mem_cons, SendsOwn]
      refine ⟨fun _ => trivial, fun s b handle _ htarget => ?_, by simp⟩
      obtain ⟨-, high, call, heq, htarget⟩ := targets_request htarget
      cases heq
      cases htarget
    · intro t ht
      rw [← Option.get_of_eq_some (by decide) ht]
      refine ⟨?_, fun u _ => hother (by simp [SendsOwn]) u⟩
      intro b handle hb htarget
      obtain ⟨-, high, call, heq, htarget⟩ := targets_request htarget
      cases heq
      cases htarget
      cases hb
      decide

/-! ## Where the conditions fail -/

/-- The request of `opensDevice` on board 0, up to its reply, when the connection is stale. -/
def opensAgain (c : Client) : List Action :=
  [.send c ⟨0, .call 0 (.openDescriptor ⟨5, 0, 0, 13, 0, 0, 1⟩), 16⟩,
    .begin 0, .lookup 0, .call 0 .dead, .lookup 0, .openService 0 true, .call 0 .taken, .track 0]

/-- A client writes to handle 1, up to the driver call. -/
def writesToOne (c : Client) : List Action :=
  [.send c ⟨0, .call 0 (.write 1 1 [42]), 16⟩, .begin 0, .lookup 0]

/-- Client 1 names a handle that is client 0's. -/
def foreignHandle : List Action :=
  (.plug 0 :: opensDevice 0) ++ writesToOne 1

/-- The adapter enumerates again, and client 1 gets the handle that client 0 still holds. -/
def staleHandle : List Action :=
  (.plug 0 :: opensDevice 0) ++ [.unplug 0, .plug 0] ++ opensAgain 1 ++ writesToOne 0

/-- The adapter enumerates again before client 0 is told of its handle. -/
def staleReply : List Action :=
  [.plug 0, .send 0 ⟨0, .call 0 (.openDescriptor ⟨5, 0, 0, 13, 0, 0, 1⟩), 16⟩,
      .begin 0, .lookup 0, .openService 0 true, .call 0 .taken, .unplug 0, .plug 0, .track 0] ++
    opensAgain 1 ++ writesToOne 0

/-- The adapter of index 0 leaves when a close of client 0 is queued, and the one that moves up
has handle 1 open for client 1. -/
def staleRequest : List Action :=
  (.plug 0 :: .plug 1 :: opensDevice 0) ++
    [.send 1 ⟨1, .call 0 (.openDescriptor ⟨5, 0, 0, 13, 0, 0, 1⟩), 16⟩,
      .begin 1, .lookup 1, .openService 1 true, .call 1 .taken, .track 1,
      .send 1 ⟨1, .call 0 (.write 1 1 [42]), 16⟩,
      .begin 1, .lookup 1, .call 1 .dead, .lookup 1, .openService 1 false,
      .send 0 ⟨0, .call 0 (.closeDescriptor 1), 16⟩, .unplug 0,
      .begin 0, .lookup 0, .call 0 .dead, .lookup 0, .openService 0 true]

/-- The adapter that is connected for index 1 moves to index 0, and the connection is lost when
client 0 holds a descriptor on it. -/
def moved : List Action :=
  [.plug 0, .plug 1, .send 1 ⟨1, .probe, 0⟩, .begin 1, .lookup 1, .openService 1 true,
    .unplug 0, .plug 1,
    .send 0 ⟨1, .call 0 (.openDescriptor ⟨5, 0, 0, 13, 0, 0, 1⟩), 16⟩,
    .begin 1, .lookup 1, .call 1 .taken, .track 1,
    .send 1 ⟨1, .call 0 (.openDescriptor ⟨5, 0, 0, 13, 0, 0, 1⟩), 16⟩,
    .begin 1, .lookup 1, .call 1 .dead, .lookup 1, .openService 1 true, .call 1 .taken, .track 1,
    .send 0 ⟨1, .call 0 (.write 1 1 [42]), 16⟩, .begin 1, .lookup 1]

/-- The next call of a board acts on a descriptor that another client has opened. -/
theorem not_along_actsOnOwn {as : List Action} {t : Broker} (b : Board) (c owner : Client)
    (call : DriverCall) (retry : Bool) (service : Service)
    (hrun : Transition.run step .init as = some t)
    (hrunning : t.running b = some (.request c (.call 0 call) 16, .connected retry service))
    (hadmits : call.AdmitsOutput 16) (htarget : target call = some 1)
    (hattached : service ∈ t.registry) (hslot : t.slots service 1 = some owner)
    (hne : owner ≠ c) : ¬ Transition.Along step ActsOnOwn .init (as ++ [.call b .taken]) := by
  intro h
  have hcall : (Block.request c (.call 0 call) 16).admitted? = some (c, call) :=
    admitted?_eq_some_iff.mpr ⟨0, 16, rfl, hadmits⟩
  exact hne (h.at hrun _ retry service c 1 hrunning hattached ⟨call, hcall, htarget⟩ owner hslot)

/-- No condition can be left out: handles are forwarded as they stand, whoever they belong to by
then. -/
theorem calls_act_on_foreign :
    (∀ as ∈ [foreignHandle, staleHandle, staleReply, staleRequest],
        ¬ Transition.Along step ActsOnOwn .init (as ++ [.call 0 .taken])) ∧
      ¬ Transition.Along step ActsOnOwn .init (moved ++ [.call 1 .taken]) := by
  simp only [List.forall_mem_cons]
  refine ⟨⟨?_, ?_, ?_, ?_, by simp⟩, ?_⟩
  · exact not_along_actsOnOwn 0 1 0 (.write 1 1 [42]) false 0
      (Option.some_get (by decide)).symm (by decide) (by decide) rfl (by decide) (by decide)
      (by decide)
  · exact not_along_actsOnOwn 0 0 1 (.write 1 1 [42]) false 1
      (Option.some_get (by decide)).symm (by decide) (by decide) rfl (by decide) (by decide)
      (by decide)
  · exact not_along_actsOnOwn 0 0 1 (.write 1 1 [42]) false 1
      (Option.some_get (by decide)).symm (by decide) (by decide) rfl (by decide) (by decide)
      (by decide)
  · exact not_along_actsOnOwn 0 0 1 (.closeDescriptor 1) true 1
      (Option.some_get (by decide)).symm (by decide) (by decide) rfl (by decide) (by decide)
      (by decide)
  · exact not_along_actsOnOwn 1 0 1 (.write 1 1 [42]) false 2
      (Option.some_get (by decide)).symm (by decide) (by decide) rfl (by decide) (by decide)
      (by decide)

end Gpibd

end DarwinGpib
