import DarwinGpib.Model.Gpibd

/-!
# What a step of the broker can do

One inversion lemma for all actions, so that no invariant looks into `step` again.
-/

namespace DarwinGpib

namespace Gpibd

/-! ## The end of a block -/

section Finish

variable (s : Broker) (b : Board) (blk : Block)

@[simp] theorem finish_registry : (s.finish b blk).registry = s.registry := by
  cases blk <;> rfl

@[simp] theorem finish_next : (s.finish b blk).next = s.next := by
  cases blk <;> rfl

@[simp] theorem finish_slots : (s.finish b blk).slots = s.slots := by
  cases blk <;> rfl

@[simp] theorem finish_conn : (s.finish b blk).conn = s.conn := by
  cases blk <;> rfl

@[simp] theorem finish_queue : (s.finish b blk).queue = s.queue := by
  cases blk <;> rfl

@[simp] theorem finish_running :
    (s.finish b blk).running = Function.update s.running b none := by
  cases blk <;> rfl

variable (service : Service) (c : Client) (call : DriverCall)

@[simp] theorem answer_registry : (s.answer b blk service c call).registry = s.registry := by
  cases blk <;> rfl

@[simp] theorem answer_next : (s.answer b blk service c call).next = s.next := by
  cases blk <;> rfl

@[simp] theorem answer_conn : (s.answer b blk service c call).conn = s.conn := by
  cases blk <;> rfl

@[simp] theorem answer_queue : (s.answer b blk service c call).queue = s.queue := by
  cases blk <;> rfl

@[simp] theorem answer_slots : (s.answer b blk service c call).slots =
    Function.update s.slots service (applyCall (s.slots service) c call).2 := by
  cases blk <;> rfl

end Finish

/-! ## Steps -/

/-- The steps that the broker and its surroundings can take. -/
inductive Stepped (s : Broker) : Action → Broker → Prop where
  | sendOutOfRange {c r} (hc : (s.session c).state = .connected) (hr : r.index = none) :
      Stepped s (.send c r) (s.enqueue 0 (.outOfRange c))
  | send {c r b} (hc : (s.session c).state = .connected) (hr : r.index = some b) :
      Stepped s (.send c r)
        ((s.enqueue b (.request c r.op r.cap)).setSession c ((s.session c).sent b r.op r.cap))
  | disconnect {c} (hc : (s.session c).state = .connected) :
      Stepped s (.disconnect c) (s.setState c .disconnected)
  | begin {b blk rest} (hidle : s.running b = none) (hqueue : s.queue b = blk :: rest) :
      Stepped s (.begin b) { s.setRunning b (some (blk, .starting false)) with
        queue := Function.update s.queue b rest }
  | unresolved {b blk retry} (hrun : s.running b = some (blk, .starting retry))
      (hwhy : Broker.rejects blk = true ∨ s.conn b = none) : Stepped s (.lookup b) (s.finish b blk)
  | probed {b blk retry} (hrun : s.running b = some (blk, .starting retry))
      (hcall : blk.call? = none) : Stepped s (.lookup b) (s.finish b blk)
  | cached {b blk retry service c call} (hrun : s.running b = some (blk, .starting retry))
      (hconn : s.conn b = some service) (hcall : blk.call? = some (c, call)) :
      Stepped s (.lookup b) (s.setRunning b (some (blk, .connected retry service)))
  | located {b blk retry service} (hrun : s.running b = some (blk, .starting retry))
      (hconn : s.conn b = none) (hservice : s.registry[b.val]? = some service) :
      Stepped s (.lookup b) (s.setRunning b (some (blk, .found retry service)))
  | notOpened {b blk retry service} (hrun : s.running b = some (blk, .found retry service)) :
      Stepped s (.openService b false) (s.finish b blk)
  | openedForProbe {b blk retry service}
      (hrun : s.running b = some (blk, .found retry service)) (hcall : blk.call? = none) :
      Stepped s (.openService b true)
        ({ s with conn := Function.update s.conn b (some service) }.finish b blk)
  | opened {b blk retry service c call}
      (hrun : s.running b = some (blk, .found retry service))
      (hcall : blk.call? = some (c, call)) :
      Stepped s (.openService b true)
        ({ s with conn := Function.update s.conn b (some service) }.setRunning b
          (some (blk, .connected retry service)))
  | taken {b blk retry service c call}
      (hrun : s.running b = some (blk, .connected retry service))
      (hcall : blk.call? = some (c, call)) (hattached : service ∈ s.registry)
      (hadmits : call.AdmitsOutput blk.outSize) :
      Stepped s (.call b .taken) (s.answer b blk service c call)
  | failed {b blk retry service} (hrun : s.running b = some (blk, .connected retry service))
      (hattached : service ∈ s.registry) : Stepped s (.call b .failed) (s.finish b blk)
  | deadInReap {b c handle retry service}
      (hrun : s.running b = some (.reapClose c handle, .connected retry service)) :
      Stepped s (.call b .dead) (s.finish b (.reapClose c handle))
  | stale {b blk service} (hrun : s.running b = some (blk, .connected false service)) :
      Stepped s (.call b .dead) ((s.dropBoard b).setRunning b (some (blk, .starting true)))
  | lost {b blk service} (hrun : s.running b = some (blk, .connected true service)) :
      Stepped s (.call b .dead) ((s.dropBoard b).finish b blk)
  | track {b c high call cap opened}
      (hrun : s.running b = some (.request c (.call high call) cap, .answered opened)) :
      Stepped s (.track b)
        ((s.setSession c ((s.session c).track b high call cap opened)).setRunning b none)
  | reap {c} (hc : (s.session c).state = .disconnected) :
      Stepped s (.reap c) (s.setSession c
        { s.session c with state := .reaping (s.session c).descs, descs := [] })
  | closeNext {c b handle rest} (hc : (s.session c).state = .reaping ((b, handle) :: rest)) :
      Stepped s (.closeNext c) ((s.enqueue b (.reapClose c handle)).setState c (.closing rest))
  | freeSession {c} (hc : (s.session c).state = .reaping []) :
      Stepped s (.freeSession c) (s.setState c .freed)
  | plug {position} (h : position ≤ s.registry.length) :
      Stepped s (.plug position)
        { s with registry := s.registry.insertIdx position s.next, next := s.next + 1 }
  | unplug {position} (h : position < s.registry.length) :
      Stepped s (.unplug position) { s with registry := s.registry.eraseIdx position }

variable {s t : Broker}

theorem stepped_send {c : Client} {r : Request} (h : s.send c r = some t) :
    Stepped s (.send c r) t := by
  unfold Broker.send at h
  split at h
  · split at h <;> cases h
    · exact .sendOutOfRange ‹_› ‹_›
    · exact .send ‹_› ‹_›
  · cases h

theorem stepped_begin {b : Board} (h : s.begin b = some t) : Stepped s (.begin b) t := by
  unfold Broker.begin at h
  split at h
  · cases h
    exact .begin ‹_› ‹_›
  · cases h

theorem stepped_lookup {b : Board} (h : s.lookup b = some t) : Stepped s (.lookup b) t := by
  unfold Broker.lookup at h
  split at h
  · rename_i blk retry hrun
    split at h
    · cases h
      exact .unresolved hrun (.inl ‹_›)
    split at h
    · rename_i service hconn
      cases h
      unfold Broker.enter
      split
      · exact .probed hrun ‹_›
      · exact .cached hrun hconn ‹_›
    split at h <;> cases h
    · exact .unresolved hrun (.inr ‹_›)
    · exact .located hrun ‹_› ‹_›
  · cases h

theorem stepped_openService {b : Board} {ok : Bool} (h : s.openService b ok = some t) :
    Stepped s (.openService b ok) t := by
  unfold Broker.openService at h
  split at h
  · rename_i blk retry service hrun
    cases ok with
    | false =>
        cases h
        exact .notOpened hrun
    | true =>
        cases h
        unfold Broker.enter
        split
        · exact .openedForProbe hrun ‹_›
        · exact .opened hrun ‹_›
  · cases h

theorem stepped_call {b : Board} {outcome : Outcome} (h : s.call b outcome = some t) :
    Stepped s (.call b outcome) t := by
  unfold Broker.call at h
  split at h
  · rename_i blk retry service hrun
    split at h
    · cases h
    rename_i c call hcall
    cases outcome with
    | taken =>
        simp only at h
        split at h <;> cases h
        rename_i htaken
        exact .taken hrun hcall htaken.1 htaken.2
    | failed =>
        simp only at h
        split at h <;> cases h
        exact .failed hrun ‹_›
    | dead =>
        simp only at h
        split at h
        · cases h
          exact .deadInReap hrun
        · cases retry with
          | false =>
              cases h
              exact .stale hrun
          | true =>
              cases h
              exact .lost hrun
  · cases h

theorem stepped_track {b : Board} (h : s.track b = some t) : Stepped s (.track b) t := by
  unfold Broker.track at h
  split at h
  · cases h
    exact .track ‹_›
  · cases h

theorem stepped_closeNext {c : Client} (h : s.closeNext c = some t) :
    Stepped s (.closeNext c) t := by
  unfold Broker.closeNext at h
  split at h
  · cases h
    exact .closeNext ‹_›
  · cases h

theorem stepped_of_step {a : Action} (h : step s a = some t) : Stepped s a t := by
  cases a with
  | send c r => exact stepped_send h
  | disconnect c =>
      simp only [step, Broker.disconnect] at h
      split at h <;> cases h
      exact .disconnect ‹_›
  | begin b => exact stepped_begin h
  | lookup b => exact stepped_lookup h
  | openService b ok => exact stepped_openService h
  | call b outcome => exact stepped_call h
  | track b => exact stepped_track h
  | reap c =>
      simp only [step, Broker.reap] at h
      split at h <;> cases h
      exact .reap ‹_›
  | closeNext c => exact stepped_closeNext h
  | freeSession c =>
      simp only [step, Broker.freeSession] at h
      split at h <;> cases h
      exact .freeSession ‹_›
  | plug position =>
      simp only [step, Broker.plug] at h
      split at h <;> cases h
      exact .plug ‹_›
  | unplug position =>
      simp only [step, Broker.unplug] at h
      split at h <;> cases h
      exact .unplug ‹_›

end Gpibd

end DarwinGpib
