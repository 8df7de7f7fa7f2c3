import DarwinGpib.Broker.Steps

/-!
# Board indices and adapters

`g_conn` is keyed by the position of an adapter in the registry, and positions shift. As long as
no adapter that the broker holds for an index moves to another position, every driver call for
an index runs on the adapter that the enumeration reports for it.
-/

namespace DarwinGpib

namespace Gpibd

/-- The service that a running block has found or is connected to. -/
def Phase.service : Phase → Option Service
  | .found _ service | .connected _ service => some service
  | _ => none

/-- The broker has cached a connection to a service for a board, or the board's running block
is about to use it. -/
def HeldFor (s : Broker) (b : Board) (service : Service) : Prop :=
  s.conn b = some service ∨
    ∃ blk ph, s.running b = some (blk, ph) ∧ ph.service = some service

/-! ## The property and its condition -/

/-- A driver call made for a board runs on the adapter that has the board's index, if it runs
on an adapter. -/
def CallsIndexed (s : Broker) : Action → Prop
  | .call b _ => ∀ blk retry service, s.running b = some (blk, .connected retry service) →
      service ∈ s.registry → (service, b.val) ∈ enumerateBoards s
  | _ => True

/-- No two indices are connected to the same adapter. -/
def DistinctConns (s : Broker) : Prop :=
  ∀ b b' service, s.conn b = some service → s.conn b' = some service → b = b'

/-- The registry behind an action. -/
def registryAfter (s : Broker) : Action → List Service
  | .plug position => s.registry.insertIdx position s.next
  | .unplug position => s.registry.eraseIdx position
  | _ => s.registry

/-- No adapter that stays attached leaves the position for which the broker holds it. -/
def KeepsIndices (s : Broker) (a : Action) : Prop :=
  ∀ b service, HeldFor s b service → s.registry[b.val]? = some service →
    service ∈ registryAfter s a → (registryAfter s a)[b.val]? = some service

/-! ## The invariant -/

structure IndexInv (s : Broker) : Prop where
  nodup : s.registry.Nodup
  fresh : ∀ service ∈ s.registry, service < s.next
  held : ∀ b service, HeldFor s b service → service < s.next
  indexed : ∀ b service, HeldFor s b service → service ∈ s.registry →
    s.registry[b.val]? = some service
  single : ∀ b b' service, HeldFor s b service → HeldFor s b' service → b = b'

theorem indexInv_init : IndexInv .init where
  nodup := List.nodup_nil
  fresh _ h := by cases h
  held _ _ h := by
    rcases h with h | ⟨blk, ph, h, -⟩
    · cases h
    · cases h
  indexed _ _ _ h := by cases h
  single _ _ _ h := by
    rcases h with h | ⟨blk, ph, h, -⟩
    · cases h
    · cases h

variable {s t : Broker}

/-- A step that leaves the registry alone and holds no more than before. -/
theorem IndexInv.of_held (h : IndexInv s) (hregistry : t.registry = s.registry)
    (hnext : t.next = s.next) (hheld : ∀ b service, HeldFor t b service → HeldFor s b service) :
    IndexInv t where
  nodup := by
    rw [hregistry]
    exact h.nodup
  fresh := by
    rw [hregistry, hnext]
    exact h.fresh
  held b service hb := by
    rw [hnext]
    exact h.held b service (hheld b service hb)
  indexed b service hb := by
    rw [hregistry]
    exact h.indexed b service (hheld b service hb)
  single b b' service hb hb' :=
    h.single b b' service (hheld b service hb) (hheld b' service hb')

/-- A change of the registry that keeps the indices of what the broker holds. -/
theorem IndexInv.of_registry (h : IndexInv s) {a : Action} (hkeeps : KeepsIndices s a)
    (hconn : t.conn = s.conn) (hrunning : t.running = s.running)
    (hregistry : t.registry = registryAfter s a) (hnodup : t.registry.Nodup)
    (hmem : ∀ service ∈ t.registry, service ∈ s.registry ∨ service = s.next)
    (hfresh : ∀ service ∈ t.registry, service < t.next) (hnext : s.next ≤ t.next) :
    IndexInv t := by
  have hheld (b : Board) (service : Service) (hb : HeldFor t b service) :
      HeldFor s b service := by
    simpa only [HeldFor, hconn, hrunning] using hb
  refine ⟨hnodup, hfresh, ?_, ?_, ?_⟩
  · intro b service hb
    exact Nat.lt_of_lt_of_le (h.held b service (hheld b service hb)) hnext
  · intro b service hb hattached
    have hb := hheld b service hb
    rcases hmem service hattached with hbefore | rfl
    · rw [hregistry] at hattached ⊢
      exact hkeeps b service hb (h.indexed b service hb hbefore) hattached
    · exact absurd (h.held b _ hb) (Nat.lt_irrefl _)
  · intro b b' service hb hb'
    exact h.single b b' service (hheld b service hb) (hheld b' service hb')

/-- Setting the running block of a board to a phase that holds nothing new. -/
theorem heldFor_setRunning {b : Board} {r : Option (Block × Phase)}
    (hr : ∀ blk ph service, r = some (blk, ph) → ph.service = some service → HeldFor s b service)
    (k : Board) (service : Service) (h : HeldFor (s.setRunning b r) k service) :
    HeldFor s k service := by
  rcases h with hconn | ⟨blk, ph, hrunning, hph⟩
  · exact .inl hconn
  by_cases hk : k = b
  · subst hk
    simp only [Broker.setRunning, Function.update_self] at hrunning
    exact hr blk ph service hrunning hph
  · simp only [Broker.setRunning, Function.update_of_ne hk] at hrunning
    exact .inr ⟨blk, ph, hrunning, hph⟩

/-- The service that `copy_service_for_board` finds is held for no other index. -/
theorem IndexInv.located (h : IndexInv s) {b : Board} {blk : Block} {retry : Bool}
    {service : Service} (hservice : s.registry[b.val]? = some service) :
    IndexInv (s.setRunning b (some (blk, .found retry service))) := by
  have hmem := List.mem_of_getElem? hservice
  have hnew (k : Board) (service' : Service)
      (hk : HeldFor (s.setRunning b (some (blk, .found retry service))) k service') :
      HeldFor s k service' ∨ (k = b ∧ service' = service) := by
    rcases hk with hconn | ⟨blk', ph, hrunning, hph⟩
    · exact .inl (.inl hconn)
    by_cases hkb : k = b
    · subst hkb
      simp only [Broker.setRunning, Function.update_self, Option.some.injEq,
        Prod.mk.injEq] at hrunning
      obtain ⟨-, rfl⟩ := hrunning
      exact .inr ⟨rfl, (Option.some.inj hph).symm⟩
    · simp only [Broker.setRunning, Function.update_of_ne hkb] at hrunning
      exact .inl (.inr ⟨blk', ph, hrunning, hph⟩)
  have hposition (k : Board) (hk : HeldFor s k service) : k = b := by
    have hlt : k.val < s.registry.length :=
      (List.getElem?_eq_some_iff.mp (h.indexed k service hk hmem)).choose
    apply Fin.ext
    apply (List.getElem?_inj hlt h.nodup).mp
    rw [h.indexed k service hk hmem, hservice]
  refine ⟨h.nodup, h.fresh, ?_, ?_, ?_⟩
  · intro k service' hk
    rcases hnew k service' hk with hk | ⟨rfl, rfl⟩
    · exact h.held k service' hk
    · exact h.fresh service' hmem
  · intro k service' hk hattached
    rcases hnew k service' hk with hk | ⟨rfl, rfl⟩
    · exact h.indexed k service' hk hattached
    · exact hservice
  · intro k k' service' hk hk'
    rcases hnew k service' hk with hold | ⟨hkb, hs⟩
    · rcases hnew k' service' hk' with hold' | ⟨hkb', hs⟩
      · exact h.single k k' service' hold hold'
      · rw [hs] at hold
        rw [hkb', hposition k hold]
    · rcases hnew k' service' hk' with hold' | ⟨hkb', -⟩
      · rw [hs] at hold'
        rw [hkb, hposition k' hold']
      · rw [hkb, hkb']

/-- Caching the connection that the running block has opened holds nothing new. -/
theorem heldFor_opened {b : Board} {blk : Block} {retry : Bool} {service : Service}
    (hrun : s.running b = some (blk, .found retry service)) (k : Board) (service' : Service)
    (h : HeldFor { s with conn := Function.update s.conn b (some service) } k service') :
    HeldFor s k service' := by
  rcases h with hconn | hrunning
  · by_cases hk : k = b
    · subst hk
      simp only [Function.update_self, Option.some.injEq] at hconn
      subst hconn
      exact .inr ⟨blk, _, hrun, rfl⟩
    · simp only [Function.update_of_ne hk] at hconn
      exact .inl hconn
  · exact .inr hrunning

theorem heldFor_dropBoard (b : Board) {k : Board} {service : Service}
    (h : HeldFor (s.dropBoard b) k service) : HeldFor s k service := by
  rcases h with hconn | hrunning
  · by_cases hk : k = b
    · subst hk
      simp at hconn
    · simp only [Broker.dropBoard, Function.update_of_ne hk] at hconn
      exact .inl hconn
  · exact .inr hrunning

theorem heldFor_finish {b k : Board} {blk : Block} {service : Service}
    (h : HeldFor (s.finish b blk) k service) : HeldFor s k service := by
  apply heldFor_setRunning (b := b) (r := none) (by simp) k service
  simpa [HeldFor] using h

theorem heldFor_answer {b k : Board} {blk : Block} {service service' : Service} {c : Client}
    {call : DriverCall} (h : HeldFor (s.answer b blk service c call) k service') :
    HeldFor s k service' := by
  let s' : Broker :=
    { s with slots := Function.update s.slots service (applyCall (s.slots service) c call).2 }
  cases blk with
  | reapClose c' handle =>
      have h : HeldFor (s'.finish b (.reapClose c' handle)) k service' := h
      exact heldFor_finish (s := s') h
  | _ =>
      refine heldFor_setRunning (s := s') ?_ k service' h
      intro blk ph service'' hr hph
      cases hr
      cases hph

theorem IndexInv.stepped (h : IndexInv s) {a : Action} (hkeeps : KeepsIndices s a)
    (hstep : Stepped s a t) : IndexInv t := by
  cases hstep with
  | sendOutOfRange => exact h.of_held rfl rfl fun _ _ hk => hk
  | send => exact h.of_held rfl rfl fun _ _ hk => hk
  | disconnect => exact h.of_held rfl rfl fun _ _ hk => hk
  | begin hidle hqueue =>
      refine h.of_held rfl rfl fun k service hk => heldFor_setRunning ?_ k service hk
      intro blk ph service' hr hph
      cases hr
      cases hph
  | unresolved => exact h.of_held (by simp) (by simp) fun _ _ hk => heldFor_finish hk
  | probed => exact h.of_held (by simp) (by simp) fun _ _ hk => heldFor_finish hk
  | cached hrun hconn hcall =>
      refine h.of_held rfl rfl (heldFor_setRunning ?_)
      intro blk ph service hr hph
      cases hr
      cases hph
      exact .inl hconn
  | located hrun hconn hservice => exact h.located hservice
  | notOpened => exact h.of_held (by simp) (by simp) fun _ _ hk => heldFor_finish hk
  | openedForProbe hrun hcall =>
      exact h.of_held (by simp) (by simp) fun k service hk =>
        heldFor_opened hrun k service (heldFor_finish hk)
  | opened hrun hcall =>
      refine h.of_held rfl rfl fun k service hk => heldFor_opened hrun k service ?_
      refine heldFor_setRunning ?_ k service hk
      intro blk ph service' hr hph
      cases hr
      cases hph
      exact .inl (by simp)
  | taken hrun hcall hattached =>
      exact h.of_held (by simp) (by simp) fun _ _ hk => heldFor_answer hk
  | failed => exact h.of_held (by simp) (by simp) fun _ _ hk => heldFor_finish hk
  | deadInReap => exact h.of_held (by simp) (by simp) fun _ _ hk => heldFor_finish hk
  | stale hrun =>
      refine h.of_held rfl rfl fun k service hk => ?_
      have hbefore := heldFor_setRunning (s := s.dropBoard _) ?_ k service hk
      · exact heldFor_dropBoard _ hbefore
      · intro blk ph service' hr hph
        cases hr
        cases hph
  | lost hrun =>
      exact h.of_held (by simp) (by simp) fun _ _ hk => heldFor_dropBoard _ (heldFor_finish hk)
  | track hrun =>
      exact h.of_held rfl rfl (heldFor_setRunning (r := none) (by simp))
  | reap => exact h.of_held rfl rfl fun _ _ hk => hk
  | closeNext => exact h.of_held rfl rfl fun _ _ hk => hk
  | freeSession => exact h.of_held rfl rfl fun _ _ hk => hk
  | plug hle =>
      have hfresh : s.next ∉ s.registry := fun hmem => Nat.lt_irrefl _ (h.fresh _ hmem)
      refine h.of_registry hkeeps rfl rfl rfl ?_ ?_ ?_ (Nat.le_succ _)
      · exact (List.perm_insertIdx _ _ hle).nodup_iff.mpr (List.nodup_cons.mpr ⟨hfresh, h.nodup⟩)
      · intro service hmem
        exact ((List.mem_insertIdx hle).mp hmem).symm
      · intro service hmem
        rcases (List.mem_insertIdx hle).mp hmem with rfl | hmem
        · exact Nat.lt_succ_self _
        · exact Nat.lt_succ_of_lt (h.fresh service hmem)
  | unplug hlt =>
      refine h.of_registry hkeeps rfl rfl rfl (h.nodup.eraseIdx _) ?_ ?_ (Nat.le_refl _)
      · intro service hmem
        exact .inl (List.mem_of_mem_eraseIdx hmem)
      · intro service hmem
        exact h.fresh service (List.mem_of_mem_eraseIdx hmem)

theorem IndexInv.callsIndexed (h : IndexInv s) (a : Action) : CallsIndexed s a := by
  cases a with
  | call b outcome =>
      intro blk retry service hrun hattached
      have hservice := h.indexed b service (.inr ⟨blk, _, hrun, rfl⟩) hattached
      simp only [enumerateBoards, List.mem_zipIdx_iff_getElem?, List.getElem?_take]
      rw [if_pos b.isLt, hservice]
  | _ => trivial

theorem IndexInv.distinctConns (h : IndexInv s) : DistinctConns s :=
  fun b b' service hb hb' => h.single b b' service (.inl hb) (.inl hb')

/-- While no held adapter leaves its position, every call of a run is made on the adapter that
its index names, and in every state reached no adapter has two connections. -/
theorem indices_name_adapters {as : List Action} {t : Broker}
    (hrun : Transition.run step .init as = some t)
    (hkeeps : Transition.Along step KeepsIndices .init as) :
    Transition.Along step CallsIndexed .init as ∧ DistinctConns t := by
  have hstep (s : Broker) (a : Action) (t : Broker) (h : IndexInv s) (hk : KeepsIndices s a)
      (ht : step s a = some t) : IndexInv t := h.stepped hk (stepped_of_step ht)
  constructor
  · exact Transition.along_of_invariant hstep (fun s a h _ => h.callsIndexed a) indexInv_init hkeeps
  · exact (Transition.run_invariant hstep indexInv_init hkeeps hrun).distinctConns

/-- An action that no adapter comes or goes by. -/
def Action.keepsRegistry : Action → Bool
  | .plug _ | .unplug _ => false
  | _ => true

theorem registryAfter_of_keepsRegistry {a : Action} (h : a.keepsRegistry = true) :
    registryAfter s a = s.registry := by
  cases a with
  | plug position => cases h
  | unplug position => cases h
  | _ => rfl

theorem along_keepsIndices {as : List Action} (h : ∀ a ∈ as, a.keepsRegistry = true)
    (s : Broker) : Transition.Along step KeepsIndices s as := by
  refine Transition.along_of_forall (fun a ha s => ?_) s
  intro b service _ hb _
  rw [registryAfter_of_keepsRegistry (h a ha), hb]

/-- An adapter that enumerates behind all others moves none of them. -/
theorem keepsIndices_plug_last (s : Broker) : KeepsIndices s (.plug s.registry.length) := by
  intro b service _ hb _
  have hlt := (List.getElem?_eq_some_iff.mp hb).choose
  rw [registryAfter, List.getElem?_insertIdx_of_lt hlt, hb]

/-- Two adapters enumerate, and a client opens a descriptor on the second one. -/
def twoAdapters : List Action :=
  [.plug 0, .plug 1, .send 0 ⟨1, .call 0 (.openDescriptor ⟨5, 0, 0, 13, 0, 0, 1⟩), 16⟩,
    .begin 1, .lookup 1, .openService 1 true, .call 1 .taken, .track 1]

theorem indices_name_adapters_twoAdapters :
    ∃ t, Transition.run step .init twoAdapters = some t ∧
      Transition.Along step CallsIndexed .init twoAdapters ∧ DistinctConns t := by
  refine ⟨_, rfl, indices_name_adapters rfl ?_⟩
  refine ⟨keepsIndices_plug_last _, fun t ht => ?_⟩
  cases ht
  exact ⟨keepsIndices_plug_last _, fun t _ => along_keepsIndices (by decide) t⟩

/-- Two adapters are probed, and the first one is unplugged. -/
def shifted : List Action :=
  [.plug 0, .plug 1,
    .send 0 ⟨0, .probe, 0⟩, .begin 0, .lookup 0, .openService 0 true,
    .send 0 ⟨1, .probe, 0⟩, .begin 1, .lookup 1, .openService 1 true,
    .unplug 0,
    .send 0 ⟨0, .call 0 (.boardOnline 1), 16⟩, .begin 0, .lookup 0, .call 0 .dead,
    .lookup 0, .openService 0 true, .call 0 .taken, .track 0,
    .send 0 ⟨1, .call 0 (.boardOnline 1), 16⟩, .begin 1, .lookup 1]

/-- The remaining adapter then serves index 1, for which the enumeration has nothing, while
index 0 is connected to it as well. -/
theorem indices_shift :
    (∃ t, Transition.run step .init (shifted ++ [.call 1 .taken]) = some t ∧
        ¬ DistinctConns t) ∧
      ¬ Transition.Along step CallsIndexed .init (shifted ++ [.call 1 .taken]) := by
  constructor
  · refine ⟨_, rfl, ?_⟩
    intro h
    exact absurd (h 0 1 1 (by decide) (by decide)) (by decide)
  · intro h
    have hcall := h.at (t := (Transition.run step .init shifted).get (by decide)) rfl
    have hindex := hcall _ _ _ rfl (by decide)
    revert hindex
    decide

end Gpibd

end DarwinGpib
