import DarwinGpib.Board.Operations

/-!
# The descriptor table over whole runs

Every history of public operations from `init`, whatever the transport answers. A slot is free
or holds its own index, slot 0 stays free, handles are issued as long as one of the 63 others
is free, and a handle that is not open is refused before any call on the transport.
-/

namespace DarwinGpib

open Interaction Behaviour

/-- The handle that an operation is about, looked up or not. -/
def BoardOp.handle? : BoardOp → Option Int
  | interfaceClear handle | remoteEnable handle _ | localLockout handle
  | sendCommands handle _ => some handle
  | op => op.checked

namespace DescriptorTable

/-- Every slot is free or holds its own index. -/
def HandlesAreSlots (t : DescriptorTable) : Prop :=
  ∀ i, (t.entry i).handle = -1 ∨ (t.entry i).handle = i.val

theorem handlesAreSlots_initial : initial.HandlesAreSlots :=
  fun _ => .inl rfl

variable {t : DescriptorTable}

/-- Replacing one slot by one that is free or holds its own index. -/
theorem HandlesAreSlots.update (h : t.HandlesAreSlots) {t' : DescriptorTable}
    {i : Fin kMaxDescriptors} {d : GPIBDescriptor}
    (hentry : t'.entry = Function.update t.entry i d)
    (hd : d.handle = -1 ∨ d.handle = i.val) : t'.HandlesAreSlots := by
  intro k
  rw [hentry]
  by_cases hk : k = i
  · subst hk
    rwa [Function.update_self]
  · rw [Function.update_of_ne hk]
    exact h k

theorem HandlesAreSlots.fill (h : t.HandlesAreSlots) (j : Fin (kMaxDescriptors - 1))
    (o : DescriptorOptions) : (t.fill j o).HandlesAreSlots :=
  h.update rfl (.inr rfl)

theorem HandlesAreSlots.closeDescriptor (h : t.HandlesAreSlots) (handle : Int) :
    (t.closeDescriptor handle).HandlesAreSlots := by
  cases hi : slotOf handle with
  | none => simpa [DescriptorTable.closeDescriptor, hi] using h
  | some i =>
      simp only [DescriptorTable.closeDescriptor, hi]
      exact h.update rfl (.inl rfl)

theorem HandlesAreSlots.configure (h : t.HandlesAreSlots) (handle : Int)
    (o : DescriptorOptions) : (t.configure handle o).HandlesAreSlots := by
  cases hi : slotOf handle with
  | none => simpa [DescriptorTable.configure, hi] using h
  | some i =>
      simp only [DescriptorTable.configure, hi]
      exact h.update rfl (h i)

/-- Slot 0. -/
def boardSlot : Fin kMaxDescriptors := ⟨0, by decide⟩

theorem boardSlot_free (h : t.HandlesAreSlots) : (t.entry boardSlot).handle = -1 := by
  rcases h boardSlot with hfree | hopen
  · exact hfree
  · have hpos := t.reserved boardSlot (by rw [hopen]; decide)
    exact absurd hpos (by decide)

/-! ## Lookups -/

/-- The contents of an open slot determine what a lookup finds. -/
theorem descriptorFor_congr {t' : DescriptorTable} {handle : Int}
    (h : t'.slots handle = t.slots handle) :
    t'.descriptorFor handle = t.descriptorFor handle := by
  simp only [slots] at h
  cases hd : t.descriptorFor handle with
  | none =>
      rw [hd, Option.map_none, Option.map_eq_none_iff] at h
      exact h
  | some d =>
      rw [hd, Option.map_some] at h
      obtain ⟨d', hd', heq⟩ := Option.map_eq_some_iff.mp h
      have hhandle : d'.handle = d.handle := by
        rw [(descriptorFor_eq_some hd).1, (descriptorFor_eq_some hd').1]
      rw [hd']
      cases d
      cases d'
      simp_all

theorem descriptorFor_eq_none_iff {handle : Int} :
    t.descriptorFor handle = none ↔ t.slots handle = none := by
  rw [slots, Option.map_eq_none_iff]

/-- A slot that is handed out was free, and no other slot changes. -/
theorem slots_of_allocateHandle {j : Fin (kMaxDescriptors - 1)}
    (h : t.allocateHandle = some j) : t.slots (usable j).val = none := by
  have hfree : SlotTable.firstFree handles t.slots = some ((usable j).val : Int) := by
    rw [firstFree_slots, h, Option.map_some]
  exact (SlotTable.firstFree_eq_some hfree).2

theorem allocateHandle_eq_none_iff :
    t.allocateHandle = none ↔ ∀ handle ∈ handles, (t.descriptorFor handle).isSome := by
  have hslots : SlotTable.firstFree handles t.slots = none ↔ t.allocateHandle = none := by
    rw [firstFree_slots, Option.map_eq_none_iff]
  rw [← hslots, SlotTable.firstFree_eq_none_iff]
  simp [slots]

end DescriptorTable

namespace GPIBBoard

variable {b b' : GPIBBoard} {e : Event}

/-! ## One operation -/

theorem Affects.handlesAreSlots (h : b.Affects e b')
    (hb : b.descriptors.HandlesAreSlots) : b'.descriptors.HandlesAreSlots := by
  cases h with
  | opened => exact hb.fill _ _
  | full => exact hb
  | closed => exact hb.closeDescriptor _
  | configured => exact hb.configure _ _
  | unknown _ _ _ hb' => rwa [hb']
  | other _ _ _ hb' => rwa [hb']

/-- A handle that is not open is refused before any call on the transport. -/
theorem Affects.refused {handle : Int} (h : b.Affects e b') (hop : e.op.checked = some handle)
    (hd : b.descriptors.descriptorFor handle = none) :
    e.calls = [] ∧ e.result.status? = some ⟨Ibsta.err, Iberr.earg⟩ := by
  cases h with
  | opened => cases hop
  | full => cases hop
  | closed hd' =>
      cases hop
      rw [hd] at hd'
      cases hd'
  | configured hd' =>
      cases hop
      rw [hd] at hd'
      cases hd'
  | unknown _ _ hr => exact ⟨rfl, hr⟩
  | other _ hsome =>
      have hopen := hsome _ hop
      rw [hd] at hopen
      cases hopen

/-- A handle stays closed until it is issued. -/
theorem Affects.stays_closed {handle : Int} (h : b.Affects e b')
    (hr : ∀ s, e.result ≠ .opened handle s)
    (hd : b.descriptors.descriptorFor handle = none) :
    b'.descriptors.descriptorFor handle = none := by
  rw [DescriptorTable.descriptorFor_eq_none_iff] at hd ⊢
  cases h with
  | @opened o j hfree =>
      have hne : handle ≠ (DescriptorTable.usable j).val := by
        rintro rfl
        exact hr _ rfl
      rw [DescriptorTable.slots_fill, Function.update_of_ne hne, hd]
  | full => exact hd
  | @closed handle' d hd' =>
      rw [DescriptorTable.slots_closeDescriptor]
      by_cases hne : handle = handle'
      · rw [hne, SlotTable.release_self]
      · rw [SlotTable.release_of_ne hne, hd]
  | @configured handle' key value d o hd' ho =>
      have hne : handle ≠ handle' := by
        rintro rfl
        rw [DescriptorTable.slots, hd'] at hd
        cases hd
      rw [DescriptorTable.slots_configure hd', Function.update_of_ne hne, hd]
  | unknown _ _ _ hb' => rwa [hb']
  | other _ _ _ hb' => rwa [hb']

/-- Closing a handle leaves it closed, open or not. -/
theorem Affects.closes {handle : Int} (h : b.Affects e b') (hop : e.op = .closeDescriptor handle) :
    b'.descriptors.descriptorFor handle = none := by
  cases h with
  | opened => cases hop
  | full => cases hop
  | closed =>
      cases hop
      rw [DescriptorTable.descriptorFor_eq_none_iff, DescriptorTable.slots_closeDescriptor,
        SlotTable.release_self]
  | configured => cases hop
  | unknown hchecked hd _ hb' =>
      cases hop
      cases hchecked
      rwa [hb']
  | other hother =>
      cases hop
      cases hother

/-- Opening issues a free handle, unless all of them are open. -/
theorem Affects.opens {o : DescriptorOptions} (h : b.Affects e b')
    (hop : e.op = .openDescriptor o) :
    (∃ handle ∈ DescriptorTable.handles, e.result = .opened handle ⟨Ibsta.cmpl, 0⟩ ∧
        b.descriptors.descriptorFor handle = none ∧ b'.descriptors.slots handle = some o) ∨
      ((∀ handle ∈ DescriptorTable.handles, (b.descriptors.descriptorFor handle).isSome) ∧
        e.result = .opened (-1) ⟨Ibsta.err, Iberr.etab⟩ ∧ b'.descriptors = b.descriptors) := by
  cases h with
  | @opened o' j hfree =>
      cases hop
      refine .inl ⟨(DescriptorTable.usable j).val, ?_, rfl, ?_, ?_⟩
      · exact List.mem_map.mpr ⟨j, List.mem_finRange j, rfl⟩
      · rw [DescriptorTable.descriptorFor_eq_none_iff]
        exact DescriptorTable.slots_of_allocateHandle hfree
      · rw [DescriptorTable.slots_fill, Function.update_self]
  | full hfull => exact .inr ⟨DescriptorTable.allocateHandle_eq_none_iff.mp hfull, rfl, rfl⟩
  | closed => cases hop
  | configured => cases hop
  | unknown hchecked =>
      cases hop
      cases hchecked
  | other hother =>
      cases hop
      cases hother

/-- An operation changes no descriptor but the one it is about. -/
theorem Affects.frame {k : Int} {d : GPIBDescriptor} (h : b.Affects e b')
    (hd : b.descriptors.descriptorFor k = some d) (hk : e.op.handle? ≠ some k) :
    b'.descriptors.descriptorFor k = some d := by
  have hslots : b.descriptors.slots k = some d.toDescriptorOptions := by
    rw [DescriptorTable.slots, hd, Option.map_some]
  rw [← hd]
  apply DescriptorTable.descriptorFor_congr
  cases h with
  | @opened o j hfree =>
      have hne : k ≠ (DescriptorTable.usable j).val := by
        rintro rfl
        rw [DescriptorTable.slots_of_allocateHandle hfree] at hslots
        cases hslots
      rw [DescriptorTable.slots_fill, Function.update_of_ne hne]
  | full => rfl
  | @closed handle d' hd' =>
      have hne : k ≠ handle := by
        rintro rfl
        exact hk rfl
      rw [DescriptorTable.slots_closeDescriptor, SlotTable.release_of_ne hne]
  | @configured handle key value d' o hd' ho =>
      have hne : k ≠ handle := by
        rintro rfl
        exact hk rfl
      rw [DescriptorTable.slots_configure hd', Function.update_of_ne hne]
  | unknown _ _ _ hb' => rw [hb']
  | other _ _ _ hb' => rw [hb']

/-- The operations that may change a descriptor at all. -/
theorem Affects.descriptors_eq (h : b.Affects e b')
    (hop : e.op.opensOrCloses = false ∧ ∀ handle key value, e.op ≠ .configure handle key value) :
    b'.descriptors = b.descriptors := by
  cases h with
  | opened => cases hop.1
  | full => rfl
  | closed => cases hop.1
  | @configured handle key value => exact absurd rfl (hop.2 handle key value)
  | unknown _ _ _ hb' => exact hb'
  | other _ _ _ hb' => exact hb'

end GPIBBoard

/-! ## Whole runs -/

/-- The histories of a board from `init`, over every transport. -/
abbrev BoardHistory : List (GPIBBoard × GPIBBoard.Event) → GPIBBoard → Prop :=
  History (· = .init) GPIBBoard.Performs

/-- The handle was closed, and has not been issued since. -/
def ClosedSince (past : List (GPIBBoard × GPIBBoard.Event)) (handle : Int) : Prop :=
  ∃ recent b e earlier, past = recent ++ (b, e) :: earlier ∧ e.op = .closeDescriptor handle ∧
    ∀ x ∈ recent, ∀ s, x.2.result ≠ .opened handle s

/-- What every operation on a board with this past finds and leaves in the table. -/
structure TableKept (past : List (GPIBBoard × GPIBBoard.Event)) (b : GPIBBoard) : Prop where
  handlesAreSlots : b.descriptors.HandlesAreSlots
  boardSlot_free : (b.descriptors.entry DescriptorTable.boardSlot).handle = -1
  opens : ∀ o e b', b.Performs e b' → e.op = .openDescriptor o →
    (∃ handle s, e.result = .opened handle s ∧ 1 ≤ handle ∧ handle ≤ 63 ∧
        b.descriptors.descriptorFor handle = none ∧ b'.descriptors.slots handle = some o) ∨
      (e.result = .opened (-1) ⟨Ibsta.err, Iberr.etab⟩ ∧ b'.descriptors = b.descriptors)
  exhausted : ∀ o e b', b.Performs e b' → e.op = .openDescriptor o →
    (e.result = .opened (-1) ⟨Ibsta.err, Iberr.etab⟩ ↔
      ∀ handle, 1 ≤ handle → handle ≤ 63 → (b.descriptors.descriptorFor handle).isSome)
  refuses : ∀ handle, ClosedSince past handle → ∀ e b', b.Performs e b' →
    e.op.checked = some handle →
      e.calls = [] ∧ e.result.status? = some ⟨Ibsta.err, Iberr.earg⟩
  frame : ∀ k d e b', b.Performs e b' → b.descriptors.descriptorFor k = some d →
    e.op.handle? ≠ some k → b'.descriptors.descriptorFor k = some d
  only : ∀ e b', b.Performs e b' → e.op.opensOrCloses = false →
    (∀ handle key value, e.op ≠ .configure handle key value) → b'.descriptors = b.descriptors

variable {past : List (GPIBBoard × GPIBBoard.Event)} {b : GPIBBoard}

theorem BoardHistory.handlesAreSlots (h : BoardHistory past b) :
    b.descriptors.HandlesAreSlots := by
  apply History.invariant (I := fun b : GPIBBoard => b.descriptors.HandlesAreSlots) _ _ h
  · rintro b rfl
    exact DescriptorTable.handlesAreSlots_initial
  · intro b e b' hb hstep
    exact (GPIBBoard.affects_of_performs hstep).handlesAreSlots hb

theorem BoardHistory.closed {handle : Int} (h : BoardHistory past b)
    (hclosed : ClosedSince past handle) : b.descriptors.descriptorFor handle = none := by
  obtain ⟨recent, b₁, e₁, earlier, rfl, hop, hrecent⟩ := hclosed
  apply h.since
  · intro t hstep
    exact (GPIBBoard.affects_of_performs hstep).closes hop
  · intro b e b' hmem hnone hstep
    exact (GPIBBoard.affects_of_performs hstep).stays_closed (hrecent _ hmem) hnone

theorem mem_handles_of_le {handle : Int} (hpos : 1 ≤ handle) (hle : handle ≤ 63) :
    handle ∈ DescriptorTable.handles :=
  DescriptorTable.mem_handles_iff.mpr ⟨hpos, by simp only [kMaxDescriptors]; omega⟩

/-- From `init` on, whatever is called and whatever the transport answers. -/
theorem descriptor_table_kept (h : BoardHistory past b) : TableKept past b where
  handlesAreSlots := h.handlesAreSlots
  boardSlot_free := DescriptorTable.boardSlot_free h.handlesAreSlots
  opens := by
    intro o e b' hstep hop
    rcases (GPIBBoard.affects_of_performs hstep).opens hop with
      ⟨handle, hmem, hr, hfree, hslot⟩ | ⟨-, hr, hsame⟩
    · obtain ⟨hpos, hlt⟩ := DescriptorTable.mem_handles_iff.mp hmem
      exact .inl ⟨handle, _, hr, hpos, by simp only [kMaxDescriptors] at hlt; omega, hfree, hslot⟩
    · exact .inr ⟨hr, hsame⟩
  exhausted := by
    intro o e b' hstep hop
    constructor
    · intro hr handle hpos hle
      rcases (GPIBBoard.affects_of_performs hstep).opens hop with
        ⟨handle', -, hr', -, -⟩ | ⟨hfull, -, -⟩
      · rw [hr'] at hr
        cases hr
      · exact hfull handle (mem_handles_of_le hpos hle)
    · intro hfull
      rcases (GPIBBoard.affects_of_performs hstep).opens hop with
        ⟨handle, hmem, -, hfree, -⟩ | ⟨-, hr, -⟩
      · obtain ⟨hpos, hlt⟩ := DescriptorTable.mem_handles_iff.mp hmem
        have hopen := hfull handle hpos (by simp only [kMaxDescriptors] at hlt; omega)
        rw [hfree] at hopen
        cases hopen
      · exact hr
  refuses := by
    intro handle hclosed e b' hstep hop
    exact (GPIBBoard.affects_of_performs hstep).refused hop (h.closed hclosed)
  frame := by
    intro k d e b' hstep hd hk
    exact (GPIBBoard.affects_of_performs hstep).frame hd hk
  only := by
    intro e b' hstep hop hconfigure
    exact (GPIBBoard.affects_of_performs hstep).descriptors_eq ⟨hop, hconfigure⟩

/-! ## A slot that is used and closed -/

/-- The options of `open_board`. -/
def boardOptions : DescriptorOptions :=
  { isBoard := true, pad := 0, sad := -1, eot := true, eosChar := 0, eosFlags := 0,
    timeoutUs := 3000000 }

/-- The table holds to its contract after its first handle was issued and closed. -/
theorem descriptor_table_kept_closed_once :
    ∃ past b, ClosedSince past 1 ∧ past.length = 2 ∧ TableKept past b := by
  let b₁ : GPIBBoard := (GPIBBoard.init.openDescriptor boardOptions).2
  let open₁ : GPIBBoard.Event := ⟨.openDescriptor boardOptions, [],
    .opened (GPIBBoard.init.openDescriptor boardOptions).1.1
      (GPIBBoard.init.openDescriptor boardOptions).1.2⟩
  let close₁ : GPIBBoard.Event := ⟨.closeDescriptor 1, [], .status (b₁.closeDescriptor 1).1⟩
  have hopened : GPIBBoard.init.Performs open₁ b₁ := ⟨0, .pure _⟩
  have hclosing : b₁.Performs close₁ (b₁.closeDescriptor 1).2 := ⟨0, .pure _⟩
  have hclosed : BoardHistory [(b₁, close₁), (.init, open₁)] (b₁.closeDescriptor 1).2 :=
    .step (.step (.start rfl) hopened) hclosing
  exact ⟨_, _, ⟨[], b₁, close₁, _, rfl, rfl, by simp⟩, rfl, descriptor_table_kept hclosed⟩

end DarwinGpib
