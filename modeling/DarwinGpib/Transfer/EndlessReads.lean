import DarwinGpib.Transfer.ReadRounds
import Mathlib.Data.Nat.Find

/-!
# Reads that never return

The loop of `readDataViaFirmware` has no deadline. Against a device that answers bulk-ins and
status requests from two streams, it returns exactly when a bulk-in fails, a status is neither
BUSY nor a glitch, six glitches follow each other or the request is filled.
-/

namespace DarwinGpib

open Interaction Looping

namespace KUSB488BTransport

/-- The answers to the bulk-ins and to the status requests of a read. -/
structure ReadStreams where
  bulk : Nat → StatusReply
  status : Nat → StatusReply

namespace ReadStreams

/-- The state is the number of answers given from each. -/
def device (S : ReadStreams) : ReadDevice (Nat × Nat) where
  bulk d _ := (S.bulk d.1, (d.1 + 1, d.2))
  status d := (S.status d.2, (d.1, d.2 + 1))

/-- The bytes of the first bulk-ins, none of which is longer than the buffer. -/
def total (S : ReadStreams) : Nat → Nat
  | 0 => 0
  | k + 1 => S.total k + min (S.bulk k).bytes.length kBulkBufferSize

/-- What ends a read. -/
inductive Ends (S : ReadStreams) (requestCount : Nat) : Prop where
  | refused (k : Nat) (h : (S.bulk k).status ≠ .success)
  | settled (k : Nat) (h : ¬ (S.status k).Glitch) (hstate : (S.status k).bytes[0]? ≠ some stateBusy)
  | glitched (k : Nat) (h : ∀ j < 6, (S.status (k + j)).Glitch)
  | filled (k : Nat) (h : requestCount ≤ S.total k)

/-! ## A round -/

variable {S : ReadStreams} {requestCount : Nat}

/-- The bulk-in of a round that goes on: it takes the next answer, or there is none. -/
inductive Fetched (S : ReadStreams) (requestCount : Nat) (x : ReadState (Nat × Nat)) :
    List UInt8 → Nat → Prop where
  | taken (h : ReadDevice.Fetches requestCount x) (hbulk : (S.bulk x.device.1).status = .success) :
      Fetched S requestCount x
        (x.buf ++ (S.bulk x.device.1).bytes.take (bulkRoom requestCount x.buf)) (x.device.1 + 1)
  | kept (h : ¬ ReadDevice.Fetches requestCount x) : Fetched S requestCount x x.buf x.device.1

/-- A round after which the loop goes on: its status is a glitch that is retried, or BUSY with room
left. -/
inductive GoesOn (S : ReadStreams) (requestCount : Nat) (x : ReadState (Nat × Nat)) :
    ReadState (Nat × Nat) → Prop where
  | retried {buf k} (hfetched : Fetched S requestCount x buf k)
      (hglitch : (S.status x.device.2).Glitch) (hretries : x.glitchRetries < 5) :
      GoesOn S requestCount x ⟨false, buf, x.glitchRetries + 1, (k, x.device.2 + 1)⟩
  | busy {buf k} (hfetched : Fetched S requestCount x buf k)
      (hfull : ¬ (S.status x.device.2).Glitch)
      (hbusy : (S.status x.device.2).bytes[0]? = some stateBusy)
      (hroom : buf.length < requestCount) :
      GoesOn S requestCount x ⟨true, buf, 0, (k, x.device.2 + 1)⟩

theorem fetch_eq_some_iff {x : ReadState (Nat × Nat)} {buf : List UInt8} {d : Nat × Nat} :
    S.device.fetch requestCount x = some (buf, d) ↔
      Fetched S requestCount x buf d.1 ∧ d.2 = x.device.2 := by
  obtain ⟨k, j⟩ := d
  unfold ReadDevice.fetch
  by_cases hfetches : ReadDevice.Fetches requestCount x
  · rw [if_pos hfetches]
    constructor
    · intro h
      obtain ⟨hbulk, heq⟩ := Option.ite_none_right_eq_some.mp h
      cases heq
      exact ⟨.taken hfetches hbulk, rfl⟩
    · rintro ⟨hfetched, hj⟩
      cases hfetched with
      | taken _ hbulk =>
          obtain rfl : j = x.device.2 := hj
          exact if_pos hbulk
      | kept h => exact absurd hfetches h
  · rw [if_neg hfetches]
    constructor
    · intro h
      obtain ⟨rfl, hdevice⟩ := Prod.mk.inj (Option.some.inj h)
      obtain rfl : k = x.device.1 := (congrArg Prod.fst hdevice).symm
      exact ⟨.kept hfetches, (congrArg Prod.snd hdevice).symm⟩
    · rintro ⟨hfetched, hj⟩
      cases hfetched with
      | taken h _ => exact absurd h hfetches
      | kept _ =>
          obtain rfl : j = x.device.2 := hj
          rfl

theorem next_eq_some_iff {x x' : ReadState (Nat × Nat)} :
    S.device.next requestCount x = some x' ↔ GoesOn S requestCount x x' := by
  constructor
  · intro h
    obtain ⟨⟨buf, k, j⟩, hfetch, hfollow⟩ := Option.bind_eq_some_iff.mp h
    obtain ⟨hfetched, hj⟩ := fetch_eq_some_iff.mp hfetch
    obtain rfl : j = x.device.2 := hj
    change ReadDevice.follow requestCount x.glitchRetries buf (S.status x.device.2)
      (k, x.device.2 + 1) = some x' at hfollow
    by_cases hglitch : (S.status x.device.2).Glitch
    · rw [ReadDevice.follow, if_pos hglitch] at hfollow
      obtain ⟨hretries, heq⟩ := Option.ite_none_right_eq_some.mp hfollow
      cases heq
      exact .retried hfetched hglitch hretries
    · rw [ReadDevice.follow, if_neg hglitch] at hfollow
      obtain ⟨⟨hbusy, hroom⟩, heq⟩ := Option.ite_none_right_eq_some.mp hfollow
      cases heq
      exact .busy hfetched hglitch hbusy hroom
  · intro h
    cases h with
    | @retried buf k hfetched hglitch hretries =>
        refine Option.bind_eq_some_iff.mpr ⟨(buf, (k, x.device.2)),
          fetch_eq_some_iff.mpr ⟨hfetched, rfl⟩, ?_⟩
        exact (if_pos hglitch).trans (if_pos hretries)
    | @busy buf k hfetched hfull hbusy hroom =>
        refine Option.bind_eq_some_iff.mpr ⟨(buf, (k, x.device.2)),
          fetch_eq_some_iff.mpr ⟨hfetched, rfl⟩, ?_⟩
        exact (if_neg hfull).trans (if_pos ⟨hbusy, hroom⟩)

/-! ## Runs of rounds -/

/-- What a read has stored is what the bulk-ins brought, as far as the request reaches. -/
theorem Fetched.length_eq {x : ReadState (Nat × Nat)} {buf : List UInt8} {k : Nat}
    (h : Fetched S requestCount x buf k)
    (hx : x.buf.length = min (S.total x.device.1) requestCount) :
    buf.length = min (S.total k) requestCount := by
  cases h with
  | taken hfetches _ =>
      have hroom := hfetches.2
      rw [List.length_append, List.length_take, bulkRoom, total]
      omega
  | kept _ => exact hx

/-- The loop before round `n`: what it has stored, and how many of the statuses before were
glitches. -/
structure Midway (S : ReadStreams) (requestCount : Nat) (x : ReadState (Nat × Nat)) : Prop where
  length_eq : x.buf.length = min (S.total x.device.1) requestCount
  retries_le : x.glitchRetries ≤ x.device.2
  glitches : ∀ j, x.device.2 ≤ j + x.glitchRetries → j < x.device.2 → (S.status j).Glitch

theorem GoesOn.midway {x x' : ReadState (Nat × Nat)} (h : GoesOn S requestCount x x')
    (hx : Midway S requestCount x) : Midway S requestCount x' := by
  have hretries := hx.retries_le
  cases h with
  | retried hfetched hglitch _ =>
      refine ⟨hfetched.length_eq hx.length_eq, by simpa using hretries, fun j hfrom hto => ?_⟩
      simp only at hfrom hto
      by_cases hj : j = x.device.2
      · exact hj ▸ hglitch
      · exact hx.glitches j (by omega) (by omega)
  | busy hfetched _ _ _ =>
      refine ⟨hfetched.length_eq hx.length_eq, Nat.zero_le _, fun j hfrom hto => ?_⟩
      simp only at hfrom hto
      omega

/-- Without an end the loop goes on from everywhere. -/
theorem exists_goesOn (hends : ¬ S.Ends requestCount) {x : ReadState (Nat × Nat)}
    (hx : Midway S requestCount x) : ∃ x', GoesOn S requestCount x x' := by
  have hretries := hx.retries_le
  obtain ⟨buf, k, hfetched⟩ : ∃ buf k, Fetched S requestCount x buf k := by
    by_cases hfetches : ReadDevice.Fetches requestCount x
    · exact ⟨_, _, .taken hfetches (not_not.mp fun h => hends (.refused _ h))⟩
    · exact ⟨_, _, .kept hfetches⟩
  by_cases hglitch : (S.status x.device.2).Glitch
  · by_cases hmore : x.glitchRetries < 5
    · exact ⟨_, .retried hfetched hglitch hmore⟩
    · -- The status and the five before it are the glitches that end a read.
      refine absurd (.glitched (x.device.2 - 5) fun j hj => ?_) hends
      by_cases hlast : j = 5
      · rwa [hlast, Nat.sub_add_cancel (by omega)]
      · exact hx.glitches _ (by omega) (by omega)
  · by_cases hbusy : (S.status x.device.2).bytes[0]? = some stateBusy
    · have hroom : S.total k < requestCount := Nat.lt_of_not_le fun h => hends (.filled k h)
      refine ⟨_, .busy hfetched hglitch hbusy ?_⟩
      rw [hfetched.length_eq hx.length_eq]
      omega
    · exact absurd (.settled _ hglitch hbusy) hends

/-! ### What a round tells -/

section Rounds

variable {x x' : ReadState (Nat × Nat)}

theorem Fetched.of_fetches {buf : List UInt8} {k : Nat} (h : Fetched S requestCount x buf k)
    (hfetches : ReadDevice.Fetches requestCount x) :
    (S.bulk x.device.1).status = .success ∧ k = x.device.1 + 1 := by
  cases h with
  | taken _ hbulk => exact ⟨hbulk, rfl⟩
  | kept hnot => exact absurd hfetches hnot

theorem Fetched.of_not_fetches {buf : List UInt8} {k : Nat} (h : Fetched S requestCount x buf k)
    (hnot : ¬ ReadDevice.Fetches requestCount x) : k = x.device.1 := by
  cases h with
  | taken hfetches _ => exact absurd hfetches hnot
  | kept _ => rfl

theorem GoesOn.exists_fetched (h : GoesOn S requestCount x x') :
    Fetched S requestCount x x'.buf x'.device.1 ∧ x'.device.2 = x.device.2 + 1 := by
  cases h with
  | retried hfetched _ _ => exact ⟨hfetched, rfl⟩
  | busy hfetched _ _ _ => exact ⟨hfetched, rfl⟩

theorem GoesOn.of_glitch (h : GoesOn S requestCount x x')
    (hglitch : (S.status x.device.2).Glitch) :
    ¬ ReadDevice.Fetches requestCount x' ∧ x'.glitchRetries = x.glitchRetries + 1 ∧
      x.glitchRetries < 5 := by
  cases h with
  | retried _ _ hretries => exact ⟨fun h => absurd h.1 nofun, rfl, hretries⟩
  | busy _ hfull _ _ => exact absurd hglitch hfull

theorem GoesOn.of_full (h : GoesOn S requestCount x x')
    (hfull : ¬ (S.status x.device.2).Glitch) :
    (S.status x.device.2).bytes[0]? = some stateBusy ∧ ReadDevice.Fetches requestCount x' := by
  cases h with
  | retried _ hglitch _ => exact absurd hglitch hfull
  | busy _ _ hbusy hroom => exact ⟨hbusy, rfl, hroom⟩

end Rounds

/-! ### Reads without an end -/

section Endless

variable {f : Nat → ReadState (Nat × Nat)} (hstart : f 0 = readStart (0, 0))
  (hf : ∀ n, GoesOn S requestCount (f n) (f (n + 1)))

include hstart hf

theorem device_snd_eq (n : Nat) : (f n).device.2 = n := by
  induction n with
  | zero => rw [hstart, readStart]
  | succ n ih => rw [(hf n).exists_fetched.2, ih]

theorem midway (n : Nat) : Midway S requestCount (f n) := by
  induction n with
  | zero =>
      rw [hstart, readStart]
      exact ⟨by simp [total], Nat.zero_le _, fun j _ hto => absurd hto (Nat.not_lt_zero j)⟩
  | succ n ih => exact (hf n).midway ih

/-- Six glitches do not follow each other. -/
theorem exists_full (n : Nat) : ∃ j < 6, ¬ (S.status (n + j)).Glitch := by
  by_contra hnone
  push Not at hnone
  have hretries : ∀ j ≤ 5, j ≤ (f (n + j)).glitchRetries := by
    intro j hj
    induction j with
    | zero => exact Nat.zero_le _
    | succ j ih =>
        have hglitch : (S.status (f (n + j)).device.2).Glitch := by
          rw [device_snd_eq hstart hf]
          exact hnone j (by omega)
        have hnext := ((hf (n + j)).of_glitch hglitch).2.1
        rw [← Nat.add_assoc, hnext]
        exact Nat.succ_le_succ (ih (by omega))
  have hglitch : (S.status (f (n + 5)).device.2).Glitch := by
    rw [device_snd_eq hstart hf]
    exact hnone 5 (by omega)
  have hlast := ((hf (n + 5)).of_glitch hglitch).2.2
  have := hretries 5 (Nat.le_refl 5)
  omega

/-- Glitches delay the bulk-in behind the next BUSY. -/
theorem fetches_behind (j n : Nat) (hglitch : ∀ i < j, (S.status (n + i)).Glitch)
    (hfull : ¬ (S.status (n + j)).Glitch) :
    ReadDevice.Fetches requestCount (f (n + j + 1)) ∧
      (f (n + j + 1)).device.1 = (f (n + 1)).device.1 := by
  induction j generalizing n with
  | zero =>
      have hstatus : ¬ (S.status (f n).device.2).Glitch := by rwa [device_snd_eq hstart hf]
      exact ⟨((hf n).of_full hstatus).2, rfl⟩
  | succ j ih =>
      have hstatus : (S.status (f n).device.2).Glitch := by
        rw [device_snd_eq hstart hf]
        exact hglitch 0 (by omega)
      have hnot := ((hf n).of_glitch hstatus).1
      have hkept := (hf (n + 1)).exists_fetched.1.of_not_fetches hnot
      have hshift : n + (j + 1) = n + 1 + j := by omega
      rw [hshift] at hfull ⊢
      obtain ⟨hfetches, hcount⟩ := ih (n + 1)
        (fun i hi => by
          have h := hglitch (i + 1) (by omega)
          rwa [show n + (i + 1) = n + 1 + i by omega] at h) hfull
      exact ⟨hfetches, hcount.trans hkept⟩

/-- Every answer of the bulk stream is taken in some round. -/
theorem exists_fetches (hpos : 1 ≤ requestCount) (k : Nat) :
    ∃ n, (f n).device.1 = k ∧ ReadDevice.Fetches requestCount (f n) := by
  induction k with
  | zero =>
      refine ⟨0, ?_, ?_⟩
      · rw [hstart, readStart]
      · rw [hstart, readStart]
        exact ⟨rfl, hpos⟩
  | succ k ih =>
      obtain ⟨n, hk, hfetches⟩ := ih
      have hnext := ((hf n).exists_fetched.1.of_fetches hfetches).2
      have hexists : ∃ j, ¬ (S.status (n + j)).Glitch := by
        obtain ⟨j, -, hfull⟩ := exists_full hstart hf n
        exact ⟨j, hfull⟩
      obtain ⟨hagain, hcount⟩ := fetches_behind hstart hf (Nat.find hexists) n
        (fun i hi => not_not.mp (Nat.find_min hexists hi)) (Nat.find_spec hexists)
      exact ⟨_, by rw [hcount, hnext, hk], hagain⟩

theorem not_ends_of_endless (hpos : 1 ≤ requestCount) : ¬ S.Ends requestCount := by
  intro hends
  cases hends with
  | refused k h =>
      obtain ⟨n, rfl, hfetches⟩ := exists_fetches hstart hf hpos k
      exact h ((hf n).exists_fetched.1.of_fetches hfetches).1
  | settled k h hstate =>
      have hfull : ¬ (S.status (f k).device.2).Glitch := by rwa [device_snd_eq hstart hf]
      have hbusy := ((hf k).of_full hfull).1
      rw [device_snd_eq hstart hf] at hbusy
      exact hstate hbusy
  | glitched k h =>
      obtain ⟨j, hj, hfull⟩ := exists_full hstart hf k
      exact hfull (h j hj)
  | filled k h =>
      obtain ⟨n, rfl, hfetches⟩ := exists_fetches hstart hf hpos k
      have hlength := (midway hstart hf n).length_eq
      have hroom := hfetches.2
      omega

end Endless

theorem exists_endless_iff (hpos : 1 ≤ requestCount) :
    (∃ f, Endless (S.device.next requestCount) (readStart (0, 0)) f) ↔ ¬ S.Ends requestCount := by
  constructor
  · rintro ⟨f, hstart, hf⟩
    exact not_ends_of_endless hstart (fun n => next_eq_some_iff.mp (hf n)) hpos
  · intro hends
    have hfirst : Midway S requestCount (readStart (0, 0)) :=
      ⟨by simp [readStart, total], Nat.zero_le _, fun j _ hto => absurd hto (Nat.not_lt_zero j)⟩
    refine exists_endless (I := Midway S requestCount) (fun x hx => ?_) hfirst
    obtain ⟨x', hgoes⟩ := exists_goesOn hends hx
    exact ⟨x', next_eq_some_iff.mpr hgoes, hgoes.midway hx⟩

end ReadStreams

/-! ## Returning -/

/-- Without a device, its buffers or its pipe a read fails at once. -/
theorem readData_returns_of_not_ready {δ : Type} (D : ReadDevice δ) {t : KUSB488BTransport}
    (ht : ¬ t.ReadyToRead) (requestCount : Nat) (eosChar eosFlags : UInt8) (timeoutUs : Nat)
    (d : δ) :
    ∃ r, converse D.answer (readData 1 t requestCount eosChar eosFlags timeoutUs) d = some r := by
  by_cases hzero : requestCount = 0
  · rw [readData, if_pos hzero]
    exact ⟨_, rfl⟩
  by_cases hattached : t.Attached
  · have hmissing : (!t.dataInPipe || !t.inBuffer) = true := by
      by_contra h
      simp only [Bool.or_eq_true, Bool.not_eq_true', not_or, Bool.not_eq_false] at h
      exact ht ⟨hattached, h.1, h.2⟩
    have hroom : (true && decide (([] : List UInt8).length < requestCount)) = true := by
      simpa using Nat.pos_of_ne_zero hzero
    have hfetch : t.fetchChunk requestCount timeoutUs true [] = pure (.errNotReady, []) := by
      rw [fetchChunk, if_pos hroom, bulkIn, if_pos hmissing]
      rfl
    rw [readData, if_neg hzero, converse_bind, converse_beginTransfer hattached]
    simp only [Option.bind_some, ne_eq, not_true_eq_false, if_false, readLoop, hfetch, pure_bind,
      reduceCtorEq, not_false_eq_true, if_true, converse_bind, converse_recoverFirmwareEngine]
    exact ⟨_, rfl⟩
  · have hmissing : (!t.device || !t.owner) = true ∨ (!t.ctrlBuffer) = true := by
      by_contra h
      simp only [Bool.or_eq_true, Bool.not_eq_true', not_or, Bool.not_eq_false] at h
      exact hattached ⟨h.1.1, h.1.2, h.2⟩
    obtain ⟨rc, hrc, hbegin⟩ : ∃ rc, rc ≠ .ok ∧ t.beginTransfer reqBeginRead readWValue
        (readWIndex eosChar eosFlags) requestCount timeoutUs = pure rc := by
      have hheader : (transferHeader requestCount timeoutUs).length = 8 := rfl
      by_cases hdevice : (!t.device || !t.owner) = true
      · exact ⟨.errNotReady, by decide, if_pos hdevice⟩
      · refine ⟨.errIo, by decide, ?_⟩
        simp [beginTransfer, controlOut, hdevice, hmissing.resolve_left hdevice, hheader]
    rw [readData, if_neg hzero, hbegin, pure_bind, if_pos hrc]
    exact ⟨_, rfl⟩

theorem readData_returns_iff_ends {t : KUSB488BTransport} (ht : t.ReadyToRead) (S : ReadStreams)
    {requestCount : Nat} (hpos : 1 ≤ requestCount) (eosChar eosFlags : UInt8) (timeoutUs : Nat) :
    (∃ fuel r, converse S.device.answer (readData fuel t requestCount eosChar eosFlags timeoutUs)
      (0, 0) = some r) ↔ S.Ends requestCount := by
  rw [← not_not (a := S.Ends requestCount), ← ReadStreams.exists_endless_iff hpos,
    ← (roundByRound_readLoop ht S.device requestCount timeoutUs).returns_iff]
  simp only [exists_converse_readData_iff ht _ hpos]

/-- A read returns exactly when the transport is not ready for one or its device ends it. -/
theorem readData_returns_iff (t : KUSB488BTransport) (S : ReadStreams) {requestCount : Nat}
    (hpos : 1 ≤ requestCount) (eosChar eosFlags : UInt8) (timeoutUs : Nat) :
    (∃ fuel r, converse S.device.answer (readData fuel t requestCount eosChar eosFlags timeoutUs)
      (0, 0) = some r) ↔ ¬ t.ReadyToRead ∨ S.Ends requestCount := by
  by_cases ht : t.ReadyToRead
  · rw [or_iff_right (not_not.mpr ht), readData_returns_iff_ends ht S hpos]
  · obtain ⟨r, hr⟩ := readData_returns_of_not_ready S.device ht requestCount eosChar eosFlags
      timeoutUs (0, 0)
    exact iff_of_true ⟨1, r, hr⟩ (.inl ht)

/-! ## A device that is always busy -/

/-- Bulk-ins that bring nothing, and one status again and again. -/
def idling (status : List UInt8) : ReadStreams where
  bulk _ := ⟨.success, []⟩
  status _ := ⟨.success, status⟩

theorem idling_total (status : List UInt8) (k : Nat) : (idling status).total k = 0 := by
  induction k with
  | zero => rfl
  | succ k ih => rw [ReadStreams.total, ih, idling, List.length_nil, Nat.zero_min]

/-- A device that is done ends the read. -/
theorem readData_returns_idling_done :
    ∃ fuel r, converse (idling [stateDone, 0, 0, 0, 0, 0, 1]).device.answer
      (readData fuel cabled 16 0 0 3000000) (0, 0) = some r :=
  (readData_returns_iff cabled _ (by decide) 0 0 3000000).mpr
    (.inr (.settled 0 (by decide) (by decide)))

/-- One that stays BUSY keeps it for ever. -/
theorem readData_never_returns_idling_busy :
    ¬ ∃ fuel r, converse (idling [stateBusy, 0, 0, 0, 0, 0, 0]).device.answer
      (readData fuel cabled 16 0 0 3000000) (0, 0) = some r := by
  rw [readData_returns_iff_ends readyToRead_cabled _ (by decide)]
  intro hends
  cases hends with
  | refused k h => exact h rfl
  | settled k _ hstate => exact hstate rfl
  | glitched k h =>
      have hfull : ¬ StatusReply.Glitch ⟨.success, [stateBusy, 0, 0, 0, 0, 0, 0]⟩ := by decide
      exact hfull (h 0 (by decide))
  | filled k h =>
      rw [idling_total] at h
      omega

end KUSB488BTransport

end DarwinGpib
