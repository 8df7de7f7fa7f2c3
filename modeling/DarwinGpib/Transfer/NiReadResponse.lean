import DarwinGpib.Model.NiUsb

/-!
# Walking an NI read response

What the block walk of `NIUSBTransport::readData` computes, whatever the adapter sent: it never
leaves the response, and never stores more than the request.
-/

namespace DarwinGpib

namespace NIUSBTransport

variable {room requestCount : Nat} {resp : List UInt8}

/-- The payload bytes of a block that starts at index `p`, as far as they were received. -/
def payloadAt (resp : List UInt8) (p k : Nat) : List UInt8 := (resp.drop p).take k

@[simp] theorem payloadAt_zero (p : Nat) : payloadAt resp p 0 = [] := by
  simp [payloadAt]

theorem payloadAt_of_le {p k : Nat} (h : resp.length ≤ p) : payloadAt resp p k = [] := by
  simp [payloadAt, List.drop_eq_nil_of_le h]

theorem payloadAt_succ {p k : Nat} (h : p < resp.length) :
    payloadAt resp p (k + 1) = resp[p] :: payloadAt resp (p + 1) k := by
  rw [payloadAt, List.drop_eq_getElem_cons h, List.take_succ_cons, payloadAt]

/-- Copying a block appends its payload, as much of it as the request has room for. -/
theorem copyBlock_eq (hroom : requestCount ≤ room) (k p : Nat) (buf : List UInt8) :
    copyBlock room requestCount resp k p buf =
      some (p + (payloadAt resp p k).length,
        buf ++ (payloadAt resp p k).take (requestCount - buf.length)) := by
  induction k generalizing p buf with
  | zero => simp [copyBlock]
  | succ k ih =>
      rw [copyBlock]
      split
      · rename_i hp
        rw [payloadAt_succ hp, List.getElem?_eq_getElem hp]
        simp only [Option.bind_eq_bind, Option.bind_some, List.length_cons]
        by_cases hlt : buf.length < requestCount
        · have hstore : Usb.store room buf resp[p] = some (buf ++ [resp[p]]) := by
            rw [Usb.store, if_pos (by omega)]
          have hsub : requestCount - buf.length = (requestCount - (buf.length + 1)) + 1 := by
            omega
          rw [if_pos hlt, hstore, Option.bind_some, ih, hsub, List.take_succ_cons]
          simp [Nat.add_comm]
          omega
        · have hsub : requestCount - buf.length = 0 := by omega
          rw [if_neg hlt, ih, hsub]
          simp
          omega
      · rename_i hp
        rw [payloadAt_of_le (by omega)]
        simp

/-- One data block of the walk. -/
theorem walkBlocks_data (hroom : requestCount ≤ room) {fuel p : Nat} {buf : List UInt8}
    {blockPayload : Nat} (hp : resp[p]? = some niusbIbrdDataId) :
    walkBlocks room requestCount resp (fuel + 1) p buf blockPayload =
      walkBlocks room requestCount resp fuel (p + 1 + (payloadAt resp (p + 1) 15).length)
        (buf ++ (payloadAt resp (p + 1) 15).take (requestCount - buf.length)) 15 := by
  obtain ⟨hlt, -⟩ := List.getElem?_eq_some_iff.mp hp
  rw [walkBlocks, if_pos hlt, hp]
  simp [copyBlock_eq hroom]

/-- One extended data block of the walk. -/
theorem walkBlocks_extended (hroom : requestCount ≤ room) {fuel p : Nat} {buf : List UInt8}
    {blockPayload : Nat} (hp : resp[p]? = some niusbIbrdExtendedDataId) :
    walkBlocks room requestCount resp (fuel + 1) p buf blockPayload =
      walkBlocks room requestCount resp fuel (p + 2 + (payloadAt resp (p + 2) 30).length)
        (buf ++ (payloadAt resp (p + 2) 30).take (requestCount - buf.length)) 30 := by
  obtain ⟨hlt, -⟩ := List.getElem?_eq_some_iff.mp hp
  have hne : niusbIbrdExtendedDataId ≠ niusbIbrdDataId := by decide
  rw [walkBlocks, if_pos hlt, hp]
  simp [copyBlock_eq hroom, hne]

/-- The walk stops at the first byte that is not the id of a data block. -/
theorem walkBlocks_stop {fuel p : Nat} {buf : List UInt8} {blockPayload : Nat}
    (hp : resp[p]? ≠ some niusbIbrdDataId) (hp' : resp[p]? ≠ some niusbIbrdExtendedDataId) :
    walkBlocks room requestCount resp (fuel + 1) p buf blockPayload =
      some (p, buf, blockPayload) := by
  rw [walkBlocks]
  split
  · rename_i hlt
    rw [List.getElem?_eq_getElem hlt] at hp hp' ⊢
    have h₁ : resp[p] ≠ niusbIbrdDataId := by simpa using hp
    have h₂ : resp[p] ≠ niusbIbrdExtendedDataId := by simpa using hp'
    simp [h₁, h₂]
  · rfl

/-- The walk as a derivation: what it consumes block by block. -/
inductive Walk (requestCount : Nat) (resp : List UInt8) :
    (p : Nat) → (buf : List UInt8) → (blockPayload : Nat) → (p' : Nat) →
    (buf' : List UInt8) → (blockPayload' : Nat) → Prop where
  | stop {p buf blockPayload} (h : resp[p]? ≠ some niusbIbrdDataId)
      (h' : resp[p]? ≠ some niusbIbrdExtendedDataId) :
      Walk requestCount resp p buf blockPayload p buf blockPayload
  | data {p buf blockPayload p' buf' blockPayload'} (h : resp[p]? = some niusbIbrdDataId)
      (rest : Walk requestCount resp (p + 1 + (payloadAt resp (p + 1) 15).length)
        (buf ++ (payloadAt resp (p + 1) 15).take (requestCount - buf.length)) 15
        p' buf' blockPayload') :
      Walk requestCount resp p buf blockPayload p' buf' blockPayload'
  | extended {p buf blockPayload p' buf' blockPayload'}
      (h : resp[p]? = some niusbIbrdExtendedDataId)
      (rest : Walk requestCount resp (p + 2 + (payloadAt resp (p + 2) 30).length)
        (buf ++ (payloadAt resp (p + 2) 30).take (requestCount - buf.length)) 30
        p' buf' blockPayload') :
      Walk requestCount resp p buf blockPayload p' buf' blockPayload'

/-- With fuel for the rest of the response, the walk ends, and where its derivation does. -/
theorem walkBlocks_eq_some (hroom : requestCount ≤ room) {fuel p : Nat}
    (hfuel : resp.length < fuel + p) (hpos : 0 < fuel) (buf : List UInt8)
    (blockPayload : Nat) :
    ∃ p' buf' blockPayload',
      walkBlocks room requestCount resp fuel p buf blockPayload =
        some (p', buf', blockPayload') ∧
      Walk requestCount resp p buf blockPayload p' buf' blockPayload' := by
  induction fuel generalizing p buf blockPayload with
  | zero => exact absurd hpos (Nat.lt_irrefl 0)
  | succ fuel ih =>
      by_cases hdata : resp[p]? = some niusbIbrdDataId
      · obtain ⟨hlt, -⟩ := List.getElem?_eq_some_iff.mp hdata
        obtain ⟨p', buf', bp', hrun, hwalk⟩ :=
          ih (p := p + 1 + (payloadAt resp (p + 1) 15).length) (by omega) (by omega)
            (buf ++ (payloadAt resp (p + 1) 15).take (requestCount - buf.length)) 15
        exact ⟨p', buf', bp', by rw [walkBlocks_data hroom hdata, hrun], .data hdata hwalk⟩
      · by_cases hext : resp[p]? = some niusbIbrdExtendedDataId
        · obtain ⟨hlt, -⟩ := List.getElem?_eq_some_iff.mp hext
          obtain ⟨p', buf', bp', hrun, hwalk⟩ :=
            ih (p := p + 2 + (payloadAt resp (p + 2) 30).length) (by omega) (by omega)
              (buf ++ (payloadAt resp (p + 2) 30).take (requestCount - buf.length)) 30
          exact ⟨p', buf', bp', by rw [walkBlocks_extended hroom hext, hrun],
            .extended hext hwalk⟩
        · exact ⟨p, buf, blockPayload, walkBlocks_stop hdata hext, .stop hdata hext⟩

/-- The walk stores no more than the request. -/
theorem Walk.length_le {p p' blockPayload blockPayload' : Nat} {buf buf' : List UInt8}
    (h : Walk requestCount resp p buf blockPayload p' buf' blockPayload')
    (hbuf : buf.length ≤ requestCount) : buf'.length ≤ requestCount := by
  induction h with
  | stop => exact hbuf
  | data _ _ ih =>
      apply ih
      rw [List.length_append, List.length_take]
      omega
  | extended _ _ ih =>
      apply ih
      rw [List.length_append, List.length_take]
      omega

theorem parseStatusBlock_isSome (resp : List UInt8) (p : Nat) (h : p + 8 ≤ resp.length) :
    (parseStatusBlock resp p).isSome := by
  have h₀ : p < resp.length := by omega
  have h₁ : p + 1 < resp.length := by omega
  have h₂ : p + 2 < resp.length := by omega
  have h₃ : p + 3 < resp.length := by omega
  have h₄ : p + 4 < resp.length := by omega
  have h₅ : p + 5 < resp.length := by omega
  simp [parseStatusBlock, h₀, h₁, h₂, h₃, h₄, h₅]

/-- The number of valid bytes that `parseReadResponse` reports for a complete response. -/
def validBytes (resp : List UInt8) (p : Nat) (buf : List UInt8) (blockPayload : Nat) : Nat :=
  if blockPayload ≠ 0 ∧ p + 8 < resp.length ∧ 0 < buf.length then
    trimOvershoot buf.length blockPayload (resp.getD (p + 8) 0).toNat
  else buf.length

theorem validBytes_le (p : Nat) (buf : List UInt8) (blockPayload : Nat) :
    validBytes resp p buf blockPayload ≤ buf.length := by
  unfold validBytes
  split
  · exact Nat.min_le_right _ _
  · exact Nat.le_refl _

/-- Decoding a response: the walk, then either an error that keeps the bytes stored so far or
the outcome of the status block. Nothing is read out of bounds. -/
theorem parseReadResponse_eq_some (hroom : requestCount ≤ room) (resp : List UInt8) :
    ∃ p buf blockPayload,
      Walk requestCount resp 0 [] 0 p buf blockPayload ∧
      ((resp.length < p + 8 ∨
          (∃ st, parseStatusBlock resp p = some st ∧ st.id ≠ niusbIbrdStatusId)) ∧
        parseReadResponse room requestCount resp = some ⟨.errIo, buf, buf.length, false⟩ ∨
      ∃ st, p + 8 ≤ resp.length ∧ parseStatusBlock resp p = some st ∧
        st.id = niusbIbrdStatusId ∧
        parseReadResponse room requestCount resp =
          some ⟨mapNiError st.errorCode, buf, validBytes resp p buf blockPayload,
            st.ibsta &&& Ibsta.end.toUInt16 ≠ 0⟩) := by
  have hfuel : resp.length < resp.length + 1 + 0 := Nat.lt_succ_self _
  obtain ⟨p, buf, blockPayload, hrun, hwalk⟩ :=
    walkBlocks_eq_some hroom hfuel (Nat.succ_pos _) [] 0
  refine ⟨p, buf, blockPayload, hwalk, ?_⟩
  by_cases hlen : resp.length < p + 8
  · left
    refine ⟨.inl hlen, ?_⟩
    simp [parseReadResponse, hrun, hlen]
  · obtain ⟨st, hst⟩ := Option.isSome_iff_exists.mp
      (parseStatusBlock_isSome resp p (by omega))
    by_cases hid : st.id = niusbIbrdStatusId
    · right
      refine ⟨st, by omega, hst, hid, ?_⟩
      have hlen' : ¬ p + 8 > resp.length := hlen
      by_cases htail : blockPayload ≠ 0 ∧ p + 8 < resp.length ∧ 0 < buf.length
      · have hget : resp[p + 8]? = some (resp.getD (p + 8) 0) := by
          simp [List.getD_eq_getElem?_getD, List.getElem?_eq_getElem htail.2.1]
        simp only [parseReadResponse, hrun, Option.bind_eq_bind, Option.bind_some, if_neg hlen',
          hst, hid, ne_eq, not_true_eq_false, if_false, if_pos htail, hget, Option.map_some,
          validBytes]
        rfl
      · simp only [parseReadResponse, hrun, Option.bind_eq_bind, Option.bind_some, if_neg hlen',
          hst, hid, ne_eq, not_true_eq_false, if_false, if_neg htail, validBytes]
        rfl
    · left
      refine ⟨.inr ⟨st, hst, hid⟩, ?_⟩
      simp [parseReadResponse, hrun, hlen, hst, hid]

end NIUSBTransport

end DarwinGpib
