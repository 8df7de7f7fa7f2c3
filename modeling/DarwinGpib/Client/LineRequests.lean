import DarwinGpib.Client.DispatchEffect
import DarwinGpib.Client.PackedDescriptors
import DarwinGpib.Library.Past
import DarwinGpib.Model.Gpibctl

/-!
# What the handle of a line-status request selects

One 32-bit field carries the handles of descriptors, the -1 of the board itself and the tagged
words of the diagnostics. `LineRequest` is what `handleLineStatus` tells apart; every handle of the
library reads the bus lines, and every word of gpibctl is read as what it was packed from.
-/

namespace DarwinGpib

open Interaction PackedWord

/-! ## Requests -/

/-- What a line-status call asks of the board. -/
inductive LineRequest where
  | softReset
  | resetDevice
  | setMaxDataChunk (bytes : Nat)
  | writeRawRegister (reg : UInt16) (value : UInt8)
  | readRawRegister (reg : UInt16)
  | busLines
  deriving DecidableEq, Repr

namespace UserClient

section Handlers

variable {m : Type → Type} [Monad m] (T : IGPIBTransport m)

/-- The branches of `handleLineStatus`. -/
def performed : LineRequest → BoardState → m ((UInt16 × Status) × BoardState)
  | .softReset, s => do
      let (rc, s) ← softResetDiag T s
      return diagReply rc 0 s
  | .resetDevice, s => do
      let rc ← passDiag Iberr.eneb T.resetDevice s
      return diagReply rc 0 s
  | .setMaxDataChunk bytes, s => do
      let rc ← passDiag Iberr.eneb (T.setMaxDataChunk bytes) s
      return diagReply rc 0 s
  | .writeRawRegister reg value, s => do
      let rc ← passDiag 0xFF (T.writeRawRegister reg value) s
      return diagReply rc 0 s
  | .readRawRegister reg, s => do
      if !s.hasTransport then return diagReply 0xFF 0 s
      let (rc, raw) ← T.readRawRegister reg
      return diagReply rc.code raw s
  | .busLines, s => BoardState.busLineStatus T s

/-- The branch that a word selects. -/
def requestOf (h : UInt32) : LineRequest :=
  if h = 0x10000000 then .softReset
  else if h = 0x18000000 then .resetDevice
  else if h &&& 0xF0000000 = 0x50000000 then .setMaxDataChunk (h &&& 0xFFFF).toNat
  else if h &&& 0xF0000000 = 0x20000000 then
    .writeRawRegister ((h >>> 8) &&& 0xFFF).toUInt16 h.toUInt8
  else if h &&& 0xF0000000 = 0x40000000 then .readRawRegister h.toUInt16
  else .busLines

theorem lineStatus_eq_performed (handle : Int) (s : BoardState) :
    lineStatus T handle s = performed T (requestOf (Int32.ofInt handle).toUInt32) s := by
  simp only [lineStatus, requestOf, apply_ite (performed T), ite_apply]
  rfl

end Handlers

/-- The handle takes the branch of the request, whatever the transport and the board are. -/
structure Selects (handle : Int) (request : LineRequest) : Prop where
  branch : requestOf (Int32.ofInt handle).toUInt32 = request
  performs : ∀ {m : Type → Type} [Monad m] (T : IGPIBTransport m) (b : GPIBBoard),
    handleLineStatus T b handle = do
      let ((lines, s), b) ← b.onBus (performed T request)
      return (.lines lines s, b)

theorem selects_of_requestOf {handle : Int32} {request : LineRequest}
    (h : requestOf handle.toUInt32 = request) : Selects handle.toInt request := by
  have hbranch : requestOf (Int32.ofInt handle.toInt).toUInt32 = request := by
    rwa [Int32.ofInt_toInt]
  refine ⟨hbranch, fun T b => ?_⟩
  have hstatus : lineStatus T handle.toInt = performed T request := by
    funext s
    rw [lineStatus_eq_performed, hbranch]
  rw [handleLineStatus, hstatus]

/-! ## Tags -/

/-- The tag of a diagnostic, and the two arguments of a register write. -/
def tagBits : Field := ⟨28, 4⟩
def registerBits : Field := ⟨8, 12⟩
def valueBits : Field := ⟨0, 8⟩

/-- The argument of the other diagnostics. -/
def argumentBits : Field := ⟨0, 16⟩

variable {h : UInt32}

theorem and_tag {k : BitVec 32} {word : UInt32} (htag : tagBits.get h.toBitVec = k)
    (hword : word.toBitVec = k <<< 28) : h &&& 0xF0000000 = word := by
  have hmask : tagBits.mask 32 <<< tagBits.shift = 0xF0000000#32 := by decide
  have hmove : tagBits.get h.toBitVec <<< tagBits.shift = _ := Field.get_shiftLeft
  rw [hmask, htag] at hmove
  apply UInt32.toBitVec_inj.mp
  rw [hword]
  exact hmove.symm

/-- Only the resets have the tag 1. -/
theorem requestOf_eq (hne : h &&& 0xF0000000 ≠ 0x10000000) :
    requestOf h =
      if h &&& 0xF0000000 = 0x50000000 then .setMaxDataChunk (h &&& 0xFFFF).toNat
      else if h &&& 0xF0000000 = 0x20000000 then
        .writeRawRegister ((h >>> 8) &&& 0xFFF).toUInt16 h.toUInt8
      else if h &&& 0xF0000000 = 0x40000000 then .readRawRegister h.toUInt16
      else .busLines := by
  have hsoft : h ≠ 0x10000000 := by
    rintro rfl
    exact hne (by decide)
  have hreset : h ≠ 0x18000000 := by
    rintro rfl
    exact hne (by decide)
  rw [requestOf, if_neg hsoft, if_neg hreset]

theorem requestOf_of_tag_five (htag : tagBits.get h.toBitVec = 5) :
    requestOf h = .setMaxDataChunk (h &&& 0xFFFF).toNat := by
  have hand : h &&& 0xF0000000 = 0x50000000 := and_tag htag (by decide)
  rw [requestOf_eq (by rw [hand]; decide), if_pos hand]

theorem requestOf_of_tag_two (htag : tagBits.get h.toBitVec = 2) :
    requestOf h = .writeRawRegister ((h >>> 8) &&& 0xFFF).toUInt16 h.toUInt8 := by
  have hand : h &&& 0xF0000000 = 0x20000000 := and_tag htag (by decide)
  rw [requestOf_eq (by rw [hand]; decide), hand, if_neg (by decide), if_pos rfl]

theorem requestOf_of_tag_four (htag : tagBits.get h.toBitVec = 4) :
    requestOf h = .readRawRegister h.toUInt16 := by
  have hand : h &&& 0xF0000000 = 0x40000000 := and_tag htag (by decide)
  rw [requestOf_eq (by rw [hand]; decide), hand, if_neg (by decide), if_neg (by decide),
    if_pos rfl]

theorem requestOf_of_tag_zero (htag : tagBits.get h.toBitVec = 0) : requestOf h = .busLines := by
  have hand : h &&& 0xF0000000 = 0 := and_tag htag (by decide)
  rw [requestOf_eq (by rw [hand]; decide), hand, if_neg (by decide), if_neg (by decide),
    if_neg (by decide)]

/-! ## Words of gpibctl -/

/-- What `handleLineStatus` takes out of a word, as fields of it. -/
theorem toBitVec_argument (h : UInt32) :
    (h &&& 0xFFFF).toBitVec = argumentBits.get h.toBitVec := by
  have hmask : argumentBits.mask 32 = 0xFFFF#32 := by decide
  rw [Field.get, hmask]
  simp [argumentBits]

theorem toBitVec_register (h : UInt32) :
    ((h >>> 8) &&& 0xFFF).toBitVec = registerBits.get h.toBitVec := by
  have hmask : registerBits.mask 32 = 0xFFF#32 := by decide
  rw [Field.get, hmask]
  simp [registerBits]

theorem toBitVec_value (h : UInt32) : (h &&& 0xFF).toBitVec = valueBits.get h.toBitVec := by
  have hmask : valueBits.mask 32 = 0xFF#32 := by decide
  rw [Field.get, hmask]
  simp [valueBits]

/-- A tagged word with one argument. -/
theorem toBitVec_tagged {word : UInt32} {tag : BitVec 32} (hword : word.toBitVec = tagBits.put tag)
    (arg : UInt32) :
    (word ||| (arg &&& 0xFFFF)).toBitVec = tagBits.put tag ||| argumentBits.put arg.toBitVec := by
  have hmask : argumentBits.mask 32 = 0xFFFF#32 := by decide
  rw [UInt32.toBitVec_or, hword, Field.put.eq_1 argumentBits, hmask]
  simp [argumentBits]

theorem toBitVec_poke (reg val : UInt32) :
    ((0x20000000 : UInt32) ||| ((reg &&& 0xFFF) <<< 8) ||| (val &&& 0xFF)).toBitVec =
      tagBits.put 2 ||| registerBits.put reg.toBitVec ||| valueBits.put val.toBitVec := by
  have htag : tagBits.put (2 : BitVec 32) = 0x20000000#32 := by decide
  have hregister : registerBits.mask 32 = 0xFFF#32 := by decide
  have hvalue : valueBits.mask 32 = 0xFF#32 := by decide
  rw [htag, Field.put.eq_1 registerBits, Field.put.eq_1 valueBits, hregister, hvalue]
  simp [registerBits, valueBits]

section Tagged

variable {word : UInt32} {tag : BitVec 32}

theorem tag_of_tagged (hword : word.toBitVec = tagBits.put tag)
    (htag : tag &&& tagBits.mask 32 = tag) (arg : UInt32) :
    tagBits.get (word ||| (arg &&& 0xFFFF)).toBitVec = tag := by
  have happart : tagBits.get (argumentBits.put arg.toBitVec) = 0 :=
    Field.get_put_of_apart (by decide)
  rw [toBitVec_tagged hword, Field.get_or, Field.get_put (by decide), htag, happart]
  simp

theorem argument_of_tagged (hword : word.toBitVec = tagBits.put tag) (arg : UInt32) :
    (word ||| (arg &&& 0xFFFF)) &&& 0xFFFF = arg &&& 0xFFFF := by
  have hmask : argumentBits.mask 32 = 0xFFFF#32 := by decide
  have happart : argumentBits.get (tagBits.put tag) = 0 := Field.get_put_of_apart (by decide)
  apply UInt32.toBitVec_inj.mp
  rw [toBitVec_argument, toBitVec_tagged hword, Field.get_or, Field.get_put (by decide), happart,
    hmask]
  simp

end Tagged

theorem toUInt16_and (h : UInt32) : (h &&& 0xFFFF).toUInt16 = h.toUInt16 := by
  have hall : UInt32.toUInt16 0xFFFF = -1 := by decide
  rw [UInt32.toUInt16_and, hall, UInt16.and_neg_one]

theorem toUInt8_and (h : UInt32) : (h &&& 0xFF).toUInt8 = h.toUInt8 := by
  have hall : UInt32.toUInt8 0xFF = -1 := by decide
  rw [UInt32.toUInt8_and, hall, UInt8.and_neg_one]

theorem requestOf_chunk (n : UInt32) :
    requestOf (0x50000000 ||| (n &&& 0xFFFF)) = .setMaxDataChunk (n &&& 0xFFFF).toNat := by
  have hword : UInt32.toBitVec 0x50000000 = tagBits.put 5 := by decide
  rw [requestOf_of_tag_five (tag_of_tagged hword (by decide) n), argument_of_tagged hword]

theorem requestOf_peek (reg : UInt32) :
    requestOf (0x40000000 ||| (reg &&& 0xFFFF)) = .readRawRegister (reg &&& 0xFFFF).toUInt16 := by
  have hword : UInt32.toBitVec 0x40000000 = tagBits.put 4 := by decide
  rw [requestOf_of_tag_four (tag_of_tagged hword (by decide) reg), ← toUInt16_and,
    argument_of_tagged hword]

/-- The sweep does not cut its registers off, which are 16 bits wide. -/
theorem requestOf_sweep (reg : UInt16) :
    requestOf (0x40000000 ||| reg.toUInt32) = .readRawRegister reg := by
  have hmask : reg.toUInt32 &&& 0xFFFF = reg.toUInt32 := by
    apply UInt32.toNat_inj.mp
    rw [UInt32.toNat_and, UInt16.toNat_toUInt32]
    exact Nat.and_two_pow_sub_one_of_lt_two_pow reg.toNat_lt
  have hpeek := requestOf_peek reg.toUInt32
  rwa [hmask, UInt16.toUInt16_toUInt32] at hpeek

theorem requestOf_poke (reg val : UInt32) :
    requestOf ((0x20000000 : UInt32) ||| ((reg &&& 0xFFF) <<< 8) ||| (val &&& 0xFF)) =
      .writeRawRegister (reg &&& 0xFFF).toUInt16 (val &&& 0xFF).toUInt8 := by
  have hword := toBitVec_poke reg val
  generalize (0x20000000 : UInt32) ||| ((reg &&& 0xFFF) <<< 8) ||| (val &&& 0xFF) = h at *
  have htag : tagBits.get h.toBitVec = 2 := by
    rw [hword, Field.get_or, Field.get_or, Field.get_put (by decide),
      Field.get_put_of_apart (by decide), Field.get_put_of_apart (by decide)]
    decide
  have hregister : (h >>> 8) &&& 0xFFF = reg &&& 0xFFF := by
    have hmask : registerBits.mask 32 = 0xFFF#32 := by decide
    apply UInt32.toBitVec_inj.mp
    rw [toBitVec_register, hword, Field.get_or, Field.get_or, Field.get_put (by decide),
      Field.get_put_of_apart (by decide), Field.get_put_of_apart (by decide), hmask]
    simp
  have hvalue : h &&& 0xFF = val &&& 0xFF := by
    have hmask : valueBits.mask 32 = 0xFF#32 := by decide
    apply UInt32.toBitVec_inj.mp
    rw [toBitVec_value, hword, Field.get_or, Field.get_or, Field.get_put (by decide),
      Field.get_put_of_apart (by decide), Field.get_put_of_apart (by decide), hmask]
    simp
  rw [requestOf_of_tag_two htag, hregister, ← toUInt8_and, hvalue]

end UserClient

namespace Gpibctl

open UserClient

/-- What a command asks for. -/
def Command.intends : Command → List LineRequest
  | lines => [.busLines]
  | regs => sweptRegisters.map .readRawRegister
  | peek reg => [.readRawRegister (reg &&& 0xFFFF).toUInt16]
  | poke reg val => [.writeRawRegister (reg &&& 0xFFF).toUInt16 (val &&& 0xFF).toUInt8]
  | reinit => [.softReset]
  | usbreset => [.resetDevice]
  | chunk n => [.setMaxDataChunk (n &&& 0xFFFF).toNat]

theorem forall₂_requestOf (cmd : Command) :
    List.Forall₂ (fun handle request => requestOf handle.toUInt32 = request) cmd.handles
      cmd.intends := by
  cases cmd with
  | regs =>
      rw [Command.handles, Command.intends, List.forall₂_map_left_iff, List.forall₂_map_right_iff]
      exact List.forall₂_same.mpr fun reg _ => requestOf_sweep reg
  | lines => exact .cons (by decide) .nil
  | reinit => exact .cons (by decide) .nil
  | usbreset => exact .cons (by decide) .nil
  | peek reg => exact .cons (requestOf_peek reg) .nil
  | poke reg val => exact .cons (requestOf_poke reg val) .nil
  | chunk n => exact .cons (requestOf_chunk n) .nil

/-- A command sends one line-status request for each of the things it asks for. -/
theorem main_selects {argv : List (List Char)} {cmd : Command} {board : Int32}
    (h : parse argv = some (cmd, board)) :
    ∃ calls, main argv = some calls ∧ List.Forall₂ (fun call request =>
      ∃ handle, call = .call board (.lineStatus handle) ∧ Selects handle request) calls
        cmd.intends := by
  refine ⟨_, by rw [main, h]; rfl, ?_⟩
  rw [List.forall₂_map_left_iff]
  exact (forall₂_requestOf cmd).imp fun handle request hrequest =>
    ⟨handle.toInt, rfl, selects_of_requestOf hrequest⟩

end Gpibctl

namespace Libgpib

open UserClient

/-! ## Ordinary handles -/

/-- The handle of the board itself, or one of 23 bits. -/
def Ordinary (handle : Int32) : Prop := handle = -1 ∨ handle &&& handleMask = handle

theorem ordinary_and_handleMask (ud : Int32) : Ordinary (ud &&& handleMask) := by
  right
  rw [Int32.and_assoc, Int32.and_self]

theorem ordinary_of_range {handle : Int32} (hpos : 0 ≤ handle) (hle : handle ≤ 0x7fffff) :
    Ordinary handle := by
  right
  apply Int32.toBitVec_inj.mp
  have hmask : handleMask.toBitVec = handleBits.mask 32 := by decide
  rw [Int32.toBitVec_and, hmask, handle_and_mask hpos hle]

theorem requestOf_ordinary {handle : Int32} (h : Ordinary handle) :
    requestOf handle.toUInt32 = .busLines := by
  rcases h with rfl | hmask
  · decide
  · have hput : handle.toUInt32.toBitVec = handleBits.put handle.toBitVec := by
      have hmask' : handleMask.toBitVec = handleBits.mask 32 := by decide
      have hbits := congrArg Int32.toBitVec hmask
      rw [Int32.toBitVec_and, hmask'] at hbits
      rw [Field.put, hbits]
      exact (BitVec.shiftLeft_zero _).symm
    apply requestOf_of_tag_zero
    rw [hput]
    exact Field.get_put_of_apart (by decide)

/-! ## The handle of iblines -/

/-- A reply that a driver may have given: what opens a descriptor is answered by
`handleOpenDescriptor`, on whatever board. -/
def FromDriver : Exchange BrokerCall.Reply → Prop
  | ⟨.call _ (.openDescriptor i), reply⟩ =>
      ∀ out, CallReply.out reply = some out → ∃ b, out = (handleOpenDescriptor b i).1
  | _ => True

/-- A line-status request, if it is one, reads the bus lines. -/
def ReadsLines (e : Exchange BrokerCall.Reply) : Prop :=
  ∀ conn handle, e.request = .call conn (.lineStatus handle) → Selects handle .busLines

/-- The exchanges of a driver are written down. -/
def Witnessed (past : Trace BrokerCall.Reply) (e : Exchange BrokerCall.Reply)
    (past' : Trace BrokerCall.Reply) : Prop :=
  Recording past e past' ∧ FromDriver e

/-- Every cached handle is ordinary, and so was every one that was sent. -/
structure Sound (p : Process) (past : Trace BrokerCall.Reply) : Prop where
  cached : ∀ i, inRange i = true → Ordinary (p.boardHandles i)
  sent : ∀ e ∈ past, ReadsLines e

variable {p : Process} {past : Trace BrokerCall.Reply}

theorem Sound.concat (h : Sound p past) {e : Exchange BrokerCall.Reply} (he : ReadsLines e) :
    Sound p (past ++ [e]) := by
  refine ⟨h.cached, fun e' hmem => ?_⟩
  rcases List.mem_append.mp hmem with hmem | hmem
  · exact h.sent e' hmem
  · rw [List.mem_singleton.mp hmem]
    exact he

theorem Sound.of_boardHandles {p' : Process} (h : Sound p past)
    (heq : p'.boardHandles = p.boardHandles) : Sound p' past := by
  refine ⟨?_, h.sent⟩
  rw [heq]
  exact h.cached

theorem readsLines_probe (i : Int32) (kr : Int64) : ReadsLines ⟨.probe i, kr⟩ := by
  rintro conn handle ⟨⟩

theorem sound_connForBoard (i : Int32) :
    Triple Witnessed Sound (connForBoard i) fun _ => Sound := by
  apply triple_connForBoard
  · intro p p' past heq h
    exact h.of_boardHandles heq
  · rintro p past i kr past' ⟨rfl, -⟩ h
    exact h.concat (readsLines_probe i kr)

/-- A call that reads the bus lines, or is no line-status request at all. -/
theorem sound_callStruct (conn : Int32) {c : DriverCall}
    (hc : ∀ reply : CallReply, ReadsLines ⟨.call conn c, reply⟩) :
    Triple Witnessed Sound (callStruct conn c) fun r p past =>
      (∃ reply : CallReply, r.2 = reply.out ∧ FromDriver ⟨.call conn c, reply⟩) ∧
        Sound p past := by
  apply triple_callStruct
  · rintro reply kr p p' past past' - - hp' h ⟨rfl, hdriver⟩
    have heq : p'.boardHandles = p.boardHandles := by
      rcases hp' with rfl | rfl <;> rfl
    exact ⟨⟨reply, rfl, hdriver⟩, (h.concat (hc reply)).of_boardHandles heq⟩
  · rintro reply p past past' - h ⟨rfl, hdriver⟩
    exact ⟨⟨reply, rfl, hdriver⟩, h.concat (hc reply)⟩

/-- A driver reports -1 or one of its handles. -/
theorem ordinary_openDescriptorOut {i : OpenDescriptorIn} {conn : Int32} {reply : CallReply}
    (h : FromDriver ⟨.call conn (.openDescriptor i), reply⟩) :
    Ordinary (openDescriptorOut reply.out).1 := by
  cases hout : reply.out with
  | none => exact .inr (by decide)
  | some out =>
      obtain ⟨b, hb⟩ := h out hout
      have heffect : TableEffect b (.openDescriptor i) (out, (handleOpenDescriptor b i).2) :=
        Prod.ext hb rfl
      rcases heffect.opened with ⟨handle, s, rfl, hmem, -, -⟩ | ⟨⟨s, rfl⟩, -⟩
      · obtain ⟨hpos, hle⟩ := ofInt_handle_range hmem
        exact ordinary_of_range hpos hle
      · exact .inl (show Int32.ofInt (-1) = -1 by decide)

theorem sound_setStatus (ibsta iberr : UInt32) (cnt : Nat) :
    Triple Witnessed Sound (setStatus ibsta iberr cnt) fun _ => Sound :=
  triple_modify fun _ _ h => h.of_boardHandles rfl

/-- A failed opening leaves a status behind and reports -1. -/
theorem sound_failure {known : Prop} (ibsta iberr : UInt32) :
    Triple Witnessed (fun p past => known ∧ Sound p past) (do
      setStatus ibsta iberr 0
      return (-1 : Int32)) fun h p past => Ordinary h ∧ Sound p past := by
  have hstatus := (sound_setStatus ibsta iberr 0).conseq
    (fun _ _ (h : known ∧ Sound _ _) => h.2) fun _ _ _ h => h
  exact triple_bind hstatus fun _ => triple_pure fun _ _ h => ⟨.inl rfl, h⟩

theorem sound_setBoardHandle (i : Int32) {handle : Int32} (h : Ordinary handle) :
    Triple Witnessed Sound (setBoardHandle i handle) fun _ => Sound := by
  refine triple_ite (fun _ => triple_pure fun _ _ h => h) fun _ => triple_modify ?_
  intro p past hsound
  refine ⟨fun j hj => ?_, hsound.sent⟩
  change Ordinary (Function.update p.boardHandles i handle j)
  by_cases hji : j = i
  · rw [hji, Function.update_self]
    exact h
  · rw [Function.update_of_ne hji]
    exact hsound.cached j hj

theorem sound_openBoard (i : Int32) :
    Triple Witnessed Sound (openBoard i) fun h p past => Ordinary h ∧ Sound p past := by
  unfold openBoard
  refine triple_bind (sound_connForBoard i) ?_
  rintro (_ | c)
  · exact triple_pure fun p past h => ⟨.inl rfl, h⟩
  refine triple_bind (sound_callStruct c (by rintro reply conn handle ⟨⟩)) ?_
  rintro ⟨kr, out⟩
  apply triple_ite
  · exact fun _ => sound_failure _ _
  intro _
  refine triple_bind ((sound_callStruct c (by rintro reply conn handle ⟨⟩)).conseq
    (fun p past h => h.2) fun _ _ _ h => h) ?_
  rintro ⟨kr, out⟩
  apply triple_ite
  · exact fun _ => sound_failure _ _
  intro _
  apply triple_ite
  · exact fun _ => sound_failure _ _
  intro _
  apply triple_of_pre
  rintro ⟨reply, rfl, hdriver⟩
  have hordinary := ordinary_openDescriptorOut hdriver
  exact triple_bind (sound_setBoardHandle i hordinary) fun _ =>
    triple_pure fun p past h => ⟨hordinary, h⟩

theorem sound_handleOf (ud : Int32) :
    Triple Witnessed Sound (handleOf ud) fun h p past => Ordinary h ∧ Sound p past := by
  unfold handleOf
  apply triple_ite
  · intro hud
    apply triple_boardHandle
    · intro p past _ h
      exact ⟨.inl rfl, h⟩
    · intro p past _ h
      exact ⟨h.cached ud hud, h⟩
    · intro _
      exact (sound_openBoard ud).conseq (fun p past h => h.2) fun _ _ _ h => h
  · intro _
    exact triple_pure fun p past h => ⟨ordinary_and_handleMask ud, h⟩

theorem sound_iblines (ud : Int32) : Triple Witnessed Sound (iblines ud) fun _ => Sound := by
  unfold iblines
  refine triple_onHandle (sound_connForBoard _) (fun _ _ h => h) (fun _ => sound_handleOf ud)
    (R := fun _ => Sound) ?_ ?_ ?_
  · intro conn handle
    apply triple_of_pre
    intro hordinary
    refine (sound_callStruct conn ?_).conseq (fun _ _ h => h) fun _ _ _ h => h.2
    rintro reply conn handle ⟨⟩
    exact selects_of_requestOf (requestOf_ordinary hordinary)
  · intro kr out _
    exact triple_bind (sound_setStatus _ _ _) fun _ => triple_pure fun _ _ h => h
  · intro out
    exact triple_bind (sound_setStatus _ _ _) fun _ => triple_pure fun _ _ h => h

theorem serves_witnessed {u : Trace BrokerCall.Reply} (h : ∀ e ∈ u, FromDriver e) :
    Serves Witnessed past u (past ++ u) := by
  induction u generalizing past with
  | nil =>
      rw [List.append_nil]
      exact .nil past
  | cons e u ih =>
      obtain ⟨he, hu⟩ := List.forall_mem_cons.mp h
      have hrest : Serves Witnessed (past ++ [e]) u _ := ih hu
      rw [List.append_assoc, List.singleton_append] at hrest
      exact .cons ⟨rfl, he⟩ hrest

/-- The cache of a process that has only opened boards of a driver. -/
def CachesHandles (p : Process) : Prop :=
  ∀ i, inRange i = true → p.boardHandles i = -1 ∨ 1 ≤ p.boardHandles i ∧ p.boardHandles i ≤ 63

theorem CachesHandles.sound (h : CachesHandles p) : Sound p [] := by
  refine ⟨fun i hi => ?_, by simp⟩
  rcases h i hi with hnone | ⟨hpos, hle⟩
  · exact .inl hnone
  · exact ordinary_of_range (Int32.le_trans (by decide) hpos) (Int32.le_trans hle (by decide))

end Libgpib

open UserClient Libgpib

/-- A line-status call of the library reads the bus lines, whatever its descriptor and whatever
handles are cached. Packed descriptors are told apart from boards and from each other, and every
command of gpibctl selects what it is about. -/
theorem line_requests_apart :
    (∀ ud p u r p', CachesHandles p → Run ((iblines ud).run p) u (r, p') →
      (∀ e ∈ u, FromDriver e) → ∀ conn handle (reply : CallReply),
        ⟨.call conn (.lineStatus handle), reply⟩ ∈ u → Selects handle .busLines) ∧
    (∀ boardIndex handle : Int32, 0 ≤ boardIndex → boardIndex ≤ 127 → 0 ≤ handle →
      handle ≤ 0x7fffff →
        isBoardUd (makeUd boardIndex handle) = false ∧
        boardOf (makeUd boardIndex handle) = boardIndex ∧
        handleOf (makeUd boardIndex handle) = pure handle ∧
        ∀ boardIndex' handle' : Int32, 0 ≤ boardIndex' → boardIndex' ≤ 127 → 0 ≤ handle' →
          handle' ≤ 0x7fffff → makeUd boardIndex handle = makeUd boardIndex' handle' →
            boardIndex = boardIndex' ∧ handle = handle') ∧
    ∀ argv cmd board, Gpibctl.parse argv = some (cmd, board) →
      ∃ calls, Gpibctl.main argv = some calls ∧ List.Forall₂ (fun call request =>
        ∃ handle, call = .call board (.lineStatus handle) ∧ Selects handle request) calls
          cmd.intends := by
  refine ⟨?_, ?_, ?_⟩
  · intro ud p u r p' hcache hrun hdriver conn handle reply hmem
    have hserves : Serves Witnessed [] u u := serves_witnessed hdriver
    have hsound := sound_iblines ud p [] u r p' u hcache.sound hrun hserves
    exact hsound.sent _ hmem conn handle rfl
  · intro boardIndex handle hboard hboard' hhandle hhandle'
    have hout := isBoardUd_makeUd boardIndex handle
    have hof := boardOf_makeUd hboard hboard' handle
    have hmask := makeUd_and_mask hhandle hhandle' boardIndex
    refine ⟨hout, hof, by rw [handleOf, hout, if_neg (by decide), hmask], ?_⟩
    intro boardIndex' handle' hb hb' hh hh' heq
    constructor
    · rw [← hof, heq, boardOf_makeUd hb hb']
    · rw [← hmask, heq, makeUd_and_mask hh hh']
  · intro argv cmd board hparse
    exact Gpibctl.main_selects hparse

namespace Libgpib.Example

/-- Asking for the lines of gpib0 in a fresh process: the board is found, opened and asked. -/
def freshLines : Trace BrokerCall.Reply :=
  [⟨.probe 0, (0 : Int64)⟩,
    ⟨.call 0 (.boardOnline 1), (⟨0, some (.status ⟨Ibsta.cmpl, 0⟩)⟩ : CallReply)⟩,
    ⟨.call 0 (.openDescriptor boardDescriptorIn),
      (⟨0, some (.opened 1 ⟨Ibsta.cmpl, 0⟩)⟩ : CallReply)⟩,
    ⟨.call 0 (.lineStatus 1), (⟨0, some (.lines 0 ⟨Ibsta.cmpl, 0⟩)⟩ : CallReply)⟩]

end Libgpib.Example

open Libgpib.Example in
/-- A fresh process, the fifth descriptor of gpib3, and a register write. -/
theorem line_requests_apart_fresh :
    Selects 1 .busLines ∧ handleOf (makeUd 3 5) = pure 5 ∧
      ∃ calls, Gpibctl.main ["gpibctl".toList, "poke".toList, "0x107".toList, "010".toList] =
          some calls ∧ List.Forall₂ (fun call request =>
        ∃ handle, call = .call 0 (.lineStatus handle) ∧ Selects handle request) calls
          [.writeRawRegister 0x107 8] := by
  obtain ⟨hlines, huds, hcommands⟩ := line_requests_apart
  have hrun : ∃ r p', Run ((iblines 0).run .init) freshLines (r, p') :=
    ⟨_, _, .ask (.ask (.ask (.ask (.pure _))))⟩
  obtain ⟨r, p', hrun⟩ := hrun
  have hopened : DriverReply.opened 1 ⟨Ibsta.cmpl, 0⟩ =
      (handleOpenDescriptor .init boardDescriptorIn).1 := by decide
  have hdriver : ∀ e ∈ freshLines, FromDriver e := by
    simp only [freshLines, List.forall_mem_cons]
    refine ⟨trivial, trivial, ?_, trivial, by simp⟩
    rintro out hout
    cases hout
    exact ⟨.init, hopened⟩
  have hasked : ⟨.call 0 (.lineStatus 1), (⟨0, some (.lines 0 ⟨Ibsta.cmpl, 0⟩)⟩ : CallReply)⟩ ∈
      freshLines := List.mem_of_getLast? rfl
  refine ⟨?_, ?_, ?_⟩
  · exact hlines 0 .init freshLines r p' (fun _ _ => .inl rfl) hrun hdriver 0 1 _ hasked
  · exact (huds 3 5 (by decide) (by decide) (by decide) (by decide)).2.2.1
  · exact hcommands _ (.poke 0x107 8) 0 (by decide)

end DarwinGpib
