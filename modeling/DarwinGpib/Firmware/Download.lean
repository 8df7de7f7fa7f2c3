import DarwinGpib.Firmware.HeaderText
import DarwinGpib.Library.Cooperation
import DarwinGpib.Model.KusbLoader

/-!
# The two firmware downloads

`KUSB488BLoader::downloadFirmware` and the `main` of `kusb_fw_download.py` send the same control
writes, which put the images into the adapter.
-/

namespace DarwinGpib

open Interaction Pieces

/-! ## Control writes -/

/-- A vendor request to the adapter with its payload. -/
structure ControlWrite where
  request : Nat
  wValue : Nat
  wIndex : Nat
  payload : Bytes
  deriving DecidableEq, Repr

namespace FirmwareDownload

def controlWrite : Usb.Request → Option ControlWrite
  | .controlOut request wValue wIndex data =>
      some ⟨request.toNat, wValue.toNat, wIndex.toNat, data⟩
  | _ => none

def scriptWrite : KusbFwDownload.Request → Option ControlWrite
  | .ctrlTransfer _ request wValue wIndex data => some ⟨request, wValue, wIndex, data⟩
  | _ => none

/-- The driver's control writes succeed in full, and its buffer is mapped. -/
def InFull : Exchange Usb.Request.Reply → Prop
  | ⟨.map, (kr : IOReturn)⟩ => kr = .success
  | ⟨.controlOut _ _ _ data, (io : Usb.OutReply data.length)⟩ =>
      io.status = .success ∧ io.transferred = data.length
  | _ => True

/-- The script's control writes succeed in full, and it has found the adapter's loader. -/
def ScriptInFull (bcdDevice : Nat) : Exchange KusbFwDownload.Request.Reply → Prop
  | ⟨.find idProduct, (found : Option Nat)⟩ =>
      idProduct = KusbFwDownload.pidLoader → found = some bcdDevice
  | ⟨.setConfiguration, (done : Option Unit)⟩ => done = some ()
  | ⟨.ctrlTransfer _ _ _ _ data, (n : Option Nat)⟩ => n = some data.length

/-! ## What is written -/

/-- An image written to memory from `base` on. -/
def memoryWrites (request base : Nat) (data : Bytes) : List ControlWrite :=
  (pieces 0x1000 0 data).map fun p => ⟨request, (base + p.1) % 2 ^ 16, 0, p.2⟩

/-- The FPGA's bitstream; `wIndex` marks the last chunk. -/
def bitstreamWrites (data : Bytes) : List ControlWrite :=
  ⟨0xA4, 0, 0, []⟩ :: (pieces 0x1000 0 data).map fun p =>
    ⟨0xA4, 1, if p.1 + p.2.length < data.length then 0 else 1, p.2⟩

def cpucsWrite (hold : Bool) : ControlWrite := ⟨0xA0, 0xE600, 0, [if hold then 1 else 0]⟩

def firmwareWrites (fpga extram main : Bytes) : List ControlWrite :=
  bitstreamWrites fpga ++ (memoryWrites 0xA3 0x4000 extram ++ ([cpucsWrite true] ++
    (memoryWrites 0xA0 0 main ++ [cpucsWrite false])))

/-! ## The driver -/

section Driver

variable {l : KUSB488BLoader}

/-- The loader has been initialised. -/
def Ready (l : KUSB488BLoader) : Prop := l.device ∧ l.owner ∧ l.buffer

/-- The driver's program sends `ws` and succeeds. -/
abbrev DriverSends (p : Usb KUSB488BLoader.Result) (ws : List ControlWrite) : Prop :=
  Sends InFull controlWrite p ws (· = .success)

theorem init_ready (device owningService : Bool) :
    Leaves (KUSB488BLoader.init device owningService) fun _ r => r.1 = true → Ready r.2 := by
  unfold KUSB488BLoader.init
  refine leaves_ite (fun _ => leaves_pure nofun) fun _ => ?_
  refine leaves_call_bind fun kr => leaves_pure fun hkr => ?_
  simpa [Ready] using hkr

/-- What `vendorWrite` does with its data in the buffer. -/
theorem sends_controlOut (request : UInt8) (wValue wIndex : UInt16) (data : Bytes) :
    DriverSends (do
      let io : Usb.OutReply data.length ←
        Program.call (Usb.Request.controlOut request wValue wIndex data)
      if io.status ≠ .success then return .failed io.status
      return if io.transferred = data.length then .success else .underrun)
      [⟨request.toNat, wValue.toNat, wIndex.toNat, data⟩] := by
  have hreply : ∃ io : Usb.OutReply data.length,
      InFull ⟨.controlOut request wValue wIndex data, io⟩ :=
    ⟨⟨.success, Fin.last _⟩, rfl, rfl⟩
  rw [← List.append_nil [_]]
  refine sends_bind (sends_call (i := Usb.Request.controlOut request wValue wIndex data)
    hreply fun _ h => h) fun io hio => ?_
  obtain ⟨hstatus, htransferred⟩ := hio
  rw [if_neg (not_not_intro hstatus), if_pos htransferred]
  exact sends_pure rfl

theorem sends_vendorWrite (hl : Ready l) (request : UInt8) (wValue wIndex : UInt16) {data : Bytes}
    (hdata : data.length ≤ 0x1000) :
    DriverSends (l.vendorWrite request wValue wIndex data)
      [⟨request.toNat, wValue.toNat, wIndex.toNat, data⟩] := by
  obtain ⟨hdevice, howner, hbuffer⟩ := hl
  have hsend := sends_controlOut request wValue wIndex data
  unfold KUSB488BLoader.vendorWrite
  rw [if_neg (by simp [hdevice, howner])]
  dsimp only
  split
  · have hfits : ¬ (¬ l.buffer = true ∨ KUSB488BLoader.chunkSize < data.length) :=
      not_or.mpr ⟨not_not_intro hbuffer, Nat.not_lt.mpr hdata⟩
    have hmapped : ∃ kr : IOReturn, InFull ⟨.map, kr⟩ := ⟨.success, rfl⟩
    rw [if_neg hfits, ← List.nil_append [_]]
    refine sends_bind (sends_call (i := Usb.Request.map) hmapped fun _ h => h) fun kr hkr => ?_
    have hkr : kr = IOReturn.success := hkr
    rw [if_neg (not_not_intro hkr)]
    exact hsend
  · exact hsend

/-- One step of a driver function, whose failure would end it. -/
theorem driverSends_bind {p q : Usb KUSB488BLoader.Result}
    {fail : KUSB488BLoader.Result → Usb KUSB488BLoader.Result} {ws vs : List ControlWrite}
    (hp : DriverSends p ws) (hq : DriverSends q vs) :
    DriverSends (p >>= fun kr => if kr ≠ .success then fail kr else q) (ws ++ vs) := by
  refine sends_bind hp fun kr hkr => ?_
  rw [if_neg (not_not_intro hkr)]
  exact hq

theorem toNat_address (base : UInt16) (off : Nat) :
    (base + UInt16.ofNat off).toNat = (base.toNat + off) % 2 ^ 16 := by
  rw [UInt16.toNat_add, UInt16.toNat_ofNat', Nat.add_mod_mod]

theorem chunkLength_eq (data : Bytes) (off : Nat) :
    KUSB488BLoader.chunkLength data.length off = ((data.drop off).take 0x1000).length := by
  rw [List.length_take, List.length_drop]
  unfold KUSB488BLoader.chunkLength KUSB488BLoader.chunkSize
  split <;> omega

theorem take_chunkLength (data : Bytes) (off : Nat) :
    (data.drop off).take (KUSB488BLoader.chunkLength data.length off) =
      (data.drop off).take 0x1000 := by
  rw [chunkLength_eq, List.length_take, ← List.take_eq_take_min]

theorem sends_downloadChunked (hl : Ready l) (request : UInt8) (baseAddr : UInt16)
    (blob : KUSBFirmwareBlob) :
    DriverSends (l.downloadChunked request baseAddr blob)
      (memoryWrites request.toNat baseAddr.toNat blob.data) := by
  unfold KUSB488BLoader.downloadChunked memoryWrites
  rw [← blob.length_eq]
  refine sends_pieces (by decide) _ (fun off hoff => ?_) fun off ws hoff hrest => ?_
  · rw [KUSB488BLoader.chunkedLoop, dif_neg (Nat.not_lt.mpr hoff)]
    exact sends_pure rfl
  · have hwrite := sends_vendorWrite hl request (baseAddr + UInt16.ofNat off) 0
      (List.length_take_le 0x1000 (blob.data.drop off))
    rw [toNat_address] at hwrite
    rw [KUSB488BLoader.chunkedLoop, dif_pos hoff]
    dsimp only
    rw [take_chunkLength, chunkLength_eq]
    exact driverSends_bind hwrite hrest

theorem ite_decide_le {α : Type} (a b : Nat) (x y : α) :
    (if decide (a ≤ b) then x else y) = if b < a then y else x := by
  by_cases h : a ≤ b
  · simp [h, Nat.not_lt.mpr h]
  · simp [h, Nat.not_le.mp h]

theorem sends_downloadBitstream (hl : Ready l) (blob : KUSBFirmwareBlob) :
    DriverSends (l.downloadBitstream blob) (bitstreamWrites blob.data) := by
  have hbegin := sends_vendorWrite hl KUSB488BLoader.reqFpga 0 0
    (show ([] : Bytes).length ≤ 0x1000 by decide)
  unfold KUSB488BLoader.downloadBitstream bitstreamWrites
  refine driverSends_bind hbegin ?_
  rw [← blob.length_eq]
  refine sends_pieces (by decide) _ (fun off hoff => ?_) fun off ws hoff hrest => ?_
  · rw [KUSB488BLoader.bitstreamLoop, dif_neg (Nat.not_lt.mpr hoff)]
    exact sends_pure rfl
  · have hlast : (decide ¬ KUSB488BLoader.chunkSize < blob.data.length - off) =
        decide (blob.data.length ≤ off + ((blob.data.drop off).take 0x1000).length) := by
      rw [← chunkLength_eq]
      unfold KUSB488BLoader.chunkLength
      refine decide_eq_decide.mpr ?_
      split <;> omega
    have hwrite := sends_vendorWrite hl KUSB488BLoader.reqFpga 1
      (if decide (blob.data.length ≤ off + ((blob.data.drop off).take 0x1000).length) then 1 else 0)
      (List.length_take_le 0x1000 (blob.data.drop off))
    rw [ite_decide_le, apply_ite UInt16.toNat] at hwrite
    rw [KUSB488BLoader.bitstreamLoop, dif_pos hoff]
    dsimp only
    rw [hlast, ite_decide_le, take_chunkLength, chunkLength_eq]
    exact driverSends_bind hwrite hrest

theorem sends_downloadFirmware (hl : Ready l) (images : KUSB488BLoader.Images)
    {bcdDevice : UInt16} (hbcd : KUSB488BLoader.legacyBcdDevice ≤ bcdDevice) :
    DriverSends (l.downloadFirmware (some images) bcdDevice)
      (firmwareWrites images.fpgaBitstream.data images.extRamBlob.data
        images.mainFirmware.data) := by
  unfold KUSB488BLoader.downloadFirmware firmwareWrites
  dsimp only
  rw [if_neg (UInt16.not_lt.mpr hbcd)]
  refine driverSends_bind (sends_downloadBitstream hl _) ?_
  refine driverSends_bind (sends_downloadChunked hl _ _ _) ?_
  refine driverSends_bind (sends_vendorWrite hl _ _ _ (by decide)) ?_
  refine driverSends_bind (sends_downloadChunked hl _ _ _) ?_
  rw [← List.append_nil [cpucsWrite false]]
  exact driverSends_bind (sends_vendorWrite hl _ _ _ (by decide)) (sends_pure rfl)

/-- An adapter that needs its EEPROM rewritten is left alone. -/
theorem sends_downloadFirmware_legacy (images : KUSB488BLoader.Images) {bcdDevice : UInt16}
    (hbcd : bcdDevice < KUSB488BLoader.legacyBcdDevice) :
    Sends InFull controlWrite (l.downloadFirmware (some images) bcdDevice) []
      (· = .unsupported) := by
  unfold KUSB488BLoader.downloadFirmware
  dsimp only
  rw [if_pos hbcd]
  exact sends_pure rfl

end Driver

/-! ## The script -/

section Script

open KusbFwDownload (Script Raised)

variable {bcdDevice : Nat}

/-- The script's program sends `ws` and is not ended by an exception. -/
abbrev ScriptSends (bcdDevice : Nat) (x : Script Unit) (ws : List ControlWrite) : Prop :=
  Sends (ScriptInFull bcdDevice) scriptWrite x.run ws fun r => ∃ a, r = .ok a ∧ True

theorem sends_ask_bind {i : KusbFwDownload.Request} {f : i.Reply → Script Unit}
    {P : i.Reply → Prop} {Q : Except Raised Unit → Prop} {ws : List ControlWrite}
    (hreply : ∃ r, ScriptInFull bcdDevice ⟨i, r⟩)
    (hP : ∀ r, ScriptInFull bcdDevice ⟨i, r⟩ → P r)
    (hf : ∀ r, P r → Sends (ScriptInFull bcdDevice) scriptWrite (f r).run ws Q) :
    Sends (ScriptInFull bcdDevice) scriptWrite (KusbFwDownload.ask i >>= f).run
      ((scriptWrite i).toList ++ ws) Q := by
  refine sends_exceptT_bind (P := P) ?_ hf
  have hcall : Sends (ScriptInFull bcdDevice) scriptWrite (Program.call i) _ P :=
    sends_call hreply hP
  unfold KusbFwDownload.ask
  rw [ExceptT.run_lift, map_eq_pure_bind, ← List.append_nil (scriptWrite i).toList]
  exact sends_bind hcall fun r hr => sends_pure ⟨r, rfl, hr⟩

/-- A request that is no control write. -/
theorem sends_other_bind {i : KusbFwDownload.Request} {f : i.Reply → Script Unit}
    {P : i.Reply → Prop} {Q : Except Raised Unit → Prop} {ws : List ControlWrite}
    (hi : scriptWrite i = none) (hreply : ∃ r, ScriptInFull bcdDevice ⟨i, r⟩)
    (hP : ∀ r, ScriptInFull bcdDevice ⟨i, r⟩ → P r)
    (hf : ∀ r, P r → Sends (ScriptInFull bcdDevice) scriptWrite (f r).run ws Q) :
    Sends (ScriptInFull bcdDevice) scriptWrite (KusbFwDownload.ask i >>= f).run ws Q := by
  have hsends := sends_ask_bind hreply hP hf
  rwa [hi] at hsends

theorem sends_script_vendorWrite (request wValue wIndex : Nat) (data : Bytes) :
    ScriptSends bcdDevice (KusbFwDownload.vendorWrite request wValue wIndex data)
      [⟨request, wValue, wIndex, data⟩] := by
  unfold KusbFwDownload.vendorWrite
  rw [← List.append_nil [_]]
  refine sends_ask_bind (i := .ctrlTransfer 0x40 request wValue wIndex data)
    (P := (· = some data.length)) ⟨some data.length, rfl⟩ (fun _ h => h) fun n hn => ?_
  subst hn
  dsimp only
  rw [if_neg (not_not_intro rfl)]
  exact sends_pure ⟨(), rfl, trivial⟩

/-- One function of the script behind another. -/
theorem scriptSends_bind {x y : Script Unit} {ws vs : List ControlWrite}
    {Q : Except Raised Unit → Prop} (hx : ScriptSends bcdDevice x ws)
    (hy : Sends (ScriptInFull bcdDevice) scriptWrite y.run vs Q) :
    Sends (ScriptInFull bcdDevice) scriptWrite (x >>= fun _ => y).run (ws ++ vs) Q :=
  sends_exceptT_bind hx fun _ _ => hy

theorem sends_script_downloadChunked (request baseAddr : Nat) (data : Bytes) :
    ScriptSends bcdDevice (KusbFwDownload.downloadChunked request baseAddr data)
      (memoryWrites request baseAddr data) := by
  unfold KusbFwDownload.downloadChunked memoryWrites
  refine sends_pieces (by decide)
    (fun off => (KusbFwDownload.chunkedLoop request baseAddr data off).run)
    (fun off hoff => ?_) fun off ws hoff hrest => ?_
  · rw [KusbFwDownload.chunkedLoop, dif_neg (Nat.not_lt.mpr hoff)]
    exact sends_pure ⟨(), rfl, trivial⟩
  · have hmask : (baseAddr + off) &&& 0xFFFF = (baseAddr + off) % 2 ^ 16 :=
      Nat.and_two_pow_sub_one_eq_mod _ 16
    dsimp only at hrest ⊢
    rw [KusbFwDownload.chunkedLoop, dif_pos hoff]
    dsimp only
    rw [hmask]
    exact scriptSends_bind (sends_script_vendorWrite _ _ _ _) hrest

theorem sends_script_downloadBitstream (data : Bytes) :
    ScriptSends bcdDevice (KusbFwDownload.downloadBitstream data) (bitstreamWrites data) := by
  unfold KusbFwDownload.downloadBitstream bitstreamWrites
  refine scriptSends_bind (sends_script_vendorWrite KusbFwDownload.reqFpga 0 0 []) ?_
  refine sends_pieces (by decide) (fun off => (KusbFwDownload.bitstreamLoop data off).run)
    (fun off hoff => ?_) fun off ws hoff hrest => ?_
  · rw [KusbFwDownload.bitstreamLoop, dif_neg (Nat.not_lt.mpr hoff)]
    exact sends_pure ⟨(), rfl, trivial⟩
  · dsimp only at hrest ⊢
    rw [KusbFwDownload.bitstreamLoop, dif_pos hoff]
    dsimp only
    rw [← ite_decide_le]
    exact scriptSends_bind (sends_script_vendorWrite _ _ _ _) hrest

theorem sends_awaitReenumeration (n : Nat) :
    Sends (ScriptInFull bcdDevice) scriptWrite (KusbFwDownload.awaitReenumeration n).run []
      fun _ => True := by
  induction n with
  | zero => exact sends_pure trivial
  | succ n ih =>
      unfold KusbFwDownload.awaitReenumeration
      refine sends_other_bind (i := .find KusbFwDownload.pid488B) (P := fun _ => True) rfl
        ⟨some bcdDevice, fun _ => rfl⟩ (fun _ _ => trivial) fun r _ => ?_
      split
      · exact sends_pure trivial
      · exact ih

/-- The header holds the images. -/
structure Holds (text : Text) (fpga extram mainFw : Bytes) : Prop where
  fpga : KusbFwDownload.parseArray "FpgaBitstream" text = some fpga
  extram : KusbFwDownload.parseArray "ExtRamBlob" text = some extram
  mainFw : KusbFwDownload.parseArray "MainFirmware" text = some mainFw

/-- The header that the extraction writes. -/
theorem holds_header (rbf extram mainFw : Bytes) :
    Holds (ExtractKusbFirmware.header rbf extram mainFw) rbf extram mainFw :=
  ⟨FirmwareHeader.parseArray_fpgaBitstream rbf extram mainFw,
    FirmwareHeader.parseArray_extRamBlob rbf extram mainFw,
    FirmwareHeader.parseArray_mainFirmware rbf extram mainFw⟩

theorem sends_main (bcdDevice : Nat) {text : Text} {fpga extram mainFw : Bytes}
    (h : Holds text fpga extram mainFw) :
    Sends (ScriptInFull bcdDevice) scriptWrite (KusbFwDownload.main (some text)).run
      (if bcdDevice < KusbFwDownload.legacyBcdDevice then [] else firmwareWrites fpga extram mainFw)
      fun _ => True := by
  unfold KusbFwDownload.main KusbFwDownload.parseOrExit
  simp only [h.fpga, h.extram, h.mainFw, pure_bind]
  refine sends_other_bind (i := .find KusbFwDownload.pidLoader) (P := (· = some bcdDevice)) rfl
    ⟨some bcdDevice, fun _ => rfl⟩ (fun _ h => h rfl) fun r hr => ?_
  subst hr
  dsimp only
  by_cases hbcd : bcdDevice < KusbFwDownload.legacyBcdDevice
  · rw [if_pos hbcd, if_pos hbcd]
    exact sends_pure trivial
  · rw [if_neg hbcd, if_neg hbcd]
    refine sends_other_bind (i := .setConfiguration) (P := (· = some ())) rfl ⟨some (), rfl⟩
      (fun _ h => h) fun r hr => ?_
    subst hr
    unfold firmwareWrites
    dsimp only
    refine scriptSends_bind (sends_script_downloadBitstream _) ?_
    refine scriptSends_bind (sends_script_downloadChunked _ _ _) ?_
    refine scriptSends_bind (sends_script_vendorWrite _ _ _ _) ?_
    refine scriptSends_bind (sends_script_downloadChunked _ _ _) ?_
    rw [← List.append_nil [cpucsWrite false]]
    exact scriptSends_bind (sends_script_vendorWrite _ _ _ _) (sends_awaitReenumeration 50)

end Script

end FirmwareDownload

end DarwinGpib
