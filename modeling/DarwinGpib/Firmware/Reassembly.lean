import DarwinGpib.Firmware.Download

/-!
# What the download puts into the adapter

The control writes of a firmware download, seen as the bitstream that the FPGA gets and as bytes
stored at addresses. A byte stored at `CPUCS` holds the 8051 in reset or lets it run.
-/

namespace DarwinGpib

open Interaction Pieces

namespace FirmwareDownload

/-! ## The memory of the adapter -/

/-- The bytes of a write with their addresses. -/
def cells (w : ControlWrite) : List (Nat × UInt8) :=
  w.payload.mapIdx fun i b => (w.wValue + i, b)

def writesOf (request : Nat) (ws : List ControlWrite) : List ControlWrite :=
  ws.filter fun w => w.request = request

/-- The bytes that the writes of a request store, in order. -/
def stored (request : Nat) (ws : List ControlWrite) : List (Nat × UInt8) :=
  (writesOf request ws).flatMap cells

/-- An image with its addresses. -/
def imageAt (base : Nat) (data : Bytes) : List (Nat × UInt8) :=
  data.mapIdx fun i b => (base + i, b)

/-- Bit 0 of `CPUCS` after a byte is stored. -/
def holdAfter (h : Bool) (c : Nat × UInt8) : Bool := if c.1 = 0xE600 then c.2 &&& 1 = 1 else h

def held (cs : List (Nat × UInt8)) : Bool := cs.foldl holdAfter false

/-- From the first byte stored in RAM until the last, the 8051 is held in reset. -/
def HeldThroughout (ws : List ControlWrite) : Prop :=
  ∀ pre post, stored 0xA0 ws = pre ++ post → pre ≠ [] → post ≠ [] → held pre = true

/-- The writes put the images into the adapter. -/
structure Reassembles (fpga extram main : Bytes) (ws : List ControlWrite) : Prop where
  /-- The bitstream comes first, and external RAM before RAM. -/
  order : ws = writesOf 0xA4 ws ++ writesOf 0xA3 ws ++ writesOf 0xA0 ws
  payloads : ∀ w ∈ ws, w.payload.length ≤ 0x1000
  bitstream : (writesOf 0xA4 ws).flatMap ControlWrite.payload = fpga
  flagged : ∃ init last, writesOf 0xA4 ws = init ++ [last] ∧ last.wIndex = 1 ∧
    ∀ w ∈ init, w.wIndex = 0
  extRam : stored 0xA3 ws = imageAt 0x4000 extram
  ram : stored 0xA0 ws = [(0xE600, 1)] ++ imageAt 0 main ++ [(0xE600, 0)]

/-! ## The writes of one image -/

section Image

variable {request request' base : Nat} {data : Bytes}

theorem writesOf_append (ws vs : List ControlWrite) :
    writesOf request (ws ++ vs) = writesOf request ws ++ writesOf request vs :=
  List.filter_append ws vs

theorem writesOf_of_forall {ws : List ControlWrite} (h : ∀ w ∈ ws, w.request = request) :
    writesOf request ws = ws :=
  List.filter_eq_self.mpr fun w hw => decide_eq_true (h w hw)

theorem writesOf_eq_nil {ws : List ControlWrite} (h : ∀ w ∈ ws, w.request ≠ request) :
    writesOf request ws = [] :=
  List.filter_eq_nil_iff.mpr fun w hw => by simpa using h w hw

theorem request_memoryWrites : ∀ w ∈ memoryWrites request base data, w.request = request := by
  intro w hw
  obtain ⟨p, -, rfl⟩ := List.mem_map.mp hw
  rfl

theorem request_bitstreamWrites : ∀ w ∈ bitstreamWrites data, w.request = 0xA4 := by
  intro w hw
  rcases List.mem_cons.mp hw with rfl | hw
  · rfl
  · obtain ⟨p, -, rfl⟩ := List.mem_map.mp hw
    rfl

theorem writesOf_memoryWrites :
    writesOf request (memoryWrites request' base data) =
      if request' = request then memoryWrites request' base data else [] := by
  split
  · rename_i heq
    exact writesOf_of_forall (heq ▸ request_memoryWrites)
  · rename_i hne
    exact writesOf_eq_nil fun w hw heq => hne ((request_memoryWrites w hw).symm.trans heq)

theorem writesOf_bitstreamWrites :
    writesOf request (bitstreamWrites data) =
      if 0xA4 = request then bitstreamWrites data else [] := by
  split
  · rename_i heq
    exact writesOf_of_forall (heq ▸ request_bitstreamWrites)
  · rename_i hne
    exact writesOf_eq_nil fun w hw heq => hne ((request_bitstreamWrites w hw).symm.trans heq)

theorem writesOf_cpucsWrite (hold : Bool) :
    writesOf request [cpucsWrite hold] = if 0xA0 = request then [cpucsWrite hold] else [] := by
  split
  · rename_i heq
    exact writesOf_of_forall (heq ▸ List.forall_mem_singleton.mpr rfl)
  · rename_i hne
    exact writesOf_eq_nil (List.forall_mem_singleton.mpr hne)

/-- The writes of a download by their request. -/
theorem writesOf_firmwareWrites (fpga extram main : Bytes) :
    writesOf request (firmwareWrites fpga extram main) =
      (if 0xA4 = request then bitstreamWrites fpga else []) ++
      (if 0xA3 = request then memoryWrites 0xA3 0x4000 extram else []) ++
      (if 0xA0 = request then [cpucsWrite true] ++ memoryWrites 0xA0 0 main ++ [cpucsWrite false]
        else []) := by
  unfold firmwareWrites
  simp only [writesOf_append, writesOf_memoryWrites, writesOf_bitstreamWrites, writesOf_cpucsWrite]
  by_cases hram : 0xA0 = request
  · simp [if_pos hram]
  · simp [if_neg hram]

theorem flatMap_cells_memoryWrites (hfits : base + data.length ≤ 2 ^ 16) :
    (memoryWrites request base data).flatMap cells = imageAt base data := by
  have hcell : ∀ p ∈ pieces 0x1000 0 data, cells ⟨request, (base + p.1) % 2 ^ 16, 0, p.2⟩ =
      (p.2.mapIdx fun i b => (p.1 + i, b)).map fun c => (base + c.1, c.2) := by
    intro p hp
    have hlt := fst_lt_of_mem_pieces (by decide) hp
    have haddress : (base + p.1) % 2 ^ 16 = base + p.1 := Nat.mod_eq_of_lt (by omega)
    simp only [cells, haddress, List.mapIdx_eq_zipIdx_map, List.map_map, Function.comp_def,
      Nat.add_assoc]
  unfold memoryWrites imageAt
  rw [List.flatMap_map, List.flatMap_congr hcell, ← List.map_flatMap, placed_pieces (by decide)]
  simp only [List.mapIdx_eq_zipIdx_map, List.map_map, Function.comp_def, Nat.zero_add]

theorem flatMap_payload_bitstreamWrites :
    (bitstreamWrites data).flatMap ControlWrite.payload = data := by
  unfold bitstreamWrites
  rw [List.flatMap_cons, List.flatMap_map]
  exact flatMap_pieces (by decide) 0 data

/-- The chunks carry their flag on the last one only. -/
theorem flagged_bitstreamWrites (hdata : data ≠ []) :
    ∃ init last, bitstreamWrites data = init ++ [last] ∧ last.wIndex = 1 ∧
      ∀ w ∈ init, w.wIndex = 0 := by
  obtain ⟨init, last, heq, hlast, hinit⟩ := pieces_eq_concat (n := 0x1000) (by decide) 0 hdata
  rw [Nat.zero_add] at hlast hinit
  unfold bitstreamWrites
  rw [heq, List.map_append, List.map_singleton, ← List.cons_append]
  refine ⟨_, _, rfl, if_neg (by omega), List.forall_mem_cons.mpr ⟨rfl, ?_⟩⟩
  intro w hw
  obtain ⟨p, hp, rfl⟩ := List.mem_map.mp hw
  exact if_pos (hinit p hp)

theorem length_payload_memoryWrites :
    ∀ w ∈ memoryWrites request base data, w.payload.length ≤ 0x1000 := by
  intro w hw
  obtain ⟨p, hp, rfl⟩ := List.mem_map.mp hw
  exact length_le_of_mem_pieces (by decide) hp

theorem length_payload_bitstreamWrites :
    ∀ w ∈ bitstreamWrites data, w.payload.length ≤ 0x1000 := by
  intro w hw
  rcases List.mem_cons.mp hw with rfl | hw
  · exact Nat.zero_le _
  · obtain ⟨p, hp, rfl⟩ := List.mem_map.mp hw
    exact length_le_of_mem_pieces (by decide) hp

end Image

/-! ## The whole download -/

section Download

variable {fpga extram main : Bytes} {ws : List ControlWrite}

theorem reassembles_firmwareWrites (hfpga : fpga ≠ []) (hextram : 0x4000 + extram.length ≤ 2 ^ 16)
    (hmain : main.length ≤ 2 ^ 16) :
    Reassembles fpga extram main (firmwareWrites fpga extram main) := by
  have hfpgaWrites : writesOf 0xA4 (firmwareWrites fpga extram main) = bitstreamWrites fpga := by
    simp [writesOf_firmwareWrites]
  have hextramWrites : writesOf 0xA3 (firmwareWrites fpga extram main) =
      memoryWrites 0xA3 0x4000 extram := by
    simp [writesOf_firmwareWrites]
  have hramWrites : writesOf 0xA0 (firmwareWrites fpga extram main) =
      [cpucsWrite true] ++ memoryWrites 0xA0 0 main ++ [cpucsWrite false] := by
    simp [writesOf_firmwareWrites]
  constructor
  · rw [hfpgaWrites, hextramWrites, hramWrites]
    simp only [firmwareWrites, List.append_assoc]
  · unfold firmwareWrites
    simp only [List.forall_mem_append, List.forall_mem_singleton]
    exact ⟨length_payload_bitstreamWrites, length_payload_memoryWrites, by decide,
      length_payload_memoryWrites, by decide⟩
  · rw [hfpgaWrites, flatMap_payload_bitstreamWrites]
  · rw [hfpgaWrites]
    exact flagged_bitstreamWrites hfpga
  · unfold stored
    rw [hextramWrites, flatMap_cells_memoryWrites hextram]
  · unfold stored
    rw [hramWrites, List.flatMap_append, List.flatMap_append,
      flatMap_cells_memoryWrites (by omega)]
    rfl

theorem foldl_holdAfter {m : List (Nat × UInt8)} (hm : ∀ c ∈ m, c.1 = 0xE600 → c.2 &&& 1 = 1) :
    m.foldl holdAfter true = true := by
  induction m with
  | nil => rfl
  | cons c m ih =>
      obtain ⟨hc, hm⟩ := List.forall_mem_cons.mp hm
      have hstep : holdAfter true c = true := by
        unfold holdAfter
        split
        · rename_i haddress
          exact decide_eq_true (hc haddress)
        · rfl
      rw [List.foldl_cons, hstep]
      exact ih hm

/-- A main image that reaches `CPUCS` must keep the 8051 in reset there. -/
theorem Reassembles.heldThroughout_iff (h : Reassembles fpga extram main ws) :
    HeldThroughout ws ↔ ∀ b ∈ main[0xE600]?, b &&& 1 = 1 := by
  unfold HeldThroughout
  rw [h.ram]
  constructor
  · intro hheld b hb
    have hcell : (imageAt 0 main)[0xE600]? = some (0xE600, b) := by
      simp [imageAt, show main[0xE600]? = some b from hb]
    obtain ⟨hlt, hget⟩ := List.getElem?_eq_some_iff.mp hcell
    have hcut : imageAt 0 main =
        (imageAt 0 main).take 0xE600 ++ (0xE600, b) :: (imageAt 0 main).drop 0xE601 := by
      rw [← hget, ← List.drop_eq_getElem_cons hlt, List.take_append_drop]
    have hsplit : [(0xE600, 1)] ++ imageAt 0 main ++ [(0xE600, 0)] =
        ((0xE600, 1) :: (imageAt 0 main).take 0xE600 ++ [(0xE600, b)]) ++
          ((imageAt 0 main).drop 0xE601 ++ [(0xE600, 0)]) := by
      conv_lhs => rw [hcut]
      simp only [List.cons_append, List.append_assoc, List.nil_append]
    have hlast := hheld _ _ hsplit (List.cons_ne_nil _ _) (by simp)
    rw [held, List.foldl_append] at hlast
    simpa [holdAfter] using hlast
  · intro hkeeps pre post heq hpre hpost
    obtain ⟨c, m, rfl⟩ := List.exists_cons_of_ne_nil hpre
    rw [List.append_assoc, List.singleton_append, List.cons_append] at heq
    obtain ⟨rfl, hrest⟩ := List.cons.inj heq
    have hm : m <+: imageAt 0 main := by
      rcases List.prefix_concat_iff.mp ⟨post, hrest.symm⟩ with rfl | hm
      · exact absurd (List.self_eq_append_right.mp hrest) hpost
      · exact hm
    have hkept : ∀ c ∈ m, c.1 = 0xE600 → c.2 &&& 1 = 1 := by
      intro c hc haddress
      obtain ⟨i, hi, rfl⟩ := List.mem_mapIdx.mp (hm.subset hc)
      rw [Nat.zero_add] at haddress
      exact hkeeps _ (haddress ▸ List.getElem?_eq_getElem hi)
    exact foldl_holdAfter hkept

end Download

/-! ## Both downloaders -/

section Both

variable {l : KUSB488BLoader} {images : KUSB488BLoader.Images} {text : Text}

/-- The driver and the script, which has the images from the header, send the same writes. From
`bcdDevice` 4 on these put the images into the adapter, with the 8051 held in reset during the main
download unless the main image has a byte for `CPUCS` that lets it run. -/
theorem downloads_agree (hl : Ready l) (bcdDevice : UInt16)
    (htext : Holds text images.fpgaBitstream.data images.extRamBlob.data images.mainFirmware.data)
    (hfpga : images.fpgaBitstream.data ≠ [])
    (hextram : 0x4000 + images.extRamBlob.data.length ≤ 2 ^ 16)
    (hmain : images.mainFirmware.data.length ≤ 2 ^ 16) :
    ∃ ws, Sends InFull controlWrite (l.downloadFirmware (some images) bcdDevice) ws
        (fun rc => rc = if bcdDevice < 4 then .unsupported else .success) ∧
      Sends (ScriptInFull bcdDevice.toNat) scriptWrite (KusbFwDownload.main (some text)).run ws
        (fun _ => True) ∧
      (bcdDevice < 4 → ws = []) ∧
      (4 ≤ bcdDevice →
        Reassembles images.fpgaBitstream.data images.extRamBlob.data images.mainFirmware.data ws ∧
        (HeldThroughout ws ↔ ∀ b ∈ images.mainFirmware.data[0xE600]?, b &&& 1 = 1)) := by
  have hscript := sends_main bcdDevice.toNat htext
  by_cases hrefused : bcdDevice < 4
  · have hlegacy : bcdDevice.toNat < KusbFwDownload.legacyBcdDevice :=
      UInt16.lt_iff_toNat_lt.mp hrefused
    rw [if_pos hlegacy] at hscript
    refine ⟨[], ?_, hscript, fun _ => rfl, fun hnew => absurd hrefused (UInt16.not_lt.mpr hnew)⟩
    rw [if_pos hrefused]
    exact sends_downloadFirmware_legacy images hrefused
  · have hlegacy : ¬ bcdDevice.toNat < KusbFwDownload.legacyBcdDevice :=
      UInt16.lt_iff_toNat_lt.not.mp hrefused
    have hreassembles := reassembles_firmwareWrites hfpga hextram hmain
    rw [if_neg hlegacy] at hscript
    refine ⟨_, ?_, hscript, fun h => absurd h hrefused, fun _ =>
      ⟨hreassembles, hreassembles.heldThroughout_iff⟩⟩
    rw [if_neg hrefused]
    exact sends_downloadFirmware hl images (UInt16.not_lt.mp hrefused)

end Both

/-! ## Examples -/

/-- An image of the length that its array has. -/
def blobOf (data : Bytes) (h : data.length < 2 ^ 32) : KUSBFirmwareBlob where
  data := data
  length := UInt32.ofNat data.length
  length_eq := by
    rw [UInt32.toNat_ofNat', Nat.mod_eq_of_lt h]

def shortImages : KUSB488BLoader.Images where
  fpgaBitstream := blobOf [0x6A, 0xF7] (by decide)
  extRamBlob := blobOf [0x90] (by decide)
  mainFirmware := blobOf [0x02, 0x12, 0x34] (by decide)

theorem downloads_agree_shortImages :
    ∃ u l ws, Run (KUSB488BLoader.init true true) u (true, l) ∧
      DriverSends (l.downloadFirmware (some shortImages) 4) ws ∧
        stored 0xA3 ws = [(0x4000, 0x90)] := by
  have htext : Holds (ExtractKusbFirmware.header [0x6A, 0xF7] [0x90] [0x02, 0x12, 0x34])
      shortImages.fpgaBitstream.data shortImages.extRamBlob.data shortImages.mainFirmware.data :=
    holds_header _ _ _
  have hinit : Run (KUSB488BLoader.init true true)
      [⟨Usb.Request.create KUSB488BLoader.chunkSize, IOReturn.success⟩]
      (true, ⟨true, true, true⟩) := .ask (.pure _)
  obtain ⟨ws, hdriver, -, -, hnew⟩ :=
    downloads_agree (init_ready true true _ _ hinit rfl) 4 htext (by decide) (by decide) (by decide)
  exact ⟨_, _, ws, hinit, hdriver, (hnew (by decide)).1.extRam⟩

/-- A main image that goes beyond `CPUCS` with zeros. -/
def longImages : KUSB488BLoader.Images where
  fpgaBitstream := blobOf [0x6A] (by decide)
  extRamBlob := blobOf [] (by decide)
  mainFirmware := blobOf (List.replicate 0xE700 0) (by rw [List.length_replicate]; decide)

/-- The main image lets the 8051 run before it is complete. -/
theorem cpu_released_by_image :
    ∃ ws, DriverSends (KUSB488BLoader.downloadFirmware ⟨true, true, true⟩ (some longImages) 4)
        ws ∧ longImages.fpgaBitstream.data ≠ [] ∧
      0x4000 + longImages.extRamBlob.data.length ≤ 2 ^ 16 ∧
      longImages.mainFirmware.data.length ≤ 2 ^ 16 ∧ ¬ HeldThroughout ws := by
  have hmain : longImages.mainFirmware.data.length ≤ 2 ^ 16 := by
    change (List.replicate 0xE700 (0 : UInt8)).length ≤ 2 ^ 16
    rw [List.length_replicate]
    decide
  have hready : Ready ⟨true, true, true⟩ := ⟨rfl, rfl, rfl⟩
  have hreassembles : Reassembles longImages.fpgaBitstream.data longImages.extRamBlob.data
      longImages.mainFirmware.data _ :=
    reassembles_firmwareWrites (by decide) (by decide) hmain
  refine ⟨_, sends_downloadFirmware hready longImages (by decide), by decide, by decide, hmain, ?_⟩
  rw [hreassembles.heldThroughout_iff]
  intro hkeeps
  have hzero : longImages.mainFirmware.data[0xE600]? = some 0 := by
    change (List.replicate 0xE700 (0 : UInt8))[0xE600]? = some 0
    rw [List.getElem?_replicate, if_pos (by decide)]
  exact absurd (hkeeps 0 hzero) (by decide)

end FirmwareDownload

end DarwinGpib
