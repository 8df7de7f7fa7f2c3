import DarwinGpib.Firmware.Download

/-!
# Extracting an image

`read_blob` finds where an image begins by the section table and slices the file from there. The
slice is the image if the section of its first address goes on for its whole length.
-/

namespace DarwinGpib

namespace ExtractKusbFirmware

theorem bind_eq_ok_iff {ε α β : Type} {x : Except ε α} {f : α → Except ε β} {b : β} :
    x >>= f = .ok b ↔ ∃ a, x = .ok a ∧ f a = .ok b := by
  cases x <;> simp [bind, Except.bind]

/-! ## The section table -/

section Table

variable {secs : List Section} {s : Section} {va : Int}

/-- The place in the file of a virtual address of the section. -/
def Section.offset (s : Section) (va : Int) : Nat := s.ra + (va - s.base).toNat

/-- The first section that has the address. -/
def sectionOf (secs : List Section) (va : Int) : Option Section :=
  secs.find? fun s => s.Contains va

theorem vaToOff_eq_ok_iff {off : Nat} :
    vaToOff secs va = .ok off ↔ ∃ s, sectionOf secs va = some s ∧ off = s.offset va := by
  induction secs with
  | nil => simp [vaToOff, sectionOf]
  | cons s secs ih =>
      unfold sectionOf at ih ⊢
      rw [vaToOff, List.find?_cons]
      by_cases hs : s.Contains va
      · simp [hs, Section.offset, eq_comm]
      · simpa [hs] using ih

theorem contains_of_sectionOf (h : sectionOf secs va = some s) : s.Contains va := by
  unfold sectionOf at h
  simpa using List.find?_some h

theorem Section.Contains.offset_add (h : s.Contains va) (i : Nat) :
    s.offset (va + i) = s.offset va + i := by
  have hbase := h.1
  unfold Section.offset
  omega

end Table

/-! ## Blobs -/

section Blob

variable {data blob : Bytes} {secs : List Section} {dataVa lenVa : Int} {name : String}

/-- The length that the file has at `lenVa`. -/
def storedLength (data : Bytes) (secs : List Section) (lenVa : Int) : Except Exit Nat := do
  unpackFrom 4 data (← vaToOff secs lenVa)

theorem readBlob_eq_ok_iff :
    readBlob data secs dataVa lenVa name = .ok blob ↔
      ∃ length off, storedLength data secs lenVa = .ok length ∧
        (0 < length ∧ length ≤ lenVa - dataVa) ∧ vaToOff secs dataVa = .ok off ∧
        slice data off (off + length) = blob := by
  have hblob : readBlob data secs dataVa lenVa name =
      storedLength data secs lenVa >>= fun length =>
        if ¬ (0 < length ∧ length ≤ lenVa - dataVa) then
          .error (.implausibleLength name length (lenVa - dataVa))
        else vaToOff secs dataVa >>= fun off => .ok (slice data off (off + length)) := by
    unfold readBlob storedLength
    rw [bind_assoc]
    rfl
  rw [hblob, bind_eq_ok_iff]
  refine exists_congr fun length => ?_
  by_cases hfits : 0 < length ∧ length ≤ lenVa - dataVa
  · rw [if_neg (not_not_intro hfits), bind_eq_ok_iff]
    simp [hfits]
  · simp [hfits]

theorem getElem?_slice {lo length i : Nat} (hi : i < length) :
    (slice data lo (lo + length))[i]? = data[lo + i]? := by
  unfold slice
  rw [Nat.add_sub_cancel_left, List.getElem?_take_of_lt hi, List.getElem?_drop]

theorem length_slice_eq_iff {lo length : Nat} (hpos : 0 < length) :
    (slice data lo (lo + length)).length = length ↔ lo + length ≤ data.length := by
  unfold slice
  rw [Nat.add_sub_cancel_left, List.length_take, List.length_drop]
  omega

/-- The blob has the length that the file has for it, and the bytes at its addresses. -/
def Faithful (data : Bytes) (secs : List Section) (dataVa lenVa : Int) (blob : Bytes) : Prop :=
  ∃ length, storedLength data secs lenVa = .ok length ∧ blob.length = length ∧
    ∀ i < length, ∃ off b, vaToOff secs (dataVa + i) = .ok off ∧ data[off]? = some b ∧
      blob[i]? = some b

/-- The file goes on for the length of the blob from the place of its first address; and each of
its addresses is in the section of the first, or in one that has the same byte for it. -/
def Covered (data : Bytes) (secs : List Section) (dataVa lenVa : Int) : Prop :=
  ∃ length s, storedLength data secs lenVa = .ok length ∧ sectionOf secs dataVa = some s ∧
    s.offset dataVa + length ≤ data.length ∧
    ∀ i : Nat, i < length → ∃ t, sectionOf secs (dataVa + i) = some t ∧
      (t = s ∨ data[t.offset (dataVa + i)]? = data[s.offset (dataVa + i)]?)

/-- A blob that is read is the image if and only if the file covers it. -/
theorem readBlob_faithful_iff (h : readBlob data secs dataVa lenVa name = .ok blob) :
    Faithful data secs dataVa lenVa blob ↔ Covered data secs dataVa lenVa := by
  obtain ⟨length, off, hlength, ⟨hpos, -⟩, hoff, rfl⟩ := readBlob_eq_ok_iff.mp h
  obtain ⟨s, hs, rfl⟩ := vaToOff_eq_ok_iff.mp hoff
  have hplace (i : Nat) : s.offset (dataVa + i) = s.offset dataVa + i :=
    (contains_of_sectionOf hs).offset_add i
  constructor
  · rintro ⟨length', hlength', hlen, hbytes⟩
    obtain rfl : length = length' := Except.ok.inj (hlength.symm.trans hlength')
    refine ⟨length, s, hlength, hs, (length_slice_eq_iff hpos).mp hlen, fun i hi => ?_⟩
    obtain ⟨off, b, hva, hb, hblob⟩ := hbytes i hi
    obtain ⟨t, ht, rfl⟩ := vaToOff_eq_ok_iff.mp hva
    rw [getElem?_slice hi] at hblob
    exact ⟨t, ht, .inr (by rw [hplace, hb, hblob])⟩
  · rintro ⟨length', s', hlength', hs', hfits, hsections⟩
    obtain rfl : length = length' := Except.ok.inj (hlength.symm.trans hlength')
    obtain rfl : s = s' := Option.some.inj (hs.symm.trans hs')
    refine ⟨length, hlength, (length_slice_eq_iff hpos).mpr hfits, fun i hi => ?_⟩
    obtain ⟨b, hb⟩ : ∃ b, data[s.offset dataVa + i]? = some b :=
      ⟨_, List.getElem?_eq_getElem (by omega)⟩
    obtain ⟨t, ht, hsame⟩ := hsections i hi
    refine ⟨_, b, vaToOff_eq_ok_iff.mpr ⟨t, ht, rfl⟩, ?_, ?_⟩
    · rcases hsame with rfl | hsame
      · rw [hplace, hb]
      · rw [hsame, hplace, hb]
    · rw [getElem?_slice hi, hb]

end Blob

/-! ## The whole script -/

/-- The header that the script writes holds the bitstream it was given and the blobs it has read. -/
theorem main_holds {drv rbf : Bytes} {args : Args} {text : Text}
    (h : main drv rbf args = .ok text) :
    ∃ secs extram mainFw, loadPeSections drv = .ok secs ∧
      readBlob drv secs args.extramVa args.extramLenVa "ext-RAM blob" = .ok extram ∧
      readBlob drv secs args.mainVa args.mainLenVa "main firmware" = .ok mainFw ∧
      FirmwareDownload.Holds text rbf extram mainFw := by
  obtain ⟨secs, hsecs, h⟩ := bind_eq_ok_iff.mp h
  obtain ⟨extram, hextram, h⟩ := bind_eq_ok_iff.mp h
  obtain ⟨mainFw, hmainFw, h⟩ := bind_eq_ok_iff.mp h
  refine ⟨secs, extram, mainFw, hsecs, hextram, hmainFw, ?_⟩
  obtain rfl : header rbf extram mainFw = text := by
    dsimp only at h
    split at h
    · cases h
    · exact Except.ok.inj h
  exact FirmwareDownload.holds_header rbf extram mainFw

/-! ## A file that is whole, and one that ends early -/

def sectionHeader (va rsz ra : List UInt8) : Bytes :=
  List.replicate 12 0 ++ va ++ rsz ++ ra ++ List.replicate 16 0

/-- The length 4 of an image is in the first section, the image in the second, at the file's end. -/
def fileWith (rsz : UInt8) (image : Bytes) : Bytes :=
  List.replicate 0x3C 0 ++ [0x40, 0, 0, 0] ++ [0x50, 0x45, 0, 0] ++ [0, 0, 2, 0] ++
    List.replicate 12 0 ++ [32, 0, 0, 0] ++ List.replicate 32 0 ++
    sectionHeader [0, 0x20, 0, 0] [4, 0, 0, 0] [0xC8, 0, 0, 0] ++
    sectionHeader [0, 0x10, 0, 0] [rsz, 0, 0, 0] [0xCC, 0, 0, 0] ++ [4, 0, 0, 0] ++ image

def sectionsWith (rsz : Nat) : List Section := [⟨0x2000, 4, 0xC8⟩, ⟨0x1000, rsz, 0xCC⟩]

/-- A section of four bytes covers the image. -/
theorem readBlob_faithful_wholeFile :
    Faithful (fileWith 4 [0x02, 0x12, 0x34, 0x56]) (sectionsWith 4) 0x1000 0x2000
      [0x02, 0x12, 0x34, 0x56] := by
  have hread : readBlob (fileWith 4 [0x02, 0x12, 0x34, 0x56]) (sectionsWith 4) 0x1000 0x2000
      "main firmware" = .ok [0x02, 0x12, 0x34, 0x56] := by decide +kernel
  have hlength : storedLength (fileWith 4 [0x02, 0x12, 0x34, 0x56]) (sectionsWith 4) 0x2000 =
      .ok 4 := by decide +kernel
  refine (readBlob_faithful_iff hread).mpr
    ⟨4, ⟨0x1000, 4, 0xCC⟩, hlength, by decide, by decide +kernel, fun i hi => ?_⟩
  have hsection : ∀ i < 4, sectionOf (sectionsWith 4) (0x1000 + (i : Nat)) =
      some ⟨0x1000, 4, 0xCC⟩ := by decide
  exact ⟨_, hsection i hi, .inl rfl⟩

def shortFile : Bytes := fileWith 1 [0x02]

def shortSections : List Section := sectionsWith 1

theorem readBlob_shortFile :
    readBlob shortFile shortSections 0x1000 0x2000 "main firmware" = .ok [0x02] := by
  decide +kernel

/-- A blob of one byte, where the file says that there are four. -/
theorem short_blob_read :
    loadPeSections shortFile = .ok shortSections ∧
      readBlob shortFile shortSections 0x1000 0x2000 "main firmware" = .ok [0x02] ∧
      ¬ Faithful shortFile shortSections 0x1000 0x2000 [0x02] := by
  refine ⟨by decide +kernel, readBlob_shortFile, ?_⟩
  rintro ⟨length, hlength, hlen, -⟩
  have hfour : storedLength shortFile shortSections 0x2000 = .ok 4 := by decide +kernel
  rw [hfour] at hlength
  obtain rfl : 4 = length := Except.ok.inj hlength
  exact absurd hlen (by decide)

end ExtractKusbFirmware

end DarwinGpib
