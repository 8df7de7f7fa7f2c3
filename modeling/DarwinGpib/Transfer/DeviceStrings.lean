import DarwinGpib.Library.Utf16
import DarwinGpib.Model.DriverUtils

/-!
# Product strings

`copyDeviceString` writes each UTF-16 unit by itself. Its buffer is always large enough, and the
bytes are the UTF-8 encoding of the string unless it holds a pair of surrogates: each half of a
pair becomes three bytes, where UTF-8 has four bytes for both.
-/

namespace DarwinGpib

namespace DriverUtils

/-! ## The buffer -/

theorem foldlM_store {room : Nat} {buf bytes : List UInt8}
    (h : buf.length + bytes.length ≤ room) :
    bytes.foldlM (Usb.store room) buf = some (buf ++ bytes) := by
  induction bytes generalizing buf with
  | nil => simp
  | cons b bytes ih =>
      rw [List.length_cons] at h
      have hstore : Usb.store room buf b = some (buf ++ [b]) := by
        rw [Usb.store, if_pos (by omega)]
      have hrest : (buf ++ [b]).length + bytes.length ≤ room := by
        rw [List.length_append, List.length_singleton]
        omega
      rw [List.foldlM_cons, hstore, Option.bind_eq_bind, Option.bind_some, ih hrest,
        List.append_assoc, List.singleton_append]

theorem length_utf8OfUnit_le (ch : UInt16) : (utf8OfUnit ch).length ≤ 3 := by
  unfold utf8OfUnit
  split
  · simp
  · split <;> simp

theorem unitAt_eq (bString : List UInt8) (i : Nat) :
    unitAt bString i = (Utf16.units bString)[i]? :=
  (Utf16.getElem?_units bString i).symm

/-- Three bytes for a unit are enough. -/
theorem transcode_eq {bString utf8 : List UInt8} {room n i : Nat}
    (hread : i + n ≤ (Utf16.units bString).length) (hwrite : utf8.length + 3 * n ≤ room) :
    transcode bString room n i utf8 =
      some (utf8 ++ (((Utf16.units bString).drop i).take n).flatMap utf8OfUnit) := by
  induction n generalizing i utf8 with
  | zero => simp [transcode]
  | succ n ih =>
      have hi : i < (Utf16.units bString).length := by omega
      have hunit : unitAt bString i = some (Utf16.units bString)[i] := by
        rw [unitAt_eq, List.getElem?_eq_getElem hi]
      have hlen := length_utf8OfUnit_le (Utf16.units bString)[i]
      have hstore : (utf8OfUnit (Utf16.units bString)[i]).foldlM (Usb.store room) utf8 = some _ :=
        foldlM_store (by omega)
      have hrest : (utf8 ++ utf8OfUnit (Utf16.units bString)[i]).length + 3 * n ≤ room := by
        rw [List.length_append]
        omega
      simp only [transcode, hunit, hstore, Option.bind_eq_bind, Option.bind_some]
      rw [ih (by omega) hrest, List.drop_eq_getElem_cons hi, List.take_succ_cons,
        List.flatMap_cons, List.append_assoc]

theorem length_flatMap_utf8OfUnit_le (us : List UInt16) :
    (us.flatMap utf8OfUnit).length ≤ 3 * us.length := by
  induction us with
  | nil => simp
  | cons u us ih =>
      have hlen := length_utf8OfUnit_le u
      rw [List.flatMap_cons, List.length_append, List.length_cons]
      omega

/-- A descriptor has the units that `utf16Length` counts. -/
theorem utf16Length_eq (d : StringDescriptor) (h : 2 ≤ d.bLength.toNat) :
    utf16Length d.bLength = (Utf16.units d.bString).length := by
  have hlt := d.bLength.toNat_lt
  have hsub : (d.bLength.toNat : Int) - 2 = (d.bString.length : Int) := by
    rw [d.length_eq]
    omega
  have hdiv : Int.tdiv (d.bString.length : Int) 2 = (d.bString.length : Int) / 2 :=
    Int.tdiv_eq_ediv_of_nonneg (by omega)
  rw [Utf16.length_units, utf16Length, hsub, hdiv]
  omega

theorem utf8Size_eq (d : StringDescriptor) :
    utf8Size (Utf16.units d.bString).length = (Utf16.units d.bString).length * 4 + 1 := by
  have hlt := d.bLength.toNat_lt
  have hlen := d.length_eq
  rw [utf8Size, Utf16.length_units]
  omega

/-- What the string of a descriptor holds, if there is memory for it. -/
theorem copyDeviceString_eq (allocates : Nat → Bool) (d : StringDescriptor)
    (h : 2 ≤ d.bLength.toNat) (fallback : Option (List UInt8)) :
    copyDeviceString allocates (some d) fallback =
      some (if allocates (utf16Length d.bLength * 4 + 1) then
        some ((Utf16.units d.bString).flatMap utf8OfUnit) else none) := by
  have hle := length_flatMap_utf8OfUnit_le (Utf16.units d.bString)
  have hsize := utf8Size_eq d
  have hloop : transcode d.bString ((Utf16.units d.bString).length * 4 + 1)
      (Utf16.units d.bString).length 0 [] = some _ :=
    transcode_eq (by omega) (by rw [List.length_nil]; omega)
  rw [List.drop_zero, List.take_length, List.nil_append] at hloop
  have hterminator : Usb.store ((Utf16.units d.bString).length * 4 + 1)
      ((Utf16.units d.bString).flatMap utf8OfUnit) 0 = some _ := if_pos (by omega)
  cases hallocates : allocates ((Utf16.units d.bString).length * 4 + 1) with
  | false => simp [copyDeviceString, utf16Length_eq d h, hsize, hallocates]
  | true =>
      simp [copyDeviceString, utf16Length_eq d h, hsize, hallocates, hloop, hterminator]

/-! ## Code points -/

/-- A lead or continuation byte is the sum of its mark and the bits it carries. -/
theorem toUInt8_or {mark x : UInt16} {n : Nat} (hi i : Nat) (hmark : mark.toNat = hi * 2 ^ i)
    (hx : x.toNat = n) (hn : n < 2 ^ i) :
    (mark ||| x).toUInt8 = UInt8.ofNat (n + hi * 2 ^ i) := by
  apply UInt8.toNat_inj.mp
  rw [UInt16.toNat_toUInt8, UInt16.toNat_or, hmark, hx, Nat.or_comm, or_shiftLeft hi hn,
    UInt8.toNat_ofNat', Nat.mul_comm]

theorem and_63 (n : Nat) : n &&& 63 = n % 64 := Nat.and_two_pow_sub_one_eq_mod n 6

/-- A unit that is a code point becomes its UTF-8 encoding. -/
theorem utf8OfUnit_eq {ch : UInt16} {c : Char} (h : ch.toNat = c.val.toNat) :
    utf8OfUnit ch = String.utf8EncodeChar c := by
  rw [String.utf8EncodeChar]
  generalize c.val.toNat = v at h
  have hlt : v < 0x10000 := h ▸ ch.toNat_lt
  have hlast : ((0x80 : UInt16) ||| (ch &&& 0x3F)).toUInt8 = UInt8.ofNat (v % 64 + 0x80) :=
    toUInt8_or 2 6 rfl (by simp [h, and_63]) (Nat.mod_lt _ (by decide))
  by_cases hone : v < 0x80
  · have hch : ch < 0x80 := UInt16.lt_iff_toNat_lt.mpr (h ▸ hone)
    have hbyte : ch.toUInt8 = UInt8.ofNat v := UInt8.toNat_inj.mp (by simp [h])
    rw [utf8OfUnit, if_pos hch, if_pos (Nat.le_of_lt_succ hone), hbyte]
  have hch : ¬ ch < 0x80 := fun hch => hone (h ▸ UInt16.lt_iff_toNat_lt.mp hch)
  by_cases htwo : v < 0x800
  · have hch' : ch < 0x800 := UInt16.lt_iff_toNat_lt.mpr (h ▸ htwo)
    have hlead : ((0xC0 : UInt16) ||| (ch >>> 6)).toUInt8 = UInt8.ofNat (v / 64 % 32 + 0xC0) :=
      toUInt8_or 3 6 rfl (by simp [h, Nat.shiftRight_eq_div_pow]; omega) (by omega)
    rw [utf8OfUnit, if_neg hch, if_pos hch', if_neg (by omega), if_pos (by omega), hlead, hlast]
  · have hch' : ¬ ch < 0x800 := fun hch' => htwo (h ▸ UInt16.lt_iff_toNat_lt.mp hch')
    have hlead : ((0xE0 : UInt16) ||| (ch >>> 12)).toUInt8 = UInt8.ofNat (v / 4096 % 16 + 0xE0) :=
      toUInt8_or 7 5 rfl (by simp [h, Nat.shiftRight_eq_div_pow]; omega) (by omega)
    have hmiddle : ((0x80 : UInt16) ||| ((ch >>> 6) &&& 0x3F)).toUInt8 =
        UInt8.ofNat (v / 64 % 64 + 0x80) :=
      toUInt8_or 2 6 rfl (by simp [h, and_63, Nat.shiftRight_eq_div_pow])
        (Nat.mod_lt _ (by decide))
    rw [utf8OfUnit, if_neg hch, if_neg hch', if_neg (by omega), if_neg (by omega),
      if_pos (by omega), hlead, hmiddle, hlast]

/-! ## Strings -/

/-- What the loop makes of a string. -/
def transcoded (cs : List Char) : List UInt8 := (Utf16.encode cs).flatMap utf8OfUnit

def utf8 (cs : List Char) : List UInt8 := cs.flatMap String.utf8EncodeChar

theorem transcoded_cons (c : Char) (cs : List Char) :
    transcoded (c :: cs) = (Utf16.encodeChar c).flatMap utf8OfUnit ++ transcoded cs := by
  rw [transcoded, Utf16.encode, List.flatMap_cons, List.flatMap_append]
  rfl

theorem flatMap_encodeChar {c : Char} (h : c.toNat < 0x10000) :
    (Utf16.encodeChar c).flatMap utf8OfUnit = String.utf8EncodeChar c := by
  rw [Utf16.encodeChar, if_pos h, List.flatMap_singleton]
  exact utf8OfUnit_eq (Utf16.toNat_ofNat h)

theorem length_utf8OfUnit {ch : UInt16} (h : 0x800 ≤ ch.toNat) : (utf8OfUnit ch).length = 3 := by
  have hone : ¬ ch < 0x80 := fun hlt => by
    have hnat : ch.toNat < 0x80 := UInt16.lt_iff_toNat_lt.mp hlt
    omega
  have htwo : ¬ ch < 0x800 := fun hlt => Nat.not_lt.mpr h (UInt16.lt_iff_toNat_lt.mp hlt)
  rw [utf8OfUnit, if_neg hone, if_neg htwo]
  rfl

/-- Each half of a pair takes three bytes. -/
theorem length_flatMap_encodeChar {c : Char} (h : ¬ c.toNat < 0x10000) :
    ((Utf16.encodeChar c).flatMap utf8OfUnit).length = 6 := by
  have hvalid := Utf16.toNat_valid c
  have hfst := Utf16.toNat_ofNat
    (show 0xD800 + (c.toNat - 0x10000) / 0x400 < 0x10000 by omega)
  have hsnd := Utf16.toNat_ofNat
    (show 0xDC00 + (c.toNat - 0x10000) % 0x400 < 0x10000 by omega)
  rw [Utf16.encodeChar, if_neg h, List.flatMap_cons, List.flatMap_singleton, List.length_append,
    length_utf8OfUnit (by omega), length_utf8OfUnit (by omega)]

theorem length_utf8EncodeChar {c : Char} (h : ¬ c.toNat < 0x10000) :
    (String.utf8EncodeChar c).length = 4 := by
  have hval : ¬ c.val.toNat < 0x10000 := h
  rw [String.utf8EncodeChar]
  simp only [if_neg (show ¬ c.val.toNat ≤ 0x7f by omega),
    if_neg (show ¬ c.val.toNat ≤ 0x7ff by omega), if_neg (show ¬ c.val.toNat ≤ 0xffff by omega)]
  rfl

/-- Every pair costs two bytes too many. -/
theorem length_transcoded (cs : List Char) :
    (transcoded cs).length = (utf8 cs).length + 2 * cs.countP fun c => 0x10000 ≤ c.toNat := by
  induction cs with
  | nil => rfl
  | cons c cs ih =>
      have hutf8 : utf8 (c :: cs) = String.utf8EncodeChar c ++ utf8 cs := List.flatMap_cons
      rw [transcoded_cons, hutf8, List.length_append, List.length_append, ih, List.countP_cons]
      by_cases hc : c.toNat < 0x10000
      · rw [flatMap_encodeChar hc, if_neg (by simpa using hc)]
        omega
      · rw [length_flatMap_encodeChar hc, length_utf8EncodeChar hc, if_pos (by simpa using hc)]
        omega

/-- The bytes are the UTF-8 encoding of a string that needs no pairs, and of no other. -/
theorem transcoded_eq_iff (cs : List Char) :
    transcoded cs = utf8 cs ↔ ∀ c ∈ cs, c.toNat < 0x10000 := by
  constructor
  · intro h
    have hlen := congrArg List.length h
    rw [length_transcoded] at hlen
    have hcount : (cs.countP fun c => 0x10000 ≤ c.toNat) = 0 := by omega
    intro c hc
    simpa using List.countP_eq_zero.mp hcount c hc
  · intro h
    induction cs with
    | nil => rfl
    | cons c cs ih =>
        obtain ⟨hc, hcs⟩ := List.forall_mem_cons.mp h
        rw [transcoded_cons, flatMap_encodeChar hc, ih hcs]
        rfl

/-- A descriptor is transcoded in a buffer that is large enough, and to the UTF-8 encoding of its
string exactly when the string has no code point above 0xFFFF. -/
theorem copyDeviceString_utf8_iff (allocates : Nat → Bool) (d : StringDescriptor)
    (h : 2 ≤ d.bLength.toNat) (fallback : Option (List UInt8)) :
    ∃ bytes, copyDeviceString allocates (some d) fallback =
        some (if allocates (utf16Length d.bLength * 4 + 1) then some bytes else none) ∧
      bytes.length + 1 ≤ utf16Length d.bLength * 4 + 1 ∧
      ∀ cs, Utf16.decodeLE d.bString = some cs →
        (bytes = utf8 cs ↔ ∀ c ∈ cs, c.toNat < 0x10000) := by
  refine ⟨_, copyDeviceString_eq allocates d h fallback, ?_, ?_⟩
  · have hle := length_flatMap_utf8OfUnit_le (Utf16.units d.bString)
    rw [utf16Length_eq d h]
    omega
  · intro cs hcs
    rw [Utf16.decodeLE] at hcs
    split at hcs
    · rw [Utf16.eq_encode_of_decode hcs]
      exact transcoded_eq_iff cs
    · cases hcs

namespace Example

/-- The string "µ€". -/
def twoUnits : StringDescriptor := ⟨6, [0xb5, 0x00, 0xac, 0x20], rfl⟩

/-- One code point, U+1F600, in a pair of surrogates. -/
def onePair : StringDescriptor := ⟨6, [0x3d, 0xd8, 0x00, 0xde], rfl⟩

end Example

open Example in
/-- Two code points of one unit each come out as two and three bytes. -/
theorem copyDeviceString_utf8_twoUnits :
    ∃ bytes, copyDeviceString (fun _ => true) (some twoUnits) none = some (some bytes) ∧
      bytes = utf8 ['µ', '€'] := by
  obtain ⟨bytes, hrun, -, hiff⟩ :=
    copyDeviceString_utf8_iff (fun _ => true) twoUnits (by decide) none
  have hlow : ∀ c ∈ ['µ', '€'], c.toNat < 0x10000 := by
    simp only [List.forall_mem_cons]
    exact ⟨by decide, by decide, by simp⟩
  exact ⟨bytes, hrun, (hiff ['µ', '€'] (by decide)).mpr hlow⟩

open Example in
/-- A pair comes out as twice three bytes. -/
theorem pair_not_utf8 :
    ∃ bytes, copyDeviceString (fun _ => true) (some onePair) none = some (some bytes) ∧
      Utf16.decodeLE onePair.bString = some [Char.ofNat 0x1F600] ∧
      bytes ≠ utf8 [Char.ofNat 0x1F600] :=
  ⟨[0xED, 0xA0, 0xBD, 0xED, 0xB8, 0x80], by decide, by decide, by decide⟩

end DriverUtils

end DarwinGpib
