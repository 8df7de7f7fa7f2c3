import DarwinGpib.Library.Pieces
import DarwinGpib.Model.FirmwareTools

/-!
# The header reads back

What `extract_kusb_firmware.py` writes, `kusb_fw_download.py` reads back: the search for an array
passes over the lines in front of it, and the scan for hexadecimal pairs over what separates them.
-/

namespace DarwinGpib

open Regex Pieces ExtractKusbFirmware KusbFwDownload

namespace FirmwareHeader

/-! ## Bytes -/

theorem hexValue_hexDigit {n : Nat} (hn : n < 16) : hexValue (hexDigit n) = n := by
  revert n
  decide

theorem isHexDigit_hexDigit {n : Nat} (hn : n < 16) : isHexDigit (hexDigit n) = true := by
  revert n
  decide

theorem hexDigit_ne {n : Nat} (hn : n < 16) : hexDigit n ≠ 'k' ∧ hexDigit n ≠ '\x7d' := by
  revert n
  decide

/-- The digits of a byte, as the pattern captures them. -/
def digits (b : UInt8) : Text := [hexDigit (b.toNat / 16), hexDigit (b.toNat % 16)]

theorem hexByte_eq (b : UInt8) : hexByte b = "0x".toList ++ digits b := rfl

theorem high_lt (b : UInt8) : b.toNat / 16 < 16 := by
  have hb := b.toNat_lt
  omega

theorem low_lt (b : UInt8) : b.toNat % 16 < 16 := Nat.mod_lt _ (by decide)

theorem intOfHex_digits (b : UInt8) : intOfHex (digits b) = b.toNat := by
  have hhigh := hexValue_hexDigit (high_lt b)
  have hlow := hexValue_hexDigit (low_lt b)
  simp only [intOfHex, digits, List.foldl_cons, List.foldl_nil, hhigh, hlow]
  omega

theorem all_isHexDigit_digits (b : UInt8) : (digits b).all isHexDigit = true := by
  simp [digits, isHexDigit_hexDigit (high_lt b), isHexDigit_hexDigit (low_lt b)]

theorem hexPattern_eq_nil {a : Char} (ha : a ≠ '0') (t : Text) : hexPattern (a :: t) = [] := by
  refine andThen_eq_nil (literal_eq_nil fun h => ha ?_)
  exact (List.cons_prefix_cons.mp h).1.symm

theorem findall_hexByte (b : UInt8) (s : Text) :
    findall hexPattern (hexByte b ++ s) = digits b :: findall hexPattern s := by
  have hmatch : (hexPattern (hexByte b ++ s)).head? = some (digits b, s) := by
    rw [hexByte_eq, List.append_assoc]
    exact head?_andThen (head?_literal _ _) (head?_exactly (all_isHexDigit_digits b))
  exact findall_of_head? (by simp [hexByte]) hmatch

/-! ## Rows -/

theorem findall_separator {l : Text} (hl : '0' ∉ l) (s : Text) :
    findall hexPattern (l ++ s) = findall hexPattern s :=
  findall_append fun _ ha => hexPattern_eq_nil fun h => hl (h ▸ ha)

theorem findall_intercalate (row : Bytes) (s : Text) :
    findall hexPattern (", ".toList.intercalate (row.map hexByte) ++ s) =
      row.map digits ++ findall hexPattern s := by
  induction row with
  | nil => rfl
  | cons b row ih =>
      cases row with
      | nil => simpa using findall_hexByte b s
      | cons b' row =>
          rw [List.map_cons, List.map_cons, List.intercalate_cons_cons, ← List.map_cons,
            List.append_assoc, List.append_assoc, findall_hexByte,
            findall_separator (by decide), ih]
          rfl

theorem findall_emitRow (row : Bytes) (s : Text) :
    findall hexPattern (emitRow row ++ s) = row.map digits ++ findall hexPattern s := by
  unfold emitRow
  rw [List.append_assoc, List.append_assoc, findall_separator (by decide), findall_intercalate,
    findall_separator (by decide)]

theorem findall_emitRows (rs : List Bytes) (s : Text) :
    findall hexPattern (rs.flatMap emitRow ++ s) =
      rs.flatten.map digits ++ findall hexPattern s := by
  induction rs with
  | nil => rfl
  | cons row rs ih =>
      rw [List.flatMap_cons, List.append_assoc, findall_emitRow, ih, List.flatten_cons,
        List.map_append, List.append_assoc]

theorem flatten_rows (blob : Bytes) : (rows blob).flatten = blob := by
  have hrows : rows blob = (pieces 12 0 blob).map Prod.snd := by
    rw [← map_range'_eq_pieces (by decide)]
    simp [rows, slice]
  rw [hrows, ← List.flatMap_def, flatMap_pieces (by decide)]

theorem forall_mem_intercalate {α : Type} {P : α → Prop} {sep : List α} {ls : List (List α)}
    (hsep : ∀ a ∈ sep, P a) (hls : ∀ l ∈ ls, ∀ a ∈ l, P a) : ∀ a ∈ sep.intercalate ls, P a := by
  induction ls with
  | nil => simp
  | cons l ls ih =>
      obtain ⟨hl, hls⟩ := List.forall_mem_cons.mp hls
      cases ls with
      | nil => simpa using hl
      | cons l' ls =>
          rw [List.intercalate_cons_cons]
          exact List.forall_mem_append.mpr ⟨List.forall_mem_append.mpr ⟨hl, hsep⟩, ih hls⟩

/-- A character that is neither in a symbol's first place nor in that of the closing brace. -/
abbrev IsFiller (a : Char) : Prop := a ≠ 'k' ∧ a ≠ '\x7d'

theorem isFiller_hexByte (b : UInt8) : ∀ a ∈ hexByte b, IsFiller a := by
  unfold hexByte
  simp only [List.forall_mem_cons]
  exact ⟨by decide, by decide, hexDigit_ne (high_lt b), hexDigit_ne (low_lt b), nofun⟩

theorem isFiller_emitRow (row : Bytes) : ∀ a ∈ emitRow row, IsFiller a := by
  have hcells : ∀ l ∈ row.map hexByte, ∀ a ∈ l, IsFiller a := by
    intro l hl
    obtain ⟨b, -, rfl⟩ := List.mem_map.mp hl
    exact isFiller_hexByte b
  have hmargin : ∀ a ∈ "    ".toList, IsFiller a := by simp [IsFiller]
  have hcomma : ∀ a ∈ ", ".toList, IsFiller a := by simp [IsFiller]
  have hends : ∀ a ∈ ",\n".toList, IsFiller a := by simp [IsFiller]
  unfold emitRow
  refine List.forall_mem_append.mpr ⟨List.forall_mem_append.mpr ⟨hmargin, ?_⟩, hends⟩
  exact forall_mem_intercalate hcomma hcells

theorem isFiller_emitRows (rs : List Bytes) : ∀ a ∈ rs.flatMap emitRow, IsFiller a := by
  intro a ha
  obtain ⟨row, -, harow⟩ := List.mem_flatMap.mp ha
  exact isFiller_emitRow row a harow

/-! ## Lines -/

/-- What the pattern for an array begins with. -/
def arrayText (name : String) : Text := "kKusb".toList ++ name.toList ++ "Data[]".toList

theorem arrayText_eq (name : String) :
    arrayText name = 'k' :: ("Kusb".toList ++ name.toList ++ "Data[]".toList) := rfl

theorem arrayText_ne_nil (name : String) : arrayText name ≠ [] := by
  rw [arrayText_eq]
  exact List.cons_ne_nil _ _

theorem bracket_mem_arrayText (name : String) : '[' ∈ arrayText name :=
  List.mem_append_right _ (by decide)

/-- What is behind the symbol in the pattern for an array. -/
def arrayRest : Pattern Char Text :=
  andThen (greedy isSpace) <| andThen (literal "=".toList) <| andThen (greedy isSpace) <|
    andThen (literal "\x7b".toList) <| before lazy (literal "\x7d;".toList)

theorem arrayPattern_eq (name : String) :
    arrayPattern name = andThen (literal (arrayText name)) arrayRest := rfl

/-- What the pattern for an array captures. -/
def arrayBody (blob : Bytes) : Text := '\n' :: (rows blob).flatMap emitRow

theorem emitArray_eq {name symbol : String}
    (h : symbol.toList = "kKusb".toList ++ name.toList ++ "Data".toList) (blob : Bytes) :
    emitArray symbol blob =
      "static const uint8_t ".toList ++ (arrayText name ++ (" = \x7b".toList ++
        (arrayBody blob ++ ("\x7d;".toList ++ "\n\n".toList)))) := by
  unfold emitArray arrayText arrayBody
  rw [h]
  simp

/-- Text without the first character of the symbol is passed over. -/
theorem search_skip (name : String) {l : Text} (hl : 'k' ∉ l) (s : Text) :
    search (arrayPattern name) (l ++ s) = search (arrayPattern name) s := by
  rw [arrayPattern_eq, arrayText_eq]
  exact search_append hl

/-- The search for an array ends in the array. -/
theorem search_emitArray {name symbol : String}
    (h : symbol.toList = "kKusb".toList ++ name.toList ++ "Data".toList) (blob : Bytes) (s : Text) :
    search (arrayPattern name) (emitArray symbol blob ++ s) = some (arrayBody blob) := by
  have hbody : '\x7d' ∉ arrayBody blob := by
    intro hmem
    rcases List.mem_cons.mp hmem with hnewline | hmem
    · exact absurd hnewline (by decide)
    · exact (isFiller_emitRows _ _ hmem).2 rfl
  rw [emitArray_eq h, List.append_assoc, search_skip name (by decide), arrayPattern_eq,
    List.append_assoc, List.append_assoc, List.append_assoc]
  have hassign :
      " = \x7b".toList = " ".toList ++ ("=".toList ++ (" ".toList ++ "\x7b".toList)) := by
    decide
  have hspace : ∀ a ∈ " ".toList, isSpace a = true := by simp [isSpace]
  have hequals (t : Text) : ∀ a ∈ ("=".toList ++ t).head?, isSpace a = false := by
    simp [isSpace]
  have hbrace (t : Text) : ∀ a ∈ ("\x7b".toList ++ t).head?, isSpace a = false := by
    simp [isSpace]
  rw [hassign]
  simp only [List.append_assoc]
  refine search_of_head? (r := (arrayBody blob, "\n\n".toList ++ s)) ?_
  refine head?_andThen (head?_literal _ _) ?_
  refine head?_andThen (head?_greedy hspace (hequals _)) ?_
  refine head?_andThen (head?_literal _ _) ?_
  refine head?_andThen (head?_greedy hspace (hbrace _)) ?_
  exact head?_andThen (head?_literal _ _) (head?_lazy_before hbody)

/-- The search passes over the arrays of other symbols. -/
theorem search_skip_emitArray {name symbol : String} (hname : '\n' ∉ arrayText name)
    (h : ¬ arrayText name <:+:
      "static const uint8_t ".toList ++ symbol.toList ++ "[] = \x7b".toList)
    (blob : Bytes) (s : Text) :
    search (arrayPattern name) (emitArray symbol blob ++ s) = search (arrayPattern name) s := by
  have hopen : "[] = \x7b\n".toList = "[] = \x7b".toList ++ ['\n'] := by decide
  have hrows : 'k' ∉ (rows blob).flatMap emitRow := fun hmem => (isFiller_emitRows _ _ hmem).1 rfl
  have hline : emitArray symbol blob ++ s =
      ("static const uint8_t ".toList ++ symbol.toList ++ "[] = \x7b".toList) ++
        '\n' :: ((rows blob).flatMap emitRow ++ ("\x7d;\n\n".toList ++ s)) := by
    unfold emitArray
    rw [hopen]
    simp only [List.append_assoc, List.cons_append, List.nil_append]
  rw [hline, arrayPattern_eq, search_line (arrayText_ne_nil name) hname h, ← arrayPattern_eq,
    search_skip name hrows, search_skip name (by decide)]

/-- Lines without a bracket are passed over. -/
theorem search_skip_textOf {name : String} (hname : '\n' ∉ arrayText name) {lines : List String}
    (h : ∀ l ∈ lines, '[' ∉ l.toList) (s : Text) :
    search (arrayPattern name) (textOf lines ++ s) = search (arrayPattern name) s := by
  induction lines with
  | nil => rfl
  | cons l lines ih =>
      obtain ⟨hl, hlines⟩ := List.forall_mem_cons.mp h
      have hother : ¬ arrayText name <:+: l.toList := fun hpart =>
        hl (hpart.subset (bracket_mem_arrayText name))
      unfold textOf at ih ⊢
      rw [List.flatMap_cons, List.append_assoc, List.append_assoc, arrayPattern_eq,
        List.singleton_append, search_line (arrayText_ne_nil name) hname hother]
      exact ih hlines

theorem search_skip_banner {name : String} (hname : '\n' ∉ arrayText name) (s : Text) :
    search (arrayPattern name) (textOf banner ++ s) = search (arrayPattern name) s :=
  search_skip_textOf hname (by decide) s

theorem findall_arrayBody (blob : Bytes) :
    findall hexPattern (arrayBody blob) = blob.map digits := by
  have hrows := findall_emitRows (rows blob) []
  rw [List.append_nil, flatten_rows] at hrows
  unfold arrayBody
  rw [← List.singleton_append, findall_separator (by decide), hrows]
  exact List.append_nil _

theorem parseArray_of_search {name : String} {text : Text} {blob : Bytes}
    (h : search (arrayPattern name) text = some (arrayBody blob)) :
    parseArray name text = some blob := by
  have hbytes : (blob.map digits).map (fun h => UInt8.ofNat (intOfHex h)) = blob := by
    simp [Function.comp_def, intOfHex_digits]
  rw [parseArray, h, Option.map_some, findall_arrayBody, hbytes]

/-! ## The header -/

section Header

variable (rbf extram mainFw : Bytes)

theorem parseArray_fpgaBitstream :
    parseArray "FpgaBitstream" (header rbf extram mainFw) = some rbf := by
  apply parseArray_of_search
  unfold header
  simp only [List.append_assoc]
  rw [search_skip_banner (by decide), search_emitArray (by decide)]

theorem parseArray_extRamBlob :
    parseArray "ExtRamBlob" (header rbf extram mainFw) = some extram := by
  apply parseArray_of_search
  unfold header
  simp only [List.append_assoc]
  rw [search_skip_banner (by decide), search_skip_emitArray (by decide) (by decide),
    search_emitArray (by decide)]

theorem parseArray_mainFirmware :
    parseArray "MainFirmware" (header rbf extram mainFw) = some mainFw := by
  apply parseArray_of_search
  unfold header
  simp only [List.append_assoc]
  rw [search_skip_banner (by decide), search_skip_emitArray (by decide) (by decide),
    search_skip_emitArray (by decide) (by decide), search_emitArray (by decide)]

/-- The downloader reads the images that the extraction has written, whatever they hold. -/
theorem header_parses_back :
    parseArray "FpgaBitstream" (header rbf extram mainFw) = some rbf ∧
      parseArray "ExtRamBlob" (header rbf extram mainFw) = some extram ∧
      parseArray "MainFirmware" (header rbf extram mainFw) = some mainFw :=
  ⟨parseArray_fpgaBitstream rbf extram mainFw, parseArray_extRamBlob rbf extram mainFw,
    parseArray_mainFirmware rbf extram mainFw⟩

end Header

end FirmwareHeader

end DarwinGpib
