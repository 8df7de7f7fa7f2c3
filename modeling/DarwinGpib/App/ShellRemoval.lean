import DarwinGpib.App.ShellSnippet
import DarwinGpib.Library.MarkedBlocks

/-!
# Removing the shell snippet

`removeShellSnippet` strips the lines of a startup file that lie between the markers. What is left
is what is outside of the blocks if and only if the markers pair up. It never takes back a whole
installation: the line break behind the block stays.
-/

namespace DarwinGpib

namespace PythonSupport

open MarkedBlocks

/-! ## Lines -/

section Lines

variable {t u : List Char} {line : List Char} {lines : List (List Char)}

@[simp] theorem joined_nil : joined [] = [] := rfl

@[simp] theorem joined_singleton (line : List Char) : joined [line] = line := by simp [joined]

theorem joined_cons (h : lines ≠ []) (line : List Char) :
    joined (line :: lines) = line ++ '\n' :: joined lines := by
  simp [joined, List.intercalate_cons_of_ne_nil h]

@[simp] theorem joined_linesOf (t : List Char) : joined (linesOf t) = t :=
  List.intercalate_splitOn '\n'

theorem linesOf_joined (hlines : ∀ l ∈ lines, '\n' ∉ l) (hne : lines ≠ []) :
    linesOf (joined lines) = lines :=
  List.splitOn_intercalate '\n' hlines hne

theorem linesOf_append_newline (t u : List Char) :
    linesOf (t ++ '\n' :: u) = linesOf t ++ linesOf u :=
  List.splitOn_append_cons_self t u

theorem linesOf_nil : linesOf [] = [[]] := List.splitOn_nil '\n'

theorem linesOf_ne_nil (t : List Char) : linesOf t ≠ [] := List.splitOn_ne_nil '\n' t

theorem not_mem_of_mem_linesOf (h : line ∈ linesOf t) : '\n' ∉ line := by
  induction t generalizing line with
  | nil =>
      obtain rfl : line = [] := by simpa [linesOf] using h
      simp
  | cons c t ih =>
      rw [linesOf, List.splitOn_cons_eq_if_modifyHead] at h
      split at h
      · rcases List.mem_cons.mp h with rfl | h
        · simp
        · exact ih h
      · rename_i hc
        obtain ⟨l, ls, hls⟩ := List.exists_cons_of_ne_nil (linesOf_ne_nil t)
        have hl : '\n' ∉ l := ih (by simp [hls])
        rw [show t.splitOn '\n' = l :: ls from hls, List.modifyHead_cons] at h
        rcases List.mem_cons.mp h with rfl | h
        · rw [List.mem_cons, not_or]
          exact ⟨fun heq => hc (beq_iff_eq.mpr heq.symm), hl⟩
        · exact ih (by simp [hls, h])

theorem joined_append {as bs : List (List Char)} (has : as ≠ []) (hbs : bs ≠ []) :
    joined (as ++ bs) = joined as ++ '\n' :: joined bs := by
  induction as with
  | nil => exact absurd rfl has
  | cons a as ih =>
      by_cases hnil : as = []
      · simp [hnil, joined_cons hbs]
      · have hne : as ++ bs ≠ [] := by simp [hnil]
        rw [List.cons_append, joined_cons hne, joined_cons hnil, ih hnil]
        simp

theorem length_joined_le {as bs : List (List Char)} (h : as.Sublist bs) :
    (joined as).length ≤ (joined bs).length := by
  induction h with
  | slnil => exact Nat.le_refl _
  | @cons as bs b h ih =>
      by_cases hbs : bs = []
      · subst hbs
        simp [List.sublist_nil.mp h]
      · rw [joined_cons hbs, List.length_append, List.length_cons]
        omega
  | @cons_cons as bs b h ih =>
      by_cases has : as = []
      · by_cases hbs : bs = []
        · simp [has, hbs]
        · simp [has, joined_cons hbs]
      · have hbs : bs ≠ [] := by
          rintro rfl
          exact has (List.sublist_nil.mp h)
        rw [joined_cons has, joined_cons hbs]
        simp only [List.length_append, List.length_cons]
        omega

end Lines

/-! ## Markers -/

/-- What the loops rely on. The markers have no line breaks, so that a text has one if one of its
lines does, and a byte-order mark is no part of them; the end marker is found on its own line, and
neither is found on an empty one. -/
structure Foundation.ReadsMarkers (F : Foundation) : Prop where
  contains_begin : ∀ t, F.contains t beginMarker = true ↔
    ∃ line ∈ linesOf t, F.contains line beginMarker = true
  contains_end : ∀ t, F.contains t endMarker = true ↔
    ∃ line ∈ linesOf t, F.contains line endMarker = true
  contains_mark : ∀ t, ∀ m ∈ [beginMarker, endMarker],
    F.contains ('\uFEFF' :: t) m = F.contains t m
  end_line : F.contains endMarker endMarker = true ∧ ¬ F.contains endMarker beginMarker = true
  empty_line : ¬ F.contains [] beginMarker = true ∧ ¬ F.contains [] endMarker = true

/-- A line with the begin marker. -/
abbrev Begins (F : Foundation) (line : List Char) : Prop := F.contains line beginMarker = true

/-- A line with the end marker, unless it is one with the begin marker. -/
abbrev Ends (F : Foundation) (line : List Char) : Prop :=
  F.contains line endMarker = true ∧ ¬ Begins F line

/-- The file holds the text, with or without a byte-order mark. -/
def HasText (c : Option (List UInt8)) (t : List Char) : Prop :=
  c = some (encode t) ∨ c = some (byteOrderMark ++ encode t)

section File

variable {F : Foundation} {access : Access} {dir path : String} {d : Disk} {f g : StartupFile}
  {t : List Char} {c : Option (List UInt8)}

theorem keptLines_eq_strip (inBlock : Bool) (lines : List (List Char)) :
    keptLines F inBlock lines = strip (Begins F) (Ends F) inBlock lines := by
  induction lines generalizing inBlock with
  | nil => rfl
  | cons line lines ih =>
      rw [keptLines, strip]
      by_cases hbegin : F.contains line beginMarker = true
      · simp [Begins, hbegin, ih]
      · cases inBlock <;> simp [Begins, Ends, hbegin, ih]

/-- The text that the loop makes of a text with the marker. -/
def stripped (F : Foundation) (t : List Char) : List Char :=
  joined (keptLines F false (linesOf t))

/-- The text without its blocks. -/
noncomputable def withoutBlocks (F : Foundation) (t : List Char) : List Char :=
  joined (outside (Begins F) (Ends F) (linesOf t))

/-- The content that the loop leaves in a file. -/
def contentStripped (F : Foundation) (access : Access) (f : StartupFile)
    (c : Option (List UInt8)) : Option (List UInt8) :=
  match textFrom F access f c with
  | none => c
  | some text =>
      if F.contains text beginMarker then
        if access.writable f then some (encode (stripped F text)) else c
      else c

theorem startup_removeIn :
    (removeIn F access d f).startup g =
      if g = f then contentStripped F access f (d.startup f) else d.startup g := by
  have hold : d.startup g = if g = f then d.startup f else d.startup g := by
    split
    · rename_i hg
      rw [hg]
    · rfl
  unfold removeIn contentStripped
  rw [show readText F access d f = textFrom F access f (d.startup f) from rfl]
  cases textFrom F access f (d.startup f) with
  | none => exact hold
  | some text =>
      by_cases hmarked : F.contains text beginMarker = true
      · by_cases hwrite : access.writable f = true
        · simp [hmarked, hwrite, Disk.write, stripped]
        · simpa only [if_pos hmarked, if_neg hwrite] using hold
      · simpa only [if_neg hmarked] using hold

theorem startup_removeShellSnippet :
    (removeShellSnippet F access d).startup f =
      if f ∈ shellStartupFiles d then contentStripped F access f (d.startup f)
      else d.startup f := by
  have hstep : ∀ (d : Disk) (f g : StartupFile), (removeIn F access d f).startup g =
      if g = f then contentStripped F access f (d.startup f) else d.startup g :=
    fun _ _ _ => startup_removeIn
  have hfold := startup_foldl (d := d) (g := f) hstep (nodup_shellStartupFiles d)
  rw [← hfold]
  unfold removeShellSnippet
  dsimp only
  split <;> rfl

theorem encode_inj {t u : List Char} : encode t = encode u ↔ t = u := by
  constructor
  · intro h
    have ht : (encode t).toByteArray.utf8Decode?.map Array.toList = some t :=
      utf8Decode?_eq_some_iff.mpr rfl
    rw [h, utf8Decode?_eq_some_iff.mpr rfl, Option.some.injEq] at ht
    exact ht.symm
  · rintro rfl
    rfl

theorem readable_of_textFrom (h : textFrom F access f c = some t) :
    access.readable f = true := by
  by_contra hread
  rw [textFrom, if_neg hread] at h
  cases h

theorem mem_shellStartupFiles_of_textFrom (h : textFrom F access f (d.startup f) = some t) :
    f ∈ shellStartupFiles d := by
  refine mem_shellStartupFiles_iff.mpr (.inr ?_)
  cases hc : d.startup f with
  | none => simp [hc, textFrom] at h
  | some c => rfl

theorem hasText_of_textFrom (h : textFrom F access f c = some t) : HasText c t := by
  cases c with
  | none => simp [textFrom] at h
  | some c =>
      rcases encode_of_decode (decode_of_textFrom h) with rfl | rfl
      · exact .inl rfl
      · exact .inr rfl

theorem hasText_encode_iff : HasText (some (encode u)) t ↔ u = t ∨ u = '\uFEFF' :: t := by
  unfold HasText
  rw [← encode_byteOrderMark, ← encode_append, Option.some.injEq, Option.some.injEq, encode_inj,
    encode_inj, List.singleton_append]

/-! ## A file with blocks -/

/-- A pass leaves no line with a marker. -/
theorem plain_of_mem_keptLines {line : List Char} {inBlock : Bool} {lines : List (List Char)}
    (h : line ∈ keptLines F inBlock lines) : ¬ Begins F line ∧ ¬ Ends F line := by
  rw [keptLines_eq_strip] at h
  exact plain_of_mem_strip h

theorem plain_of_mem_linesOf_stripped (hF : F.ReadsMarkers) {line : List Char}
    (h : line ∈ linesOf (stripped F t)) : ¬ Begins F line ∧ ¬ Ends F line := by
  by_cases hnil : keptLines F false (linesOf t) = []
  · obtain rfl : line = [] := by simpa [stripped, hnil, linesOf_nil] using h
    exact ⟨hF.empty_line.1, fun hends => hF.empty_line.2 hends.1⟩
  · have hsub : ∀ l ∈ keptLines F false (linesOf t), '\n' ∉ l := by
      intro l hl
      rw [keptLines_eq_strip] at hl
      exact not_mem_of_mem_linesOf ((strip_sublist_self false _).mem hl)
    rw [stripped, linesOf_joined hsub hnil] at h
    exact plain_of_mem_keptLines h

/-- What a pass leaves is the text without its blocks if and only if the markers pair up. -/
theorem hasText_stripped_iff (hF : F.ReadsMarkers) :
    HasText (some (encode (stripped F t))) (withoutBlocks F t) ↔
      Paired (Begins F) (Ends F) (linesOf t) := by
  have hone : ∀ line, Ends F line → ¬ Begins F line := fun line h => h.2
  rw [hasText_encode_iff, ← strip_eq_outside_iff hone, ← keptLines_eq_strip]
  constructor
  · intro h
    by_contra hne
    rw [keptLines_eq_strip, strip_eq_outside_iff hone] at hne
    obtain ⟨line, hline, hmarker⟩ := exists_marker_of_not_paired hone hne
    have hout : outside (Begins F) (Ends F) (linesOf t) ≠ [] := List.ne_nil_of_mem hline
    have hlines : linesOf (withoutBlocks F t) = outside (Begins F) (Ends F) (linesOf t) :=
      linesOf_joined (fun l hl => not_mem_of_mem_linesOf ((outside_sublist _).mem hl)) hout
    rcases h with h | h
    · -- A line that is left would have a marker.
      have hmem : line ∈ linesOf (stripped F t) := by
        rw [h, hlines]
        exact hline
      have hplain := plain_of_mem_linesOf_stripped hF hmem
      exact hmarker.elim hplain.1 hplain.2
    · -- What is left is no longer than what is outside.
      have hsub : (strip (Begins F) (Ends F) false (linesOf t)).Sublist _ :=
        strip_sublist_outside (linesOf t)
      have hle := length_joined_le hsub
      rw [← keptLines_eq_strip] at hle
      have hlen : (stripped F t).length = (withoutBlocks F t).length + 1 := by
        rw [h, List.length_cons]
      change (stripped F t).length ≤ (withoutBlocks F t).length at hle
      omega
  · intro h
    exact .inl (by rw [stripped, withoutBlocks, h])

/-- A file with the text `t` is left with what is outside of the blocks. -/
theorem hasText_contentStripped_iff (hF : F.ReadsMarkers) (hwrite : access.writable f = true)
    (ht : textFrom F access f c = some t) :
    HasText (contentStripped F access f c) (withoutBlocks F t) ↔
      (∀ line ∈ linesOf t, ¬ Begins F line) ∨ Paired (Begins F) (Ends F) (linesOf t) := by
  unfold contentStripped
  simp only [ht]
  by_cases hmarked : F.contains t beginMarker = true
  · have hbegins : ¬ ∀ line ∈ linesOf t, ¬ Begins F line := by
      obtain ⟨line, hline, hbegin⟩ := (hF.contains_begin t).mp hmarked
      exact fun hnone => hnone line hline hbegin
    rw [if_pos hmarked, if_pos hwrite, hasText_stripped_iff hF, or_iff_right hbegins]
  · have hnone : ∀ line ∈ linesOf t, ¬ Begins F line := fun line hline hbegin =>
      hmarked ((hF.contains_begin t).mpr ⟨line, hline, hbegin⟩)
    rw [if_neg hmarked, withoutBlocks, outside_of_not_opens hnone, joined_linesOf]
    exact iff_of_true (hasText_of_textFrom ht) (.inl hnone)

/-! ## A file that has been installed into -/

/-- Behind a text without markers, the end of the block leaves a line. -/
theorem exists_stripped_block (hF : F.ReadsMarkers) (hbegin : ¬ F.contains t beginMarker = true)
    (hend : ¬ F.contains t endMarker = true) {before : List Char}
    (hbefore : before = [] ∨ before = ['\n']) (path : String) :
    ∃ rest, stripped F (t ++ before ++ '\n' :: (block path ++ ['\n'])) = t ++ '\n' :: rest := by
  have hplain : ∀ line ∈ linesOf t, ¬ Begins F line ∧ ¬ Ends F line := by
    intro line hline
    constructor
    · exact fun h => hbegin ((hF.contains_begin t).mpr ⟨line, hline, h⟩)
    · exact fun h => hend ((hF.contains_end t).mpr ⟨line, hline, h.1⟩)
  have hends : Ends F endMarker := hF.end_line
  have hempty : strip (Begins F) (Ends F) false [[]] = [[]] := by
    rw [← keptLines_eq_strip]
    simp [keptLines, hF.empty_line]
  have hmarker : linesOf endMarker = [endMarker] := List.splitOn_eq_singleton (by decide)
  have hblock : linesOf (block path ++ ['\n']) =
      (linesOf beginMarker ++ linesOf (sourceLine path)) ++ endMarker :: [[]] := by
    have hsplit : block path ++ ['\n'] =
        beginMarker ++ '\n' :: (sourceLine path ++ '\n' :: (endMarker ++ '\n' :: [])) := by
      simp [block]
    rw [hsplit, linesOf_append_newline, linesOf_append_newline, linesOf_append_newline, hmarker,
      linesOf_nil, List.append_assoc, List.singleton_append]
  obtain ⟨blank, hblank⟩ : ∃ blank, linesOf (t ++ before) = linesOf t ++ blank := by
    rcases hbefore with rfl | rfl
    · exact ⟨[], by simp⟩
    · exact ⟨[[]], linesOf_append_newline t []⟩
  obtain ⟨kept, hkept⟩ := exists_strip_append_closing hends hends.2 false
    (blank ++ (linesOf beginMarker ++ linesOf (sourceLine path))) [[]]
  refine ⟨joined (kept ++ [[]]), ?_⟩
  rw [stripped, keptLines_eq_strip, linesOf_append_newline, hblank, hblock, List.append_assoc,
    strip_append_of_plain hplain, ← List.append_assoc blank, hkept, hempty,
    joined_append (linesOf_ne_nil t) (by simp), joined_linesOf]

/-- Removing the block again leaves more line breaks than there were. -/
theorem count_lt_stripped (hF : F.ReadsMarkers) (hbegin : ¬ F.contains t beginMarker = true)
    (hend : ¬ F.contains t endMarker = true)
    (hu : updated F path t = u ∨ updated F path t = '\uFEFF' :: u) :
    t.count '\n' < (stripped F u).count '\n' := by
  obtain ⟨before, hbefore, heq⟩ := updated_eq_block F path t
  rw [heq] at hu
  rcases hu with rfl | hu
  · obtain ⟨rest, hrest⟩ := exists_stripped_block hF hbegin hend hbefore path
    rw [hrest, List.count_append, List.count_cons_self]
    omega
  · -- The mark that was dropped belonged to the text.
    cases t with
    | nil =>
        rcases hbefore with rfl | rfl
        · exact absurd (List.cons.inj hu).1 (by decide)
        · exact absurd (List.cons.inj hu).1 (by decide)
    | cons a t =>
        obtain ⟨rfl, htail⟩ := List.cons.inj hu
        obtain rfl : t ++ before ++ '\n' :: (block path ++ ['\n']) = u := htail
        rw [hF.contains_mark t _ (by simp)] at hbegin hend
        obtain ⟨rest, hrest⟩ := exists_stripped_block hF hbegin hend hbefore path
        rw [hrest, List.count_append, List.count_cons_self, List.count_cons_of_ne (by decide)]
        omega

theorem not_hasText_of_count_lt (h : t.count '\n' < u.count '\n') :
    ¬ HasText (some (encode u)) t := by
  rw [hasText_encode_iff]
  rintro (rfl | rfl)
  · exact absurd h (Nat.lt_irrefl _)
  · rw [List.count_cons_of_ne (by decide)] at h
    exact absurd h (Nat.lt_irrefl _)

/-- An installation and a removal leave a line break more than there was. -/
theorem not_hasText_reinstalled (hF : F.ReadsMarkers) (henv : access.envShWritable = true)
    (hwrite : access.writable f = true) (ht : textFrom F access f (d.startup f) = some t)
    (hbegin : ¬ F.contains t beginMarker = true) (hend : ¬ F.contains t endMarker = true) :
    ¬ HasText ((removeShellSnippet F access
      (installShellSnippet F access dir path d)).startup f) t := by
  have hread : access.readable f = true := readable_of_textFrom ht
  have hhandled : f ∈ shellStartupFiles d := mem_shellStartupFiles_of_textFrom ht
  have htext : (textFrom F access f (d.startup f)).getD [] = t := by rw [ht, Option.getD_some]
  have hinstalled : (installShellSnippet F access dir path d).startup f =
      some (encode (updated F path t)) := by
    rw [← htext] at hbegin
    rw [startup_installShellSnippet henv, if_pos hhandled,
      contentAfter_of_unmarked hbegin hwrite, htext]
  obtain ⟨u, hdecode, hu⟩ := decode_encode F.dropsMark (updated F path t)
  have hreread : textFrom F access f (some (encode (updated F path t))) = some u :=
    (if_pos hread).trans hdecode
  have hfile : f ∈ shellStartupFiles (installShellSnippet F access dir path d) :=
    mem_shellStartupFiles_of_textFrom (by rw [hinstalled, hreread])
  rw [startup_removeShellSnippet, if_pos hfile, hinstalled, contentStripped]
  simp only [hreread]
  rw [if_pos (contains_updated hu), if_pos hwrite]
  exact not_hasText_of_count_lt (count_lt_stripped hF hbegin hend hu)

/-- A startup file is left with what is outside of the blocks if and only if it has no begin marker
or its markers pair up. A text into which the snippet was installed does not come back. -/
theorem removed_exactly_iff (hF : F.ReadsMarkers) (dir path : String)
    (henv : access.envShWritable = true) (hwrite : access.writable f = true)
    (ht : textFrom F access f (d.startup f) = some t) :
    (HasText ((removeShellSnippet F access d).startup f) (withoutBlocks F t) ↔
      (∀ line ∈ linesOf t, ¬ Begins F line) ∨ Paired (Begins F) (Ends F) (linesOf t)) ∧
    (¬ F.contains t beginMarker = true → ¬ F.contains t endMarker = true →
      ¬ HasText ((removeShellSnippet F access
        (installShellSnippet F access dir path d)).startup f) t) := by
  constructor
  · rw [startup_removeShellSnippet, if_pos (mem_shellStartupFiles_of_textFrom ht)]
    exact hasText_contentStripped_iff hF hwrite ht
  · exact not_hasText_reinstalled hF henv hwrite ht

end File

/-! ## A marker without its end -/

theorem infix_append_newline_iff {m : List Char} (hm : '\n' ∉ m) {t u : List Char} :
    m <:+: t ++ '\n' :: u ↔ m <:+: t ∨ m <:+: u := by
  constructor
  · intro h
    rcases List.infix_append_iff.mp h with h | h | ⟨m₁, m₂, rfl, hm₁, hm₂⟩
    · exact .inl h
    · rcases List.infix_cons_iff.mp h with h | h
      · rcases List.prefix_cons_iff.mp h with rfl | ⟨m', rfl, -⟩
        · exact .inl List.nil_infix
        · simp at hm
      · exact .inr h
    · rcases List.prefix_cons_iff.mp hm₂ with rfl | ⟨m', rfl, -⟩
      · rw [List.append_nil]
        exact .inl hm₁.isInfix
      · simp at hm
  · rintro (h | h)
    · exact h.trans (List.prefix_append _ _).isInfix
    · exact h.trans ((List.suffix_cons _ _).trans (List.suffix_append _ _)).isInfix

/-- A text without line breaks is in a text if it is in one of its lines. -/
theorem infix_iff_exists_line {m : List Char} (hm : '\n' ∉ m) (t : List Char) :
    m <:+: t ↔ ∃ line ∈ linesOf t, m <:+: line := by
  have hjoined (lines : List (List Char)) (hne : lines ≠ []) :
      m <:+: joined lines ↔ ∃ line ∈ lines, m <:+: line := by
    induction lines with
    | nil => exact absurd rfl hne
    | cons line lines ih =>
        by_cases hnil : lines = []
        · simp [hnil]
        · rw [joined_cons hnil, infix_append_newline_iff hm, ih hnil]
          simp
  rw [← hjoined _ (linesOf_ne_nil t), joined_linesOf]

theorem contains_byScalars {t m : List Char} : byScalars.contains t m = true ↔ m <:+: t := by
  simp only [byScalars, decide_eq_true_iff]

theorem readsMarkers_byScalars : byScalars.ReadsMarkers where
  contains_begin t := by
    simpa only [contains_byScalars] using infix_iff_exists_line (m := beginMarker) (by decide) t
  contains_end t := by
    simpa only [contains_byScalars] using infix_iff_exists_line (m := endMarker) (by decide) t
  contains_mark t m hm := by
    have hhead : m.head? = some '#' := by
      rcases List.mem_pair.mp hm with rfl | rfl
      · decide
      · decide
    have hmark : m <:+: '\uFEFF' :: t ↔ m <:+: t := by
      cases m with
      | nil => cases hhead
      | cons a m =>
          obtain rfl : a = '#' := Option.some.inj hhead
          rw [List.infix_cons_iff, List.prefix_cons_iff]
          simp
    simp only [byScalars, hmark]
  end_line := by
    rw [contains_byScalars, contains_byScalars]
    exact ⟨List.infix_refl _, fun h => absurd (h.eq_of_length (by decide)) (by decide)⟩
  empty_line := by
    rw [contains_byScalars, contains_byScalars, List.infix_nil, List.infix_nil]
    exact ⟨by decide, by decide⟩

/-- The lines of a `.zshrc` with a block in front. -/
def terminatedLines : List (List Char) := [beginMarker, endMarker, "alias l=ls".toList, []]

theorem paired_terminatedLines :
    Paired (Begins byScalars) (Ends byScalars) terminatedLines := by
  have hbegins : ∀ line ∈ [endMarker, "alias l=ls".toList, []], ¬ Begins byScalars line := by
    decide
  have hends : ∀ line ∈ ["alias l=ls".toList, []], ¬ Ends byScalars line := by decide
  constructor
  · intro u x v hl hx
    cases u with
    | nil =>
        cases hl
        exact ⟨endMarker, List.mem_cons_self, by decide⟩
    | cons y u =>
        obtain ⟨-, hl⟩ := List.cons.inj hl
        exact absurd hx (hbegins x (hl ▸ List.mem_append_right u List.mem_cons_self))
  · intro u x v hl hx
    cases u with
    | nil =>
        cases hl
        exact absurd hx (by decide)
    | cons y u =>
        obtain ⟨rfl, hrest⟩ := List.cons.inj hl
        cases u with
        | nil => exact ⟨[], beginMarker, [], rfl, by decide, by simp⟩
        | cons z u =>
            obtain ⟨-, hrest⟩ := List.cons.inj hrest
            exact absurd hx (hends x (hrest ▸ List.mem_append_right u List.mem_cons_self))

def terminated : Disk where
  envSh := none
  startup
    | .zshrc => some (encode (joined terminatedLines))
    | _ => none

theorem removed_exactly_terminated :
    HasText ((removeShellSnippet byScalars unrestricted terminated).startup .zshrc)
      (withoutBlocks byScalars (joined terminatedLines)) := by
  have henv : unrestricted.envShWritable = true := rfl
  have hwrite : unrestricted.writable .zshrc = true := rfl
  have htext : textFrom byScalars unrestricted .zshrc (terminated.startup .zshrc) =
      some (joined terminatedLines) := textFrom_byScalars _ _
  have hlines : linesOf (joined terminatedLines) = terminatedLines :=
    linesOf_joined (by decide) (by decide)
  refine (removed_exactly_iff readsMarkers_byScalars "lib" "env.sh" henv hwrite htext).1.mpr ?_
  rw [hlines]
  exact .inr paired_terminatedLines

/-- Those of one from which the end marker has been deleted. -/
def unterminatedLines : List (List Char) := [beginMarker, "alias l=ls".toList, []]

def unterminated : Disk where
  envSh := none
  startup
    | .zshrc => some (encode (joined unterminatedLines))
    | _ => none

/-- An empty `.zshrc`. -/
def emptyFile : Disk where
  envSh := none
  startup
    | .zshrc => some []
    | _ => none

/-- The line behind the marker is lost, though there is no block; and an empty file is left with a
line break. -/
theorem unterminated_line_lost :
    ¬ HasText ((removeShellSnippet byScalars unrestricted unterminated).startup .zshrc)
        (withoutBlocks byScalars (joined unterminatedLines)) ∧
      ¬ HasText ((removeShellSnippet byScalars unrestricted
        (installShellSnippet byScalars unrestricted "lib" "env.sh" emptyFile)).startup .zshrc)
        [] := by
  have henv : unrestricted.envShWritable = true := rfl
  have hwrite : unrestricted.writable .zshrc = true := rfl
  have hlines : linesOf (joined unterminatedLines) = unterminatedLines :=
    linesOf_joined (by decide) (by decide)
  constructor
  · have htext : textFrom byScalars unrestricted .zshrc (unterminated.startup .zshrc) =
        some (joined unterminatedLines) := textFrom_byScalars _ _
    rw [startup_removeShellSnippet, if_pos (mem_shellStartupFiles_of_textFrom htext),
      hasText_contentStripped_iff readsMarkers_byScalars hwrite htext, hlines]
    rintro (hnone | ⟨hclosed, -⟩)
    · exact hnone beginMarker List.mem_cons_self (contains_byScalars.mpr (List.infix_refl _))
    · obtain ⟨line, hline, hend, -⟩ := hclosed [] beginMarker ["alias l=ls".toList, []] rfl
        (contains_byScalars.mpr (List.infix_refl _))
      have hlen := (contains_byScalars.mp hend).length_le
      rcases List.mem_pair.mp hline with rfl | rfl
      · exact absurd hlen (by decide)
      · exact absurd hlen (by decide)
  · have htext : textFrom byScalars unrestricted .zshrc (emptyFile.startup .zshrc) = some [] :=
      textFrom_byScalars _ []
    have hempty := readsMarkers_byScalars.empty_line
    exact not_hasText_reinstalled readsMarkers_byScalars henv hwrite htext hempty.1 hempty.2

end PythonSupport

end DarwinGpib
