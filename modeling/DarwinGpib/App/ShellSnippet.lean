import DarwinGpib.Model.PythonSupport
import Mathlib.Logic.Function.Iterate

/-!
# Installing the shell snippet

What `installShellSnippet` makes of a startup file depends on that file alone. It rewrites the file
from the text it has read, so that the file keeps what it held if the text encodes back to it.
-/

namespace DarwinGpib

namespace PythonSupport

/-! ## UTF-8 -/

section Utf8

variable {t u : List Char} {c : List UInt8} {dropsMark : Bool}

@[simp] theorem encode_append (t u : List Char) : encode (t ++ u) = encode t ++ encode u :=
  List.flatMap_append

theorem encode_byteOrderMark : encode ['\uFEFF'] = byteOrderMark := by
  decide

theorem toByteArray_encode (t : List Char) : (encode t).toByteArray = t.utf8Encode := rfl

theorem toByteArray_inj {b c : List UInt8} (h : b.toByteArray = c.toByteArray) : b = c := by
  have hdata := congrArg ByteArray.data h
  rw [List.data_toByteArray, List.data_toByteArray] at hdata
  simpa using hdata

theorem utf8Decode?_eq_some_iff :
    c.toByteArray.utf8Decode?.map Array.toList = some t ↔ c = encode t := by
  constructor
  · intro h
    obtain ⟨a, ha, rfl⟩ := Option.map_eq_some_iff.mp h
    apply toByteArray_inj
    rw [toByteArray_encode]
    have hsome : c.toByteArray.utf8Decode?.isSome := by rw [ha]; rfl
    have hget : c.toByteArray.utf8Decode?.get hsome = a := Option.get_of_eq_some hsome ha
    rw [← hget, ByteArray.utf8Encode_get_utf8Decode?]
  · rintro rfl
    rw [toByteArray_encode, List.utf8Decode?_utf8Encode]
    simp

/-- What is decoded encodes back, but for a byte-order mark. -/
theorem encode_of_decode (h : decode dropsMark c = some t) :
    c = encode t ∨ c = byteOrderMark ++ encode t := by
  unfold decode at h
  rw [utf8Decode?_eq_some_iff] at h
  by_cases hmark : dropsMark = true ∧ byteOrderMark <+: c
  · rw [if_pos hmark] at h
    obtain ⟨c, rfl⟩ := hmark.2
    rw [List.drop_left] at h
    exact .inr (h ▸ rfl)
  · rw [if_neg hmark] at h
    exact .inl h

/-- What is encoded decodes back, but for a byte-order mark. -/
theorem decode_encode (dropsMark : Bool) (t : List Char) :
    ∃ u, decode dropsMark (encode t) = some u ∧ (t = u ∨ t = '\uFEFF' :: u) := by
  unfold decode
  by_cases hmark : dropsMark = true ∧ byteOrderMark <+: encode t
  · obtain ⟨c, hc⟩ := hmark.2
    have hbytes : ['\uFEFF'].utf8Encode ++ c.toByteArray = t.utf8Encode := by
      rw [← toByteArray_encode, ← toByteArray_encode, ← hc, List.toByteArray_append,
        encode_byteOrderMark]
    obtain ⟨u, rfl⟩ := List.isPrefix_of_utf8Encode_append_eq_utf8Encode _ hbytes
    refine ⟨u, ?_, .inr rfl⟩
    rw [if_pos hmark, encode_append, encode_byteOrderMark, List.drop_left]
    exact utf8Decode?_eq_some_iff.mpr rfl
  · rw [if_neg hmark]
    exact ⟨t, utf8Decode?_eq_some_iff.mpr rfl, .inl rfl⟩

end Utf8

/-! ## One file -/

section File

variable {F : Foundation} {access : Access} {dir path : String} {d : Disk} {f g : StartupFile}

/-- The text of a file with this content, or no text. -/
def textFrom (F : Foundation) (access : Access) (f : StartupFile) (c : Option (List UInt8)) :
    Option (List Char) :=
  if access.readable f then c >>= decode F.dropsMark else none

theorem decode_of_textFrom {c : List UInt8} {t : List Char}
    (h : textFrom F access f (some c) = some t) : decode F.dropsMark c = some t := by
  unfold textFrom at h
  by_cases hread : access.readable f = true
  · rwa [if_pos hread] at h
  · rw [if_neg hread] at h
    cases h

/-- The content that the loop leaves in a file. -/
def contentAfter (F : Foundation) (access : Access) (path : String) (f : StartupFile)
    (c : Option (List UInt8)) : Option (List UInt8) :=
  let existing := (textFrom F access f c).getD []
  if F.contains existing beginMarker then c
  else if access.writable f then some (encode (updated F path existing))
  else c

theorem startup_installIn :
    (installIn F access path d f).startup g =
      if g = f then contentAfter F access path f (d.startup f) else d.startup g := by
  have hold : d.startup g = if g = f then d.startup f else d.startup g := by
    split
    · rename_i hg
      rw [hg]
    · rfl
  unfold installIn contentAfter
  rw [show readText F access d f = textFrom F access f (d.startup f) from rfl]
  by_cases hmarked : F.contains ((textFrom F access f (d.startup f)).getD []) beginMarker = true
  · simpa only [if_pos hmarked] using hold
  · by_cases hwrite : access.writable f = true
    · simp only [if_neg hmarked, if_pos hwrite, Disk.write]
    · simpa only [if_neg hmarked, if_neg hwrite] using hold

/-- A loop over the startup files, each of which it updates by its own content. -/
theorem startup_foldl {step : Disk → StartupFile → Disk}
    {after : StartupFile → Option (List UInt8) → Option (List UInt8)}
    (hstep : ∀ d f g, (step d f).startup g =
      if g = f then after f (d.startup f) else d.startup g)
    {fs : List StartupFile} (hfs : fs.Nodup) :
    (fs.foldl step d).startup g = if g ∈ fs then after g (d.startup g) else d.startup g := by
  induction fs generalizing d with
  | nil => rfl
  | cons f fs ih =>
      obtain ⟨hf, hfs⟩ := List.nodup_cons.mp hfs
      rw [List.foldl_cons, ih hfs, hstep]
      by_cases hg : g = f
      · subst hg
        simp [hf]
      · simp [hg]

/-- The block is added on a line of its own, behind an empty one. -/
theorem updated_eq_block (F : Foundation) (path : String) (existing : List Char) :
    ∃ before, (before = [] ∨ before = ['\n']) ∧
      updated F path existing = existing ++ before ++ '\n' :: (block path ++ ['\n']) := by
  by_cases hline : existing = [] ∨ F.hasSuffix existing ['\n'] = true
  · exact ⟨[], .inl rfl, by simp [updated, hline]⟩
  · exact ⟨['\n'], .inr rfl, by simp [updated, hline]⟩

/-- What is added to a text, from a line break on. -/
theorem updated_eq (F : Foundation) (path : String) (existing : List Char) :
    ∃ before rest, (before = [] ∨ before = ['\n']) ∧
      updated F path existing =
        existing ++ before ++ '\n' :: (beginMarker ++ '\n' :: rest) := by
  obtain ⟨before, hbefore, heq⟩ := updated_eq_block F path existing
  exact ⟨before, sourceLine path ++ '\n' :: endMarker ++ ['\n'], hbefore, by
    rw [heq]
    simp [block]⟩

theorem contains_updated {existing u : List Char}
    (hu : updated F path existing = u ∨ updated F path existing = '\uFEFF' :: u) :
    F.contains u beginMarker = true := by
  obtain ⟨before, rest, -, heq⟩ := updated_eq F path existing
  rw [heq] at hu
  rcases hu with rfl | hu
  · exact F.contains_line _ _
  · cases hline : existing ++ before with
    | nil =>
        rw [hline] at hu
        exact absurd (List.cons.inj hu).1 (by decide)
    | cons a line =>
        rw [hline, List.cons_append] at hu
        obtain ⟨-, rfl⟩ := List.cons.inj hu
        exact F.contains_line _ _

theorem contentAfter_of_marked {c : Option (List UInt8)}
    (h : F.contains ((textFrom F access f c).getD []) beginMarker = true) :
    contentAfter F access path f c = c :=
  if_pos h

theorem contentAfter_of_not_writable (c : Option (List UInt8)) (h : ¬ access.writable f = true) :
    contentAfter F access path f c = c := by
  unfold contentAfter
  dsimp only
  rw [if_neg h, ite_self]

theorem contentAfter_of_unmarked {c : Option (List UInt8)}
    (hmarked : ¬ F.contains ((textFrom F access f c).getD []) beginMarker = true)
    (hwrite : access.writable f = true) :
    contentAfter F access path f c =
      some (encode (updated F path ((textFrom F access f c).getD []))) := by
  unfold contentAfter
  dsimp only
  rw [if_neg hmarked, if_pos hwrite]

/-- A second pass over a file changes nothing. -/
theorem contentAfter_idem (c : Option (List UInt8)) :
    contentAfter F access path f (contentAfter F access path f c) =
      contentAfter F access path f c := by
  by_cases hmarked : F.contains ((textFrom F access f c).getD []) beginMarker = true
  · rw [contentAfter_of_marked hmarked, contentAfter_of_marked hmarked]
  by_cases hwrite : access.writable f = true
  · rw [contentAfter_of_unmarked hmarked hwrite]
    by_cases hread : access.readable f = true
    · obtain ⟨u, hdecode, hu⟩ :=
        decode_encode F.dropsMark (updated F path ((textFrom F access f c).getD []))
      have htext : textFrom F access f (some (encode _)) = some u :=
        (if_pos hread).trans hdecode
      apply contentAfter_of_marked
      rw [htext]
      exact contains_updated hu
    · have hnone (c : Option (List UInt8)) : textFrom F access f c = none := if_neg hread
      rw [hnone] at hmarked ⊢
      rw [contentAfter_of_unmarked (by rwa [hnone]) hwrite, hnone]
  · rw [contentAfter_of_not_writable _ hwrite, contentAfter_of_not_writable _ hwrite]

/-- The file's bytes are the beginning of what it holds afterwards. -/
def Keeps (before after : Option (List UInt8)) : Prop :=
  ∀ c ∈ before, ∃ c' ∈ after, c <+: c'

/-- The file does not exist; or its text has the marker; or its text was read and encodes back to
its bytes; or it could not be read, and the new text happens to begin with its bytes. -/
def Survives (F : Foundation) (access : Access) (path : String) (f : StartupFile)
    (before : Option (List UInt8)) : Prop :=
  ∀ c ∈ before, F.contains ((textFrom F access f before).getD []) beginMarker = true ∨
    (∃ t, textFrom F access f before = some t ∧ encode t = c) ∨
    textFrom F access f before = none ∧ c <+: encode (updated F path [])

theorem encode_newline (t : List Char) : encode ('\n' :: t) = 0x0A :: encode t := by
  rw [encode, List.flatMap_cons]
  rfl

/-- The new content is the old text and a line break behind it. -/
theorem encode_updated (F : Foundation) (path : String) (t : List Char) :
    ∃ added, encode (updated F path t) = encode t ++ 0x0A :: added := by
  obtain ⟨before, rest, hbefore, heq⟩ := updated_eq F path t
  rw [heq, List.append_assoc, encode_append]
  rcases hbefore with rfl | rfl
  · exact ⟨_, by rw [List.nil_append, encode_newline]⟩
  · exact ⟨_, by rw [List.singleton_append, encode_newline]⟩

/-- A dropped byte-order mark is not made up for by what is added. -/
theorem mark_not_kept (t : List Char) :
    ¬ byteOrderMark ++ encode t <+: encode (updated F path t) := by
  obtain ⟨added, hadded⟩ := encode_updated F path t
  intro hprefix
  have hlen : (byteOrderMark ++ encode t).length = (encode t).length + 3 := by
    rw [List.length_append, Nat.add_comm]
    rfl
  rw [hadded, List.prefix_iff_eq_take, hlen, List.take_length_add_append,
    List.take_succ_cons] at hprefix
  have hmark : byteOrderMark.count 0x0A = 0 := by decide
  -- the line breaks are counted: the mark has none
  have hcount := congrArg (List.count 0x0A) hprefix
  rw [List.count_append, List.count_append, hmark, List.count_cons_self] at hcount
  omega

theorem keeps_contentAfter_iff (hwrite : access.writable f = true)
    {before : Option (List UInt8)} :
    Keeps before (contentAfter F access path f before) ↔ Survives F access path f before := by
  cases before with
  | none => simp [Keeps, Survives]
  | some c =>
      unfold Keeps Survives
      by_cases hmarked :
          F.contains ((textFrom F access f (some c)).getD []) beginMarker = true
      · rw [contentAfter_of_marked hmarked]
        simp [hmarked]
      · rw [contentAfter_of_unmarked hmarked hwrite]
        simp only [Option.mem_def, Option.some.injEq, forall_eq', exists_eq_left', hmarked]
        cases htext : textFrom F access f (some c) with
        | none => simp
        | some t =>
            have hdecode := decode_of_textFrom htext
            obtain ⟨added, hadded⟩ := encode_updated F path t
            rcases encode_of_decode hdecode with rfl | rfl
            · simp [hadded]
            · have hlong : encode t ≠ byteOrderMark ++ encode t := by
                intro heq
                exact absurd (List.self_eq_append_left.mp heq) (by decide)
              simp [mark_not_kept, hlong]

end File

/-! ## The installation -/

section Installation

variable {F : Foundation} {access : Access} {dir path : String} {d : Disk} {f : StartupFile}

theorem nodup_shellStartupFiles (d : Disk) : (shellStartupFiles d).Nodup := by
  have hrest : ([.bashProfile, .bashrc, .profile] : List StartupFile).Nodup := by decide
  refine List.nodup_cons.mpr ⟨fun hmem => ?_, hrest.filter _⟩
  exact absurd (List.mem_filter.mp hmem).1 (by decide)

theorem mem_shellStartupFiles_iff :
    f ∈ shellStartupFiles d ↔ f = .zshrc ∨ (d.startup f).isSome := by
  cases f <;> simp [shellStartupFiles]

theorem startup_installShellSnippet (henv : access.envShWritable = true) :
    (installShellSnippet F access dir path d).startup f =
      if f ∈ shellStartupFiles d then contentAfter F access path f (d.startup f)
      else d.startup f := by
  unfold installShellSnippet
  rw [if_pos henv]
  exact startup_foldl (fun _ _ _ => startup_installIn) (nodup_shellStartupFiles _)

theorem envSh_foldl_installIn (fs : List StartupFile) (d : Disk) :
    (fs.foldl (installIn F access path) d).envSh = d.envSh := by
  induction fs generalizing d with
  | nil => rfl
  | cons f fs ih =>
      have hstep : (installIn F access path d f).envSh = d.envSh := by
        unfold installIn
        dsimp only
        split
        · rfl
        · split <;> rfl
      rw [List.foldl_cons, ih, hstep]

theorem envSh_installShellSnippet (henv : access.envShWritable = true) :
    (installShellSnippet F access dir path d).envSh =
      some (encode (envScript dir).toList) := by
  unfold installShellSnippet
  rw [if_pos henv]
  exact envSh_foldl_installIn _ _

theorem disk_ext {d d' : Disk} (henv : d.envSh = d'.envSh)
    (hstartup : ∀ f, d.startup f = d'.startup f) : d = d' := by
  cases d
  cases d'
  exact Disk.mk.injEq .. ▸ ⟨henv, funext hstartup⟩

theorem installShellSnippet_idem :
    installShellSnippet F access dir path (installShellSnippet F access dir path d) =
      installShellSnippet F access dir path d := by
  by_cases henv : access.envShWritable = true
  · refine disk_ext ?_ fun f => ?_
    · rw [envSh_installShellSnippet henv, envSh_installShellSnippet henv]
    rw [startup_installShellSnippet henv]
    split
    · rename_i hf
      rw [startup_installShellSnippet henv]
      by_cases hhandled : f ∈ shellStartupFiles d
      · rw [if_pos hhandled, contentAfter_idem]
      · rw [mem_shellStartupFiles_iff, startup_installShellSnippet henv, if_neg hhandled,
          ← mem_shellStartupFiles_iff] at hf
        exact absurd hf hhandled
    · rfl
  · have hnothing (d : Disk) : installShellSnippet F access dir path d = d := if_neg henv
    rw [hnothing, hnothing]

/-- A startup file that is written keeps its content if and only if it survives being read. Any
number of installations leave what one leaves. -/
theorem installed_keeping_iff (F : Foundation) {access : Access} (dir path : String) (d : Disk)
    {f : StartupFile} (henv : access.envShWritable = true) (hwrite : access.writable f = true)
    (hf : f ∈ shellStartupFiles d) :
    (Keeps (d.startup f) ((installShellSnippet F access dir path d).startup f) ↔
      Survives F access path f (d.startup f)) ∧
    ∀ n, (installShellSnippet F access dir path)^[n + 1] d =
      installShellSnippet F access dir path d := by
  constructor
  · rw [startup_installShellSnippet henv, if_pos hf]
    exact keeps_contentAfter_iff hwrite
  · intro n
    induction n with
    | zero => rfl
    | succ n ih => rw [Function.iterate_succ_apply', ih, installShellSnippet_idem]

end Installation

/-! ## A file in another encoding -/

/-- Strings compared by their scalars. -/
def byScalars : Foundation where
  dropsMark := false
  contains t m := m <:+: t
  hasSuffix t s := s <:+ t
  contains_line a b := by
    have hline : a ++ '\n' :: (beginMarker ++ '\n' :: b) =
        (a ++ ['\n']) ++ beginMarker ++ '\n' :: b := by simp
    rw [hline]
    exact decide_eq_true (List.infix_append _ _ _)

def unrestricted : Access where
  envShWritable := true
  readable _ := true
  writable _ := true

theorem textFrom_byScalars (f : StartupFile) (t : List Char) :
    textFrom byScalars unrestricted f (some (encode t)) = some t := by
  have hdecode : decode false (encode t) = some t := utf8Decode?_eq_some_iff.mpr rfl
  exact hdecode

/-- A `.zshrc` that has a comment in UTF-8. -/
def utf8 : Disk where
  envSh := none
  startup
    | .zshrc => some (encode "# café\n".toList)
    | _ => none

theorem installed_keeping_utf8 :
    Keeps (utf8.startup .zshrc)
      ((installShellSnippet byScalars unrestricted "lib" "env.sh" utf8).startup .zshrc) := by
  have henv : unrestricted.envShWritable = true := rfl
  have hwrite : unrestricted.writable .zshrc = true := rfl
  refine (installed_keeping_iff byScalars "lib" "env.sh" utf8 henv hwrite (by decide)).1.mpr ?_
  intro c hc
  exact .inr (.inl ⟨"# café\n".toList, textFrom_byScalars _ _, Option.some.inj hc⟩)

/-- A `.zshrc` that has one in Latin-1. -/
def latin1 : Disk where
  envSh := none
  startup
    | .zshrc => some [0x23, 0x20, 0x63, 0x61, 0x66, 0xE9, 0x0A]
    | _ => none

/-- The comment and all else in the file is lost. -/
theorem latin1_lost :
    ¬ Keeps (latin1.startup .zshrc)
      ((installShellSnippet byScalars unrestricted "lib" "env.sh" latin1).startup .zshrc) := by
  have hnone : textFrom byScalars unrestricted .zshrc (latin1.startup .zshrc) = none := by rfl
  have henv : unrestricted.envShWritable = true := rfl
  have hwrite : unrestricted.writable .zshrc = true := rfl
  rw [startup_installShellSnippet henv, if_pos (by decide), keeps_contentAfter_iff hwrite]
  intro hsurvives
  rcases hsurvives _ rfl with hmarked | ⟨t, ht, -⟩ | ⟨-, hprefix⟩
  · rw [hnone] at hmarked
    exact absurd hmarked (by decide)
  · rw [hnone] at ht
    cases ht
  · exact absurd hprefix (by decide)

end PythonSupport

end DarwinGpib
