import DarwinGpib.Model.SearchPath

/-!
# The search path over a session

However installations, removals and runs of the login agent follow each other, the directory is
searched before everything else exactly from the first of them that adds it to the next that
removes it, and what others have set is searched as before.
-/

namespace DarwinGpib

namespace PythonSupport

variable {S : Strings} {dir w : List Char} {v v' : Variable}

/-! ## Entries -/

@[simp] theorem joinedEntries_entriesOf (t : List Char) : joinedEntries (entriesOf t) = t :=
  List.intercalate_splitOn ':'

theorem entriesOf_append_colon (t u : List Char) :
    entriesOf (t ++ ':' :: u) = entriesOf t ++ entriesOf u :=
  List.splitOn_append_cons_self t u

theorem entriesOf_ne_nil (t : List Char) : entriesOf t ≠ [] := List.splitOn_ne_nil ':' t

theorem entriesOf_of_notMem (h : ':' ∉ w) : entriesOf w = [w] := by
  have hentries : entriesOf (joinedEntries [w]) = [w] :=
    List.splitOn_intercalate ':' (by simpa using h) (by simp)
  simpa [joinedEntries] using hentries

theorem joinedEntries_cons_entriesOf (t : List Char) :
    joinedEntries (dir :: entriesOf t) = dir ++ ':' :: t := by
  have ht := joinedEntries_entriesOf t
  rw [joinedEntries] at ht
  rw [joinedEntries, List.intercalate_cons_of_ne_nil (entriesOf_ne_nil t), ht]
  simp

/-- Between colons, an entry is looked for as the script does. -/
theorem mem_entriesOf_of_infix (hdir : dir ≠ []) (hcolon : ':' ∉ dir)
    (h : ':' :: (dir ++ [':']) <:+: ':' :: (w ++ [':'])) : dir ∈ entriesOf w := by
  obtain ⟨s, t, hst⟩ := h
  have hsplit : entriesOf (s ++ ':' :: (dir ++ ':' :: t)) =
      entriesOf ([] ++ ':' :: (w ++ ':' :: [])) := by
    refine congrArg entriesOf ?_
    simpa using hst
  simp only [entriesOf_append_colon, entriesOf_of_notMem hcolon] at hsplit
  have hmem : dir ∈ entriesOf [] ++ (entriesOf w ++ entriesOf []) := by
    rw [← hsplit]
    simp
  have hnil : entriesOf [] = [[]] := List.splitOn_nil ':'
  simpa [hnil, hdir] using hmem

/-! ## Values -/

/-- A value that trimming leaves alone. -/
structure Plain (S : Strings) (w : List Char) : Prop where
  nonempty : w ≠ []
  head : w.dropWhile S.blank = w
  last : w.rdropWhile S.blank = w

theorem Plain.getenv (h : Plain S w) : getenv S (some w) = w := by
  rw [PythonSupport.getenv, Option.getD_some, h.head, h.last]

theorem Plain.cons (hdir : Plain S dir) (hw : Plain S w) : Plain S (dir ++ ':' :: w) where
  nonempty := by simp
  head := by
    have hpos : 0 < dir.length := List.length_pos_iff.mpr hdir.nonempty
    have hfirst := List.dropWhile_eq_self_iff.mp hdir.head hpos
    refine List.dropWhile_eq_self_iff.mpr fun _ => ?_
    rwa [List.getElem_append_left hpos]
  last := by
    have hlast := List.rdropWhile_eq_self_iff.mp hw.last hw.nonempty
    refine List.rdropWhile_eq_self_iff.mpr fun _ => ?_
    rwa [List.getLast_append_of_ne_nil _ (by simp), List.getLast_cons hw.nonempty]

/-- The value without newlines at its end is the value. -/
theorem Plain.rdropWhile_newline (h : Plain S w) (hS : S.blank '\n' = true) :
    w.rdropWhile (· = '\n') = w := by
  have hlast := List.rdropWhile_eq_self_iff.mp h.last h.nonempty
  refine List.rdropWhile_eq_self_iff.mpr fun _ heq => hlast ?_
  rw [of_decide_eq_true heq]
  exact hS

/-- What is searched while the variable is not set. -/
def searchText (v : Variable) : List Char := v.getD dyldBuiltinDefault.toList

/-- What others have set, and a directory that it does not have. -/
structure Foreign (S : Strings) (dir : List Char) (v : Variable) : Prop where
  same_self (e : List Char) : S.same e e = true
  newline : S.blank '\n' = true
  dir_plain : Plain S dir
  colon : ':' ∉ dir
  default_plain : Plain S dyldBuiltinDefault.toList
  plain (w : List Char) (hw : v = some w) : Plain S w
  others (e : List Char) (he : e ∈ entriesOf (searchText v)) : S.same dir e = false

/-- The directory is searched, or what others have set is as it was; but an explicit default may
have been unset. -/
def Stands (dir : List Char) (v₀ : Variable) (installed : Bool) (v : Variable) : Prop :=
  if installed then v = some (dir ++ ':' :: searchText v₀)
  else v = v₀ ∨ (v₀ = some dyldBuiltinDefault.toList ∧ v = none)

section Steps

variable {v₀ : Variable} (h : Foreign S dir v₀)

include h

theorem Foreign.plain_text : Plain S (searchText v₀) := by
  cases v₀ with
  | none => exact h.default_plain
  | some w => exact h.plain w rfl

theorem Foreign.of_stands (hv : Stands dir v₀ false v) :
    Foreign S dir v ∧ searchText v = searchText v₀ := by
  rcases hv with rfl | ⟨rfl, rfl⟩
  · exact ⟨h, rfl⟩
  · exact ⟨{ h with plain := fun w hw => by cases hw }, rfl⟩

theorem Foreign.notMem : dir ∉ entriesOf (searchText v₀) := by
  intro hmem
  have hother := h.others dir hmem
  rw [h.same_self] at hother
  cases hother

theorem extendSearchPath_of_foreign :
    extendSearchPath S dir v₀ = some (dir ++ ':' :: searchText v₀) := by
  have hcurrent : (if getenv S v₀ = [] then dyldBuiltinDefault.toList else getenv S v₀) =
      searchText v₀ := by
    cases v₀ with
    | none => rfl
    | some w =>
        rw [(h.plain w rfl).getenv, if_neg (h.plain w rfl).nonempty]
        rfl
  have hany : ¬ (entriesOf (searchText v₀)).any (S.same dir) = true := by
    rw [List.any_eq_true]
    rintro ⟨e, he, hsame⟩
    rw [h.others e he] at hsame
    cases hsame
  simp only [extendSearchPath, hcurrent]
  rw [if_neg hany, joinedEntries_cons_entriesOf]

theorem getenv_extended : getenv S (some (dir ++ ':' :: searchText v₀)) =
    dir ++ ':' :: searchText v₀ :=
  (h.dir_plain.cons h.plain_text).getenv

theorem entriesOf_extended :
    entriesOf (dir ++ ':' :: searchText v₀) = dir :: entriesOf (searchText v₀) := by
  rw [entriesOf_append_colon, entriesOf_of_notMem h.colon, List.singleton_append]

theorem extendSearchPath_extended :
    extendSearchPath S dir (some (dir ++ ':' :: searchText v₀)) =
      some (dir ++ ':' :: searchText v₀) := by
  have hne : dir ++ ':' :: searchText v₀ ≠ [] := by simp
  simp only [extendSearchPath, getenv_extended h, if_neg hne, entriesOf_extended h]
  simp [h.same_self]

theorem filter_others :
    (entriesOf (searchText v₀)).filter (fun e => !S.same dir e) = entriesOf (searchText v₀) := by
  refine List.filter_eq_self.mpr fun e he => ?_
  rw [h.others e he]
  rfl

theorem removeSearchPathEntry_extended :
    removeSearchPathEntry S dir (some (dir ++ ':' :: searchText v₀)) =
      if searchText v₀ = dyldBuiltinDefault.toList then none else some (searchText v₀) := by
  simp only [removeSearchPathEntry, getenv_extended h]
  rw [if_neg (by simp), entriesOf_extended h]
  simp [h.same_self, filter_others h, entriesOf_ne_nil]

theorem removeSearchPathEntry_of_foreign :
    removeSearchPathEntry S dir v₀ =
      if searchText v₀ = dyldBuiltinDefault.toList then none else some (searchText v₀) := by
  cases v₀ with
  | none => rfl
  | some w =>
      have hothers := filter_others h
      simp only [removeSearchPathEntry, (h.plain w rfl).getenv, searchText, Option.getD_some]
        at hothers ⊢
      rw [if_neg (h.plain w rfl).nonempty, hothers]
      by_cases hdefault : w = dyldBuiltinDefault.toList
      · simp [hdefault]
      · simp [hdefault, entriesOf_ne_nil]

theorem loginAgent_of_foreign : loginAgent dir v₀ = some (dir ++ ':' :: searchText v₀) := by
  have hsearch : ¬ ':' :: (dir ++ [':']) <:+:
      ':' :: ((v₀.getD []).rdropWhile (· = '\n') ++ [':']) := by
    intro hinfix
    have hmem := mem_entriesOf_of_infix h.dir_plain.nonempty h.colon hinfix
    cases v₀ with
    | none => exact h.dir_plain.nonempty (List.mem_singleton.mp hmem)
    | some w =>
        rw [Option.getD_some, (h.plain w rfl).rdropWhile_newline h.newline] at hmem
        exact h.notMem hmem
  simp only [loginAgent]
  rw [if_neg hsearch]
  cases v₀ with
  | none => rfl
  | some w =>
      rw [Option.getD_some, (h.plain w rfl).rdropWhile_newline h.newline]
      exact if_pos (h.plain w rfl).nonempty

theorem loginAgent_extended :
    loginAgent dir (some (dir ++ ':' :: searchText v₀)) =
      some (dir ++ ':' :: searchText v₀) := by
  simp only [loginAgent, Option.getD_some]
  rw [(h.dir_plain.cons h.plain_text).rdropWhile_newline h.newline, if_pos]
  exact ⟨[], searchText v₀ ++ [':'], by simp⟩

theorem stands_restored :
    Stands dir v₀ false
      (if searchText v₀ = dyldBuiltinDefault.toList then none else some (searchText v₀)) := by
  cases v₀ with
  | none => exact .inl rfl
  | some w =>
      by_cases hdefault : w = dyldBuiltinDefault.toList
      · subst hdefault
        exact .inr ⟨rfl, rfl⟩
      · exact .inl (if_neg hdefault)

/-- Whether the directory is in the search path behind an action does not depend on what was
before. -/
theorem Stands.step {installed : Bool} (hv : Stands dir v₀ installed v) (a : PathAction) :
    Stands dir v₀ (a ≠ .uninstall) (pathStep S dir v a) := by
  cases installed with
  | true =>
      obtain rfl : v = some (dir ++ ':' :: searchText v₀) := hv
      cases a with
      | install => exact extendSearchPath_extended h
      | uninstall =>
          rw [pathStep, removeSearchPathEntry_extended h]
          exact stands_restored h
      | agent => exact loginAgent_extended h
  | false =>
      obtain ⟨hforeign, htext⟩ := h.of_stands hv
      cases a with
      | install =>
          rw [pathStep, extendSearchPath_of_foreign hforeign, htext]
          exact rfl
      | uninstall =>
          rw [pathStep, removeSearchPathEntry_of_foreign hforeign, htext]
          exact stands_restored h
      | agent =>
          rw [pathStep, loginAgent_of_foreign hforeign, htext]
          exact rfl

end Steps

/-- The last action is not an `uninstall`. -/
def installedBy (as : List PathAction) : Bool := as.foldl (fun _ a => a ≠ .uninstall) false

theorem stands_run {v₀ : Variable} (h : Foreign S dir v₀) (as : List PathAction)
    {installed : Bool} (hv : Stands dir v₀ installed v) :
    Stands dir v₀ (as.foldl (fun _ a => a ≠ .uninstall) installed)
      (as.foldl (pathStep S dir) v) := by
  induction as generalizing v installed with
  | nil => exact hv
  | cons a as ih => exact ih (hv.step h a)

/-- However installations, removals and runs of the login agent follow each other in a session,
the directory is searched first exactly if the last of them adds it, everything else is searched
as before, and behind a removal the variable is as others have set it, except that an explicit
default may be unset. -/
theorem session_searches_installed {v₀ : Variable} (h : Foreign S dir v₀)
    (as : List PathAction) :
    entriesOf (searchText (as.foldl (pathStep S dir) v₀)) =
        (if installedBy as then [dir] else []) ++ entriesOf (searchText v₀) ∧
      (installedBy as = false → as.foldl (pathStep S dir) v₀ = v₀ ∨
        v₀ = some dyldBuiltinDefault.toList ∧ as.foldl (pathStep S dir) v₀ = none) := by
  have hstands : Stands dir v₀ (installedBy as) (as.foldl (pathStep S dir) v₀) :=
    stands_run h as (.inl rfl)
  cases hinstalled : installedBy as with
  | true =>
      rw [hinstalled] at hstands
      rw [show as.foldl (pathStep S dir) v₀ = _ from hstands]
      exact ⟨entriesOf_extended h, fun hfalse => by cases hfalse⟩
  | false =>
      rw [hinstalled] at hstands
      exact ⟨congrArg entriesOf (h.of_stands hstands).2, fun _ => hstands⟩

/-- ASCII blanks, and strings by their scalars. -/
def plainStrings : Strings := ⟨Char.isWhitespace, fun e e' => e = e'⟩

theorem session_searches_installed_reinstalled :
    entriesOf (searchText ([PathAction.install, .agent, .uninstall, .install].foldl
      (pathStep plainStrings "/app/lib".toList) (some "/opt/lib".toList))) =
        ["/app/lib".toList, "/opt/lib".toList] := by
  have hforeign : Foreign plainStrings "/app/lib".toList (some "/opt/lib".toList) := {
    same_self := fun e => decide_eq_true rfl
    newline := by decide
    dir_plain := ⟨by decide, by decide, by decide⟩
    colon := by decide
    default_plain := ⟨by decide, by decide, by decide⟩
    plain := fun w hw => by
      cases hw
      exact ⟨by decide, by decide, by decide⟩
    others := by decide }
  have hsession := (session_searches_installed hforeign [.install, .agent, .uninstall, .install]).1
  exact hsession.trans (by decide)

end PythonSupport

end DarwinGpib
