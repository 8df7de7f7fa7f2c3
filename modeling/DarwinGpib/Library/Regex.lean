import Mathlib.Data.List.Infix

/-!
# Backtracking patterns

A pattern lists the ways in which it matches the head of a sequence, in the order in which a
backtracking matcher tries them. A match is the first way of the whole pattern.
-/

namespace Regex

variable {α β γ : Type}

/-- The ways to match the head of a sequence, each with the captured part and the rest. -/
abbrev Pattern (α β : Type) := List α → List (β × List α)

/-! ## Patterns -/

def literal [DecidableEq α] (w : List α) : Pattern α Unit :=
  fun s => if w <+: s then [((), s.drop w.length)] else []

/-- A class repeated `n` times, captured. -/
def exactly (n : Nat) (c : α → Bool) : Pattern α (List α) :=
  fun s => if n ≤ s.length ∧ (s.take n).all c then [(s.take n, s.drop n)] else []

/-- A class repeated as often as possible. -/
def greedy (c : α → Bool) : Pattern α Unit
  | [] => [((), [])]
  | a :: s => if c a then greedy c s ++ [((), a :: s)] else [((), a :: s)]

/-- Anything, as little as possible, captured. -/
def lazy : Pattern α (List α)
  | [] => [([], [])]
  | a :: s => ([], a :: s) :: (lazy s).map fun r => (a :: r.1, r.2)

/-- One pattern and then another, with the capture of the second. -/
def andThen (p : Pattern α β) (q : Pattern α γ) : Pattern α γ :=
  fun s => (p s).flatMap fun r => q r.2

/-- One pattern and then another, with the capture of the first. -/
def before (p : Pattern α β) (q : Pattern α γ) : Pattern α β :=
  fun s => (p s).flatMap fun r => (q r.2).map fun r' => (r.1, r'.2)

/-- The capture of the leftmost match. -/
def search (p : Pattern α β) : List α → Option β
  | [] => (p []).head?.map Prod.fst
  | a :: s =>
      match p (a :: s) with
      | r :: _ => some r.1
      | [] => search p s

/-- The matches one behind the other, the first not within the next `skip` entries. -/
def findallFrom (p : Pattern α β) : Nat → List α → List β
  | _, [] => []
  | skip + 1, _ :: s => findallFrom p skip s
  | 0, a :: s =>
      match p (a :: s) with
      | r :: _ => r.1 :: findallFrom p (s.length - r.2.length) s
      | [] => findallFrom p 0 s

/-- The captures of the matches that do not overlap, for a pattern that matches no empty part. -/
def findall (p : Pattern α β) : List α → List β := findallFrom p 0

/-! ## The preferred way -/

variable {p : Pattern α β} {q : Pattern α γ} {s : List α} {c : α → Bool}

theorem head?_andThen {r : β × List α} {r' : γ × List α} (hp : (p s).head? = some r)
    (hq : (q r.2).head? = some r') : (andThen p q s).head? = some r' := by
  obtain ⟨rs, hrs⟩ := List.head?_eq_some_iff.mp hp
  rw [andThen, hrs, List.flatMap_cons, List.head?_append, hq]
  rfl

theorem andThen_eq_nil (hp : p s = []) : andThen p q s = [] := by
  rw [andThen, hp, List.flatMap_nil]

theorem head?_literal [DecidableEq α] (w s : List α) :
    (literal w (w ++ s)).head? = some ((), s) := by
  simp [literal]

theorem head?_exactly {l : List α} (hl : l.all c = true) :
    (exactly l.length c (l ++ s)).head? = some (l, s) := by
  simp [exactly, hl]

theorem literal_eq_nil [DecidableEq α] {w : List α} (h : ¬ w <+: s) : literal w s = [] :=
  if_neg h

theorem head?_greedy {l : List α} (hl : ∀ a ∈ l, c a = true) (hs : ∀ a ∈ s.head?, c a = false) :
    (greedy c (l ++ s)).head? = some ((), s) := by
  induction l with
  | nil =>
      cases s with
      | nil => rfl
      | cons a s =>
          have ha : c a = false := hs a rfl
          simp [greedy, ha]
  | cons a l ih =>
      have ha : c a = true := hl a List.mem_cons_self
      have hrest := ih fun b hb => hl b (List.mem_cons_of_mem _ hb)
      rw [List.cons_append, greedy, if_pos ha, List.head?_append, hrest]
      rfl

theorem lazy_before_cons (a : α) :
    before lazy q (a :: s) =
      (q (a :: s)).map (fun r => ([], r.2)) ++
        (before lazy q s).map fun r => (a :: r.1, r.2) := by
  simp [before, lazy, List.flatMap_map, List.map_flatMap, Function.comp_def]

/-- The lazy pattern ends at the first entry with which the pattern behind it can begin. -/
theorem head?_lazy_before [DecidableEq α] {b : α} {w l : List α} (hb : b ∉ l) :
    (before lazy (literal (b :: w)) (l ++ (b :: w ++ s))).head? = some (l, s) := by
  induction l with
  | nil =>
      rw [List.nil_append, List.cons_append, lazy_before_cons, ← List.cons_append,
        List.head?_append, List.head?_map, head?_literal]
      rfl
  | cons a l ih =>
      have hhere : ¬ b :: w <+: a :: (l ++ (b :: w ++ s)) := by
        intro h
        have hba : b = a := (List.cons_prefix_cons.mp h).1
        exact hb (hba ▸ List.mem_cons_self)
      have hrest := ih fun h => hb (List.mem_cons_of_mem _ h)
      rw [List.cons_append, lazy_before_cons, literal_eq_nil hhere, List.map_nil, List.nil_append,
        List.head?_map, hrest]
      rfl

/-! ## Searching -/

theorem search_of_head? {r : β × List α} (h : (p s).head? = some r) : search p s = some r.1 := by
  obtain ⟨rs, hrs⟩ := List.head?_eq_some_iff.mp h
  cases s with
  | nil => rw [search, h, Option.map_some]
  | cons a s => rw [search, hrs]

theorem search_cons_of_eq_nil {a : α} (h : p (a :: s) = []) : search p (a :: s) = search p s := by
  rw [search, h]

/-- Where a sequence is cut at `b`, an infix without `b` is on one side. -/
theorem prefix_of_prefix_append {b : α} {w l : List α} (hb : b ∉ w) (h : w <+: l ++ b :: s) :
    w <+: l := by
  rcases List.prefix_or_prefix_of_prefix h (List.prefix_append l (b :: s)) with hleft | ⟨t, rfl⟩
  · exact hleft
  · have ht : t <+: b :: s := (List.prefix_append_right_inj l).mp h
    cases t with
    | nil => simp
    | cons a t =>
        have hab : a = b := (List.cons_prefix_cons.mp ht).1
        simp [hab] at hb

/-- A line that does not hold the literal is passed over. -/
theorem search_line [DecidableEq α] {b : α} {w l : List α} (hw : w ≠ []) (hb : b ∉ w)
    (hl : ¬ w <:+: l) :
    search (andThen (literal w) q) (l ++ b :: s) = search (andThen (literal w) q) s := by
  induction l with
  | nil =>
      have hhere : ¬ w <+: b :: s := fun h => hw (List.prefix_nil.mp (prefix_of_prefix_append hb h))
      exact search_cons_of_eq_nil (andThen_eq_nil (literal_eq_nil hhere))
  | cons a l ih =>
      have hhere : ¬ w <+: a :: (l ++ b :: s) := fun h =>
        hl (prefix_of_prefix_append (l := a :: l) hb h).isInfix
      have hrest : ¬ w <:+: l := fun h => hl (h.trans (List.suffix_cons a l).isInfix)
      rw [List.cons_append, search_cons_of_eq_nil (andThen_eq_nil (literal_eq_nil hhere)),
        ih hrest]

/-- What comes in front of the first entry of the literal is passed over. -/
theorem search_append [DecidableEq α] {b : α} {w l : List α} (hb : b ∉ l) :
    search (andThen (literal (b :: w)) q) (l ++ s) = search (andThen (literal (b :: w)) q) s := by
  induction l with
  | nil => rfl
  | cons a l ih =>
      have hhere : ¬ b :: w <+: a :: (l ++ s) := by
        intro h
        have hba : b = a := (List.cons_prefix_cons.mp h).1
        exact hb (hba ▸ List.mem_cons_self)
      rw [List.cons_append, search_cons_of_eq_nil (andThen_eq_nil (literal_eq_nil hhere)),
        ih fun h => hb (List.mem_cons_of_mem _ h)]

/-! ## Finding all matches -/

theorem findallFrom_append (l s : List α) : findallFrom p l.length (l ++ s) = findall p s := by
  induction l with
  | nil => rfl
  | cons a l ih => exact ih

theorem findall_of_head? {b : β} {l : List α} (hl : l ≠ []) (h : (p (l ++ s)).head? = some (b, s)) :
    findall p (l ++ s) = b :: findall p s := by
  obtain ⟨rs, hrs⟩ := List.head?_eq_some_iff.mp h
  cases l with
  | nil => exact absurd rfl hl
  | cons a l =>
      rw [List.cons_append] at hrs ⊢
      rw [findall, findallFrom, hrs]
      have hskip : (l ++ s).length - s.length = l.length := by simp
      simp only [hskip, findallFrom_append]
      rfl

/-- Entries at which the pattern cannot begin are passed over. -/
theorem findall_append {l : List α} (h : ∀ a ∈ l, ∀ t, p (a :: t) = []) :
    findall p (l ++ s) = findall p s := by
  induction l with
  | nil => rfl
  | cons a l ih =>
      have hhere : p (a :: (l ++ s)) = [] := h a List.mem_cons_self _
      rw [List.cons_append, findall, findallFrom, hhere]
      exact ih fun b hb => h b (List.mem_cons_of_mem _ hb)

end Regex
