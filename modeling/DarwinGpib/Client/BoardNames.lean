import DarwinGpib.Client.Bench
import DarwinGpib.Client.GoodReplies
import DarwinGpib.Client.StatusMirrors
import Mathlib.Data.List.TakeWhile

/-!
# Names of boards

`ibfind` documents "gpib0".."gpibN" and bare numbers, and reads names with `atoi`, which takes any
string.
-/

namespace DarwinGpib

open Interaction

namespace Libgpib

/-! ## Names -/

/-- The number that a run of digits stands for. -/
def decimal (digits : List Char) : Nat := digits.foldl (fun n c => 10 * n + (c.toNat - 48)) 0

/-- A documented name, with the board that it names. -/
def Documented (name : List Char) (n : Nat) : Prop :=
  ∃ digits, digits ≠ [] ∧ (∀ c ∈ digits, c.isDigit = true) ∧
    (name = ['g', 'p', 'i', 'b'] ++ digits ∨ name = digits) ∧ decimal digits = n ∧
      (n : Int) < maxBoards.toInt

/-- What is behind the prefix of a name. -/
def numberPart : List Char → List Char
  | 'g' :: 'p' :: 'i' :: 'b' :: cs => cs
  | cs => cs

/-- The number that a string begins with, behind blanks and a sign; without digits it is 0. -/
def leadingNumber (s : List Char) : Int :=
  match s.dropWhile fun c => c = ' ' ∨ (9 ≤ c.toNat ∧ c.toNat ≤ 13) with
  | '-' :: cs => -decimal (cs.takeWhile Char.isDigit)
  | '+' :: cs => decimal (cs.takeWhile Char.isDigit)
  | cs => decimal (cs.takeWhile Char.isDigit)

/-- A number that is clamped to a `long` and then cut to an `int` is a board index. -/
def FitsBoards (z : Int) : Prop :=
  max (-2 ^ 63) (min z (2 ^ 63 - 1)) % 2 ^ 32 < maxBoards.toInt

/-- A name behaves as documented: it is accepted as the board it names, or refused with `EDVR`
before anything is asked. -/
def AsDocumented (name : List Char) (u : Trace BrokerCall.Reply) (ret : Int32) (p' : Process) :
    Prop :=
  (∀ n, Documented name n → ret = Int32.ofNat n) ∧
    ((¬ ∃ n, Documented name n) →
      ret = -1 ∧ p'.ibsta &&& Ibsta.err ≠ 0 ∧ p'.iberr = Iberr.edvr ∧ u = [])

/-! ## Reading numbers -/

theorem digitsValue_eq (n : Nat) (s : List Char) :
    digitsValue n s = (s.takeWhile Char.isDigit).foldl (fun n c => 10 * n + (c.toNat - 48)) n := by
  induction s generalizing n with
  | nil => rfl
  | cons c cs ih =>
      by_cases hc : c.isDigit = true
      · rw [digitsValue, if_pos hc, ih, List.takeWhile_cons_of_pos hc, List.foldl_cons]
      · rw [digitsValue, if_neg hc, List.takeWhile_cons_of_neg hc, List.foldl_nil]

section LeadingNumber

variable {s cs : List Char}

theorem leadingNumber_minus
    (h : (s.dropWhile fun c => c = ' ' ∨ (9 ≤ c.toNat ∧ c.toNat ≤ 13)) = '-' :: cs) :
    leadingNumber s = -decimal (cs.takeWhile Char.isDigit) := by
  simp only [leadingNumber, h]

theorem leadingNumber_plus
    (h : (s.dropWhile fun c => c = ' ' ∨ (9 ≤ c.toNat ∧ c.toNat ≤ 13)) = '+' :: cs) :
    leadingNumber s = decimal (cs.takeWhile Char.isDigit) := by
  simp only [leadingNumber, h]

theorem leadingNumber_unsigned
    (hminus : ∀ ds, (s.dropWhile fun c => c = ' ' ∨ (9 ≤ c.toNat ∧ c.toNat ≤ 13)) ≠ '-' :: ds)
    (hplus : ∀ ds, (s.dropWhile fun c => c = ' ' ∨ (9 ≤ c.toNat ∧ c.toNat ≤ 13)) ≠ '+' :: ds) :
    leadingNumber s = decimal ((s.dropWhile fun c =>
      c = ' ' ∨ (9 ≤ c.toNat ∧ c.toNat ≤ 13)).takeWhile Char.isDigit) := by
  rw [leadingNumber]
  split
  · exact absurd ‹_› (hminus _)
  · exact absurd ‹_› (hplus _)
  · rfl

end LeadingNumber

theorem atoi_eq (s : List Char) :
    atoi s = Int32.ofInt (max (-2 ^ 63) (min (leadingNumber s) (2 ^ 63 - 1))) := by
  have hvalue (cs : List Char) : digitsValue 0 cs = decimal (cs.takeWhile Char.isDigit) :=
    digitsValue_eq 0 cs
  have hmin (n : Nat) :
      max (-(n : Int)) (-2 ^ 63) = max (-2 ^ 63) (min (-(n : Int)) (2 ^ 63 - 1)) := by
    omega
  have hmax (n : Nat) :
      min (n : Int) (2 ^ 63 - 1) = max (-2 ^ 63) (min (n : Int) (2 ^ 63 - 1)) := by
    omega
  rw [atoi]
  split
  · rename_i cs hminus
    rw [leadingNumber_minus hminus, hvalue]
    exact congrArg Int32.ofInt (hmin _)
  · rename_i cs hplus
    rw [leadingNumber_plus hplus, hvalue]
    exact congrArg Int32.ofInt (hmax _)
  · rename_i hminus hplus
    rw [leadingNumber_unsigned hminus hplus, hvalue]
    exact congrArg Int32.ofInt (hmax _)

theorem inRange_ofInt {z : Int} :
    inRange (Int32.ofInt z) = true ↔ z % 2 ^ 32 < maxBoards.toInt := by
  have hmax : maxBoards.toInt = 16 := by decide
  have hzero : (0 : Int32).toInt = 0 := by decide
  rw [inRange, Bool.and_eq_true, decide_eq_true_iff, decide_eq_true_iff, Int32.le_iff_toInt_le,
    Int32.lt_iff_toInt_lt, hmax, hzero, Int32.toInt_ofInt]
  have hbmod : z.bmod Int32.size = z.bmod (2 ^ 32) := rfl
  rw [hbmod, Int.bmod_def]
  split <;> omega

theorem boardIndexOf_eq (name : List Char) : boardIndexOf name = atoi (numberPart name) := by
  unfold boardIndexOf
  split
  · rfl
  · rename_i hprefix
    rw [numberPart]
    exact hprefix

theorem inRange_boardIndexOf {name : List Char} :
    inRange (boardIndexOf name) = true ↔ FitsBoards (leadingNumber (numberPart name)) := by
  rw [boardIndexOf_eq, atoi_eq, inRange_ofInt, FitsBoards]

/-- A run of digits is the number it stands for. -/
theorem leadingNumber_digits {digits : List Char} (hne : digits ≠ [])
    (hdigits : ∀ c ∈ digits, c.isDigit = true) : leadingNumber digits = decimal digits := by
  obtain ⟨c, cs, rfl⟩ := List.exists_cons_of_ne_nil hne
  have hc := hdigits c List.mem_cons_self
  have hblank : ¬ decide (c = ' ' ∨ 9 ≤ c.toNat ∧ c.toNat ≤ 13) = true := by
    rw [decide_eq_true_iff, not_or]
    refine ⟨fun h => ?_, fun h => ?_⟩
    · rw [h] at hc
      cases hc
    · have hge : 48 ≤ c.val.toNat := by
        simp only [Char.isDigit, Bool.and_eq_true, decide_eq_true_eq] at hc
        exact UInt32.le_iff_toNat_le.mp hc.1
      exact absurd h.2 (Nat.not_le.mpr (Nat.lt_of_lt_of_le (by decide) hge))
  have hkept : (c :: cs).dropWhile (fun c => c = ' ' ∨ (9 ≤ c.toNat ∧ c.toNat ≤ 13)) = c :: cs :=
    List.dropWhile_cons_of_neg hblank
  have hunsigned := leadingNumber_unsigned (s := c :: cs)
  rw [hkept] at hunsigned
  rw [hunsigned, List.takeWhile_eq_self_iff.mpr hdigits]
  · rintro ds ⟨⟩
    cases hc
  · rintro ds ⟨⟩
    cases hc

theorem numberPart_digits {digits : List Char} (hdigits : ∀ c ∈ digits, c.isDigit = true) :
    numberPart digits = digits := by
  unfold numberPart
  split
  · exact absurd (hdigits 'g' List.mem_cons_self) (by decide)
  · rfl

/-- A documented name is read as the board it names. -/
theorem Documented.leadingNumber_eq {name : List Char} {n : Nat} (h : Documented name n) :
    leadingNumber (numberPart name) = n := by
  obtain ⟨digits, hne, hdigits, hname, rfl, -⟩ := h
  have hpart : numberPart name = digits := by
    rcases hname with rfl | rfl
    · rfl
    · exact numberPart_digits hdigits
  rw [hpart, leadingNumber_digits hne hdigits]

/-! ## Finding boards -/

section Find

variable {name : List Char} {p p' : Process} {u : Trace BrokerCall.Reply} {ret : Int32}

/-- A name that is empty, or whose number is out of range, is refused without a word. -/
theorem run_ibfind_refused (h : name = [] ∨ ¬ FitsBoards (leadingNumber (numberPart name)))
    (hrun : Run ((ibfind (some name)).run p) u (ret, p')) : ret = -1 ∧ u = [] ∧ p' = p := by
  cases name with
  | nil =>
      obtain ⟨rfl, heq⟩ := run_stateT_pure_iff.mp hrun
      cases heq
      exact ⟨rfl, rfl, rfl⟩
  | cons c cs =>
      have hi : ¬ inRange (boardIndexOf (c :: cs)) = true :=
        mt inRange_boardIndexOf.mp (h.resolve_left (List.cons_ne_nil c cs))
      obtain ⟨hu, hret, hp⟩ := run_boardHandle_bind hi hrun rfl
      exact ⟨hret, hu, hp⟩

/-- Every other name is the board of its number. -/
theorem run_ibfind_found (hne : name ≠ []) (hfits : FitsBoards (leadingNumber (numberPart name)))
    (hrun : Run ((ibfind (some name)).run p) u (ret, p')) (h : ∀ e ∈ u, Succeeds e) :
    ret = boardIndexOf name := by
  obtain ⟨c, cs, rfl⟩ := List.exists_cons_of_ne_nil hne
  have hi := inRange_boardIndexOf.mpr hfits
  have hfound : Triple (fun (_ : Unit) e _ => Succeeds e) (fun _ _ => True)
      (ibfind (some (c :: cs))) fun ret _ _ => ret = boardIndexOf (c :: cs) := by
    refine triple_bind (goingWell_boardHandle (fun _ _ _ h => h) hi) fun handle => ?_
    refine triple_ite (fun hneg => ?_) fun _ => ?_
    · exact fun p d u a p' d' hle => absurd hneg (Int32.not_lt.mpr hle)
    · exact triple_bind (Q := fun _ _ _ => True) (triple_trivial _) fun _ =>
        triple_pure fun _ _ _ => rfl
  exact hfound p () u ret p' () trivial hrun (serves_of_forall h)

theorem Documented.fitsBoards {n : Nat} (h : Documented name n) :
    FitsBoards (leadingNumber (numberPart name)) := by
  have hlt : (n : Int) < maxBoards.toInt := h.choose_spec.2.2.2.2
  have hmax : maxBoards.toInt = 16 := by decide
  rw [h.leadingNumber_eq, FitsBoards]
  omega

theorem Documented.boardIndexOf_eq {n : Nat} (h : Documented name n) :
    boardIndexOf name = Int32.ofNat n := by
  have hlt : (n : Int) < maxBoards.toInt := h.choose_spec.2.2.2.2
  have hmax : maxBoards.toInt = 16 := by decide
  have hclamp : max (-2 ^ 63) (min (n : Int) (2 ^ 63 - 1)) = n := by omega
  rw [Libgpib.boardIndexOf_eq, atoi_eq, h.leadingNumber_eq, hclamp]
  rfl

theorem Documented.ne_nil {n : Nat} (h : Documented name n) : name ≠ [] := by
  rintro rfl
  obtain ⟨digits, hne, -, hname, -, -⟩ := h
  rcases hname with hname | rfl
  · cases hname
  · exact hne rfl

/-- With every board reachable, a name is taken as documented just when it is documented; or when
it is refused and the status vector happens to say `EDVR` already. -/
theorem names_taken_as_documented_iff
    (hrun : Run ((ibfind (some name)).run p) u (ret, p')) (h : ∀ e ∈ u, Succeeds e) :
    AsDocumented name u ret p' ↔
      (∃ n, Documented name n) ∨
        (name = [] ∨ ¬ FitsBoards (leadingNumber (numberPart name))) ∧
          p.ibsta &&& Ibsta.err ≠ 0 ∧ p.iberr = Iberr.edvr := by
  by_cases hrefused : name = [] ∨ ¬ FitsBoards (leadingNumber (numberPart name))
  · obtain ⟨rfl, rfl, rfl⟩ := run_ibfind_refused hrefused hrun
    have hnot : ¬ ∃ n, Documented name n := fun ⟨n, hn⟩ =>
      hrefused.elim hn.ne_nil fun hout => hout hn.fitsBoards
    constructor
    · intro hdoc
      obtain ⟨-, hsta, herr, -⟩ := hdoc.2 hnot
      exact .inr ⟨hrefused, hsta, herr⟩
    · rintro (hn | ⟨-, hsta, herr⟩)
      · exact absurd hn hnot
      · exact ⟨fun n hn => absurd ⟨n, hn⟩ hnot, fun _ => ⟨rfl, hsta, herr, rfl⟩⟩
  · obtain ⟨hne, hfits⟩ := not_or.mp hrefused
    rw [not_not] at hfits
    obtain rfl := run_ibfind_found hne hfits hrun h
    constructor
    · intro hdoc
      by_contra hnot
      obtain ⟨hret, -⟩ := hdoc.2 fun hn => hnot (.inl hn)
      have hi := inRange_boardIndexOf.mpr hfits
      rw [hret] at hi
      cases hi
    · rintro (⟨n, hn⟩ | ⟨hout, -⟩)
      · refine ⟨fun m hm => hm.boardIndexOf_eq, fun hnot => absurd ⟨n, hn⟩ hnot⟩
      · exact absurd hout hrefused

end Find

/-! ## A word -/

theorem succeeds_lookupTrace : ∀ e ∈ lookupTrace, Succeeds e := by
  intro e he
  simp only [lookupTrace, List.mem_cons, List.not_mem_nil, or_false] at he
  rcases he with rfl | rfl | rfl
  · rfl
  · rfl
  · exact ⟨rfl, by decide⟩

theorem not_documented_foo : ¬ ∃ n, Documented ['f', 'o', 'o'] n := by
  rintro ⟨n, digits, -, hdigits, hname | rfl, -⟩
  · cases hname
  · exact absurd (hdigits 'f' List.mem_cons_self) (by decide)

/-- A name without digits is taken for board 0. -/
theorem word_taken_for_board :
    ∃ p', Run ((ibfind (some ['f', 'o', 'o'])).run Process.init) lookupTrace (0, p') ∧
      (∀ e ∈ lookupTrace, Succeeds e) ∧ ¬ AsDocumented ['f', 'o', 'o'] lookupTrace 0 p' := by
  have hrun : Run ((ibfind (some ['f', 'o', 'o'])).run Process.init) lookupTrace
      (0, { foundProcess with ibsta := Ibsta.cmpl ||| Ibsta.cic ||| Ibsta.rem }) :=
    .ask (.ask (.ask (.pure _)))
  exact ⟨_, hrun, succeeds_lookupTrace,
    fun hdoc => absurd (hdoc.2 not_documented_foo).1 (by decide)⟩

/-- "gpib0" is documented. -/
theorem names_taken_as_documented_gpib0 :
    ∃ p', Run ((ibfind (some ['g', 'p', 'i', 'b', '0'])).run Process.init) lookupTrace (0, p') ∧
      (AsDocumented ['g', 'p', 'i', 'b', '0'] lookupTrace 0 p' ↔
        (∃ n, Documented ['g', 'p', 'i', 'b', '0'] n) ∨
          (['g', 'p', 'i', 'b', '0'] = ([] : List Char) ∨
            ¬ FitsBoards (leadingNumber (numberPart ['g', 'p', 'i', 'b', '0']))) ∧
              Process.init.ibsta &&& Ibsta.err ≠ 0 ∧ Process.init.iberr = Iberr.edvr) := by
  have hrun : Run ((ibfind (some ['g', 'p', 'i', 'b', '0'])).run Process.init) lookupTrace
      (0, { foundProcess with ibsta := Ibsta.cmpl ||| Ibsta.cic ||| Ibsta.rem }) :=
    .ask (.ask (.ask (.pure _)))
  exact ⟨_, hrun, names_taken_as_documented_iff hrun succeeds_lookupTrace⟩

end Libgpib

end DarwinGpib
