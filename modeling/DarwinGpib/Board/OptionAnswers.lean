import DarwinGpib.Board.SharedStatus
import Mathlib.Algebra.Group.Nat.Defs

/-!
# What `configure` stores and `ask` answers

The setter and the getter are two switches over the same option numbers. What an option was set
to is followed through the table, over every run of operations, to a later question; the getter
knows four of the eight options that the setter takes.
-/

namespace DarwinGpib

open Interaction Behaviour

/-! ## Options -/

/-- The options that `ask` has a case for. -/
def Answerable (option : UInt32) : Prop :=
  option = Ibc.pad ∨ option = Ibc.sad ∨ option = Ibc.eot ∨ option = Ibc.eosChar

instance (option : UInt32) : Decidable (Answerable option) :=
  inferInstanceAs (Decidable (_ ∨ _ ∨ _ ∨ _))

/-- The values that an option can hold, every legal one among them. -/
structure FitsOption (option : UInt32) (value : Int32) : Prop where
  pad : option = Ibc.pad → 0 ≤ value ∧ value.toInt ≤ 31
  sad : option = Ibc.sad → -128 ≤ value.toInt ∧ value.toInt < 128
  eot : option = Ibc.eot → value = 0 ∨ value = 1
  eosChar : option = Ibc.eosChar → 0 ≤ value ∧ value.toInt ≤ 255

namespace DescriptorOptions

variable {o o' : DescriptorOptions} {key option : UInt32} {value : Int32}

theorem asked_isSome_iff : (o.asked option).isSome ↔ Answerable option := by
  unfold asked Answerable
  split_ifs <;> simp [*]

theorem asked_eq_none (h : ¬ Answerable option) : o.asked option = none := by
  rw [← Option.not_isSome_iff_eq_none]
  exact mt asked_isSome_iff.mp h

theorem exists_ofNat_of_le {m : Nat} (hpos : 0 ≤ value) (hle : value.toInt ≤ m)
    (hm : m < 2 ^ 31) : ∃ n ≤ m, value = Int32.ofNat n := by
  have hnonneg := Int32.le_iff_toInt_le.mp hpos
  change 0 ≤ value.toInt at hnonneg
  refine ⟨value.toInt.toNat, by omega, ?_⟩
  apply Int32.toInt_inj.mp
  rw [Int32.toInt_ofNat_of_lt (by omega)]
  omega

/-- Five bits hold a primary address. -/
theorem pad_of_le (hpos : 0 ≤ value) (hle : value.toInt ≤ 31) :
    (value &&& 0x1f).toUInt32.toUInt8.toUInt32.toInt32 = value := by
  have hall : ∀ n ≤ 31,
      (Int32.ofNat n &&& 0x1f).toUInt32.toUInt8.toUInt32.toInt32 = Int32.ofNat n := by decide
  obtain ⟨n, hn, rfl⟩ := exists_ofNat_of_le hpos hle (by decide)
  exact hall n hn

theorem eosChar_of_le (hpos : 0 ≤ value) (hle : value.toInt ≤ 255) :
    (value &&& 0xff).toUInt32.toUInt8.toUInt32.toInt32 = value := by
  have hall : ∀ n ≤ 255,
      (Int32.ofNat n &&& 0xff).toUInt32.toUInt8.toUInt32.toInt32 = Int32.ofNat n := by
    decide +kernel
  obtain ⟨n, hn, rfl⟩ := exists_ofNat_of_le hpos hle (by decide)
  exact hall n hn

theorem sad_of_le (hle : -128 ≤ value.toInt) (hlt : value.toInt < 128) :
    value.toInt8.toInt32 = value := by
  apply Int32.toInt_inj.mp
  rw [Int8.toInt_toInt32, Int32.toInt_toInt8]
  exact Int.bmod_eq_of_le (by omega) (by omega)

/-- An option that has an answer has the value that was stored for it. -/
theorem asked_configured (h : o.configured key value = some o') (hkey : Answerable key)
    (hvalue : FitsOption key value) : o'.asked key = some value := by
  rcases hkey with rfl | rfl | rfl | rfl
  · cases h
    obtain ⟨hpos, hle⟩ := hvalue.pad rfl
    exact congrArg some (pad_of_le hpos hle)
  · cases h
    obtain ⟨hle, hlt⟩ := hvalue.sad rfl
    exact congrArg some (sad_of_le hle hlt)
  · cases h
    rcases hvalue.eot rfl with rfl | rfl
    · rfl
    · rfl
  · cases h
    obtain ⟨hpos, hle⟩ := hvalue.eosChar rfl
    exact congrArg some (eosChar_of_le hpos hle)

/-- Storing one option leaves the answers for all others as they were. -/
theorem asked_configured_of_ne (h : o.configured key value = some o') (hne : option ≠ key) :
    o'.asked option = o.asked option := by
  unfold configured at h
  unfold asked
  split_ifs at h <;> cases h <;> simp_all

end DescriptorOptions

/-! ## Answers -/

namespace GPIBBoard

variable {b b' b₀ : GPIBBoard} {e : Event} {past : List (GPIBBoard × Event)} {handle : Int}
  {key option : UInt32} {value : Int32}

/-- The answer that the table has for an option of a handle. -/
def answer (b : GPIBBoard) (handle : Int) (option : UInt32) : Option Int32 :=
  (b.descriptors.slots handle).bind (·.asked option)

theorem answer_eq_of_slots (h : b'.descriptors.slots handle = b.descriptors.slots handle) :
    b'.answer handle option = b.answer handle option := by
  rw [answer, h, answer]

theorem answer_eq_none (h : ¬ Answerable option) : b.answer handle option = none := by
  rw [answer, Option.bind_eq_none_iff]
  exact fun o _ => DescriptorOptions.asked_eq_none h

/-- `ask` by what the slot of the handle holds. -/
theorem ask_eq (b : GPIBBoard) (handle : Int) (option : UInt32) : (b.ask handle option).1 =
    match b.descriptors.slots handle, b.answer handle option with
    | none, _ => (0, ⟨Ibsta.err, Iberr.earg⟩)
    | some _, none => (0, ⟨Ibsta.err, Iberr.ecap⟩)
    | some _, some v => (v, ⟨Ibsta.cmpl, 0⟩) := by
  unfold ask answer DescriptorTable.slots
  cases hd : b.descriptors.descriptorFor handle with
  | none => rfl
  | some d =>
      cases hv : d.asked option with
      | none => simp [hv]
      | some v => simp [hv]

/-- `ask` gives the answer of the table, or an error. -/
theorem ask_eq_iff : (b.ask handle option).1 = (value, ⟨Ibsta.cmpl, 0⟩) ↔
    b.answer handle option = some value := by
  rw [ask_eq]
  cases hslot : b.descriptors.slots handle with
  | none => simp [answer, hslot, Ibsta.err, Ibsta.cmpl]
  | some o =>
      cases hv : b.answer handle option with
      | none => simp [Ibsta.err, Ibsta.cmpl]
      | some v => simp

theorem performs_configure (b : GPIBBoard) (handle : Int) (key : UInt32) (value : Int32) :
    b.Performs ⟨.configure handle key value, [], .status (b.configure handle key value).1⟩
      (b.configure handle key value).2 :=
  ⟨0, .pure _⟩

theorem performs_ask (b : GPIBBoard) (handle : Int) (option : UInt32) :
    b.Performs ⟨.ask handle option, [],
      .asked (b.ask handle option).1.1 (b.ask handle option).1.2⟩ (b.ask handle option).2 :=
  ⟨0, .pure _⟩

theorem result_of_ask {calls : BoardTrace} {r : BoardResult}
    (h : b.Performs ⟨.ask handle option, calls, r⟩ b') :
    r = .asked (b.ask handle option).1.1 (b.ask handle option).1.2 := by
  obtain ⟨fuel, hrun⟩ := h
  cases (run_pure_iff.mp hrun).2
  rfl

/-! ## One operation -/

/-- What an option of a handle is set to after an event that does not configure it: a descriptor
that is issued brings its own setting, and one that is closed has none. -/
def Event.setting (e : Event) (handle : Int) (option : UInt32) (before : Option Int32) :
    Option Int32 :=
  match e.op, e.result with
  | .openDescriptor o, .opened handle' _ => if handle' = handle then o.asked option else before
  | .closeDescriptor handle', _ => if handle' = handle then none else before
  | _, _ => before

theorem Event.setting_of_opensOrCloses (h : e.op.opensOrCloses = false) (before : Option Int32) :
    e.setting handle option before = before := by
  obtain ⟨op, calls, r⟩ := e
  cases op with
  | openDescriptor o => cases h
  | closeDescriptor handle' => cases h
  | _ => rfl

/-- An operation that is not a configuration of the option leaves the answer, unless it issues or
closes the handle. -/
theorem Affects.answer_eq (h : b.Affects e b') (hhandle : handle ≠ -1)
    (hop : ∀ v, e.op ≠ .configure handle option v) :
    b'.answer handle option = e.setting handle option (b.answer handle option) := by
  cases h with
  | @opened o j hfree =>
      change _ = if _ then _ else _
      rw [answer, DescriptorTable.slots_fill]
      by_cases heq : (DescriptorTable.usable j).val = handle
      · rw [if_pos heq, ← heq, Function.update_self, Option.bind_some]
      · rw [if_neg heq, Function.update_of_ne (Ne.symm heq), answer]
  | full => exact (if_neg (Ne.symm hhandle)).symm
  | @closed handle' d hd =>
      change _ = if _ then _ else _
      rw [answer, DescriptorTable.slots_closeDescriptor]
      by_cases heq : handle' = handle
      · rw [if_pos heq, ← heq, SlotTable.release_self, Option.bind_none]
      · rw [if_neg heq, SlotTable.release_of_ne (Ne.symm heq), answer]
  | @configured handle' key v d o hd ho =>
      rw [Event.setting_of_opensOrCloses rfl, answer, answer, DescriptorTable.slots_configure hd]
      by_cases heq : handle' = handle
      · subst heq
        have hne : option ≠ key := by
          rintro rfl
          exact hop v rfl
        rw [Function.update_self, DescriptorTable.slots, hd]
        exact DescriptorOptions.asked_configured_of_ne ho hne
      · rw [Function.update_of_ne (Ne.symm heq)]
  | @unknown op handle' r _ hchecked hd hr hb' =>
      have hkept : b'.answer handle option = b.answer handle option :=
        answer_eq_of_slots (by rw [hb'])
      rw [hkept]
      cases op with
      | openDescriptor o => cases hchecked
      | closeDescriptor handle'' =>
          cases hchecked
          change _ = if _ then _ else _
          by_cases heq : handle' = handle
          · rw [if_pos heq, answer, ← heq, DescriptorTable.descriptorFor_eq_none_iff.mp hd,
              Option.bind_none]
          · rw [if_neg heq]
      | _ => rfl
  | @other op calls r _ hother hd hr hb' =>
      have hkept : b'.answer handle option = b.answer handle option :=
        answer_eq_of_slots (by rw [hb'])
      rw [hkept, Event.setting_of_opensOrCloses hother]

/-! ## Runs -/

/-- What an option of a handle is set to after a history, given what it was set to before. -/
def settingAfter (handle : Int) (option : UInt32) (before : Option Int32) :
    List (GPIBBoard × Event) → Option Int32
  | [] => before
  | (_, e) :: past => e.setting handle option (settingAfter handle option before past)

theorem answer_eq_settingAfter (h : History (· = b₀) Performs past b) (hhandle : handle ≠ -1)
    (hops : ∀ x ∈ past, ∀ v, x.2.op ≠ .configure handle option v) :
    b.answer handle option = settingAfter handle option (b₀.answer handle option) past := by
  induction h with
  | start h => rw [h, settingAfter]
  | step h hstep ih =>
      obtain ⟨hlast, hpast⟩ := List.forall_mem_cons.mp hops
      rw [(affects_of_performs hstep).answer_eq hhandle hlast, ih hpast, settingAfter]

/-- A configuration that succeeds stores its option in an open slot. -/
theorem slots_of_configured {calls : BoardTrace} {st : Status}
    (h : b.Performs ⟨.configure handle key value, calls, .status st⟩ b')
    (hst : st.ibsta = Ibsta.cmpl) :
    ∃ o o', b.descriptors.slots handle = some o ∧ o.configured key value = some o' ∧
      b'.descriptors.slots = Function.update b.descriptors.slots handle (some o') := by
  have herr : Ibsta.err ≠ Ibsta.cmpl := by decide
  obtain ⟨fuel, hrun⟩ := h
  have heq := (run_pure_iff.mp hrun).2
  cases hd : b.descriptors.descriptorFor handle with
  | none =>
      simp only [hd] at heq
      cases heq
      exact absurd hst herr
  | some d =>
      cases ho : d.configured key value with
      | none =>
          simp only [hd, ho] at heq
          cases heq
          exact absurd hst herr
      | some o' =>
          simp only [hd, ho] at heq
          cases heq
          refine ⟨d.toDescriptorOptions, o', ?_, ho, DescriptorTable.slots_configure hd o'⟩
          rw [DescriptorTable.slots, hd, Option.map_some]

/-- Storing an option changes no other answer. -/
theorem ask_of_configured {calls : BoardTrace} {st : Status}
    (h : b.Performs ⟨.configure handle key value, calls, .status st⟩ b')
    (hst : st.ibsta = Ibsta.cmpl) {handle' : Int} (hne : (handle', option) ≠ (handle, key)) :
    (b'.ask handle' option).1 = (b.ask handle' option).1 := by
  obtain ⟨o, o', hslot, ho, hslots⟩ := slots_of_configured h hst
  by_cases heq : handle' = handle
  · subst heq
    have hoption : option ≠ key := fun heq => hne (by rw [heq])
    have hslot' : b'.descriptors.slots handle' = some o' := by
      rw [hslots, Function.update_self]
    have hanswer : b'.answer handle' option = b.answer handle' option := by
      rw [answer, answer, hslot, hslot', Option.bind_some, Option.bind_some,
        DescriptorOptions.asked_configured_of_ne ho hoption]
    rw [ask_eq, ask_eq, hslot, hslot', hanswer]
    cases b.answer handle' option <;> rfl
  · have hslot' : b'.descriptors.slots handle' = b.descriptors.slots handle' := by
      rw [hslots, Function.update_of_ne heq]
    rw [ask_eq, ask_eq, hslot', answer_eq_of_slots hslot']

/-- An option that was set is answered with its value exactly when `ask` knows it and the handle
is still the descriptor's, or another's with the same setting; and setting it changes the answer
for no other option. -/
theorem configured_options_answered {b₁ b₂ b₃ : GPIBBoard} {calls calls' : BoardTrace}
    {st : Status} {r : BoardResult} {between : List (GPIBBoard × Event)}
    (hset : b.Performs ⟨.configure handle key value, calls, .status st⟩ b₁)
    (hst : st.ibsta = Ibsta.cmpl) (hvalue : FitsOption key value)
    (hbetween : History (· = b₁) Performs between b₂)
    (hops : ∀ x ∈ between, ∀ v, x.2.op ≠ .configure handle key v)
    (hask : b₂.Performs ⟨.ask handle key, calls', r⟩ b₃) :
    (r = .asked value ⟨Ibsta.cmpl, 0⟩ ↔
      Answerable key ∧ settingAfter handle key (some value) between = some value) ∧
      ∀ handle' option, (handle', option) ≠ (handle, key) →
        (b₁.ask handle' option).1 = (b.ask handle' option).1 := by
  refine ⟨?_, fun handle' option hne => ask_of_configured hset hst hne⟩
  obtain ⟨o, o', hslot, ho, hslots⟩ := slots_of_configured hset hst
  have hanswered : r = .asked value ⟨Ibsta.cmpl, 0⟩ ↔ b₂.answer handle key = some value := by
    rw [result_of_ask hask, ← ask_eq_iff, BoardResult.asked.injEq, Prod.ext_iff]
  rw [hanswered]
  by_cases hkey : Answerable key
  · have hhandle : handle ≠ -1 := by
      rintro rfl
      cases hslot
    have hstored : b₁.answer handle key = some value := by
      rw [answer, hslots, Function.update_self, Option.bind_some]
      exact DescriptorOptions.asked_configured ho hkey hvalue
    rw [answer_eq_settingAfter hbetween hhandle hops, hstored, and_iff_right hkey]
  · rw [answer_eq_none hkey]
    exact iff_of_false nofun fun h => hkey h.1

/-! ## A descriptor at 5 -/

/-- Its address is changed and asked for, and its EOT mode is what it was. -/
theorem configured_options_answered_padSix :
    ((boardAtFive.configure 1 Ibc.pad 6).2.ask 1 Ibc.pad).1 = (6, ⟨Ibsta.cmpl, 0⟩) ∧
      ((boardAtFive.configure 1 Ibc.pad 6).2.ask 1 Ibc.eot).1 =
        (boardAtFive.ask 1 Ibc.eot).1 := by
  have hvalue : FitsOption Ibc.pad 6 := ⟨by decide, by decide, by decide, by decide⟩
  obtain ⟨hanswered, hothers⟩ := configured_options_answered
    (performs_configure boardAtFive 1 Ibc.pad 6) rfl hvalue (.start rfl) (by simp)
    (performs_ask _ 1 Ibc.pad)
  have hasked := hanswered.mpr ⟨by decide, rfl⟩
  rw [BoardResult.asked.injEq] at hasked
  exact ⟨Prod.ext hasked.1 hasked.2, hothers 1 Ibc.eot (by decide)⟩

/-- A timeout is set, and `ask` has no case for it. -/
theorem timeouts_not_answered :
    (∃ past, BoardHistory past boardAtFive) ∧ FitsOption Ibc.tmo 11 ∧
      boardAtFive.Performs ⟨.configure 1 Ibc.tmo 11, [], .status ⟨Ibsta.cmpl, 0⟩⟩
        (boardAtFive.configure 1 Ibc.tmo 11).2 ∧
      (boardAtFive.configure 1 Ibc.tmo 11).2.Performs
        ⟨.ask 1 Ibc.tmo, [], .asked 0 ⟨Ibsta.err, Iberr.ecap⟩⟩
        ((boardAtFive.configure 1 Ibc.tmo 11).2.ask 1 Ibc.tmo).2 :=
  ⟨boardHistory_atFive, ⟨by decide, by decide, by decide, by decide⟩,
    performs_configure boardAtFive 1 Ibc.tmo 11, performs_ask _ 1 Ibc.tmo⟩

end GPIBBoard

end DarwinGpib
