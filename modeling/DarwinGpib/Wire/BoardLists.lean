import DarwinGpib.App.Adapters
import DarwinGpib.Wire.Refinement
import Mathlib.Data.List.TakeWhile

/-!
# Lists of boards

The broker finds a board by its index, lists the boards in bytes that the library reads, and the
app walks the registry on its own. All three name the same service by the same index.
-/

namespace DarwinGpib

open Interaction

/-! ## The broker -/

namespace Gpibd

theorem copyServiceLoop_eq (board index k : Int) (hk : board = index + 1 + k) (hpos : 0 ≤ k)
    (registry : List RegistryEntry) :
    copyServiceLoop board index registry = (ours registry)[k.toNat]? := by
  induction registry generalizing index k with
  | nil => rfl
  | cons service rest ih =>
      rw [copyServiceLoop]
      by_cases h : isOurs service = true
      · rw [if_pos h, ours_cons_of_isOurs h]
        by_cases hzero : k = 0
        · subst hzero
          rw [if_pos (by omega)]
          rfl
        · have hsucc : k.toNat = (k - 1).toNat + 1 := by omega
          rw [if_neg (by omega), ih (index + 1) (k - 1) (by omega) (by omega), hsucc,
            List.getElem?_cons_succ]
      · rw [if_neg h, ours_cons_of_not h, ih index k hk hpos]

/-- The service of a board is the one that its index counts. -/
theorem copyServiceForBoard_eq (registry : List RegistryEntry) (i : Nat) :
    copyServiceForBoard registry i = (ours registry)[i]? := by
  rw [copyServiceForBoard, copyServiceLoop_eq i (-1) i (by omega) (by omega), Int.toNat_natCast]

/-- What the list holds for a service. -/
def infoOf (i : Nat) (userClass : String) : BoardInfo :=
  ⟨UInt32.ofNat i, buffer (printed modelMax (cString (modelForUserClass userClass)))⟩

/-- The list of services of these classes. -/
def BoardList.of (userClasses : List String) : BoardList where
  count := UInt32.ofNat userClasses.length
  boards i := (userClasses[i.val]?.map (infoOf i)).getD ⟨0, buffer []⟩

theorem BoardList.count_of {names : List String} (h : names.length ≤ maxBoards) :
    (BoardList.of names).count.toNat = names.length := by
  have hmax : maxBoards = 16 := rfl
  rw [BoardList.of, UInt32.toNat_ofNat', Nat.mod_eq_of_lt (by omega)]

theorem BoardList.boards_of (names : List String) (i : Fin maxBoards) :
    (BoardList.of names).boards i = (names[i.val]?.map (infoOf i)).getD ⟨0, buffer []⟩ :=
  rfl

theorem BoardList.push_of {names : List String} (h : names.length < maxBoards) (name : String) :
    (BoardList.of names).push name = BoardList.of (names ++ [name]) := by
  have hcount := BoardList.count_of h.le
  have hlength : UInt32.ofNat names.length + 1 = UInt32.ofNat (names ++ [name]).length := by
    rw [List.length_append, List.length_singleton, UInt32.ofNat_add]
    rfl
  have hboards (i : Fin maxBoards) : ((BoardList.of names).push name).boards i =
      (BoardList.of (names ++ [name])).boards i := by
    simp only [BoardList.push, hcount, BoardList.boards_of]
    by_cases hi : i.val = names.length
    · rw [if_pos hi, hi, List.getElem?_concat_length]
      rfl
    · rw [if_neg hi]
      by_cases hlt : i.val < names.length
      · rw [List.getElem?_append_left hlt]
      · rw [List.getElem?_eq_none (by omega), List.getElem?_eq_none (by simp; omega)]
  rw [show BoardList.of (names ++ [name]) = ⟨_, (BoardList.of (names ++ [name])).boards⟩ from rfl,
    ← hlength, ← funext hboards]
  rfl

/-- The classes of the services of ours. -/
def classes (registry : List RegistryEntry) : List String :=
  (ours registry).map fun service => service.userClass.getD ""

theorem enumerateLoop_of {names : List String} (h : names.length ≤ maxBoards)
    (registry : List RegistryEntry) :
    enumerateLoop (.of names) registry = .of ((names ++ classes registry).take maxBoards) := by
  induction registry generalizing names with
  | nil => rw [enumerateLoop, classes, ours_nil, List.map_nil, List.append_nil,
      List.take_of_length_le h]
  | cons service rest ih =>
      rw [enumerateLoop, BoardList.count_of h]
      by_cases hroom : names.length < maxBoards
      · rw [if_pos hroom]
        cases hclass : service.userClass with
        | none =>
            have hours : ¬ isOurs service = true := by simp [isOurs, hclass]
            simp only [ih h, classes, ours_cons_of_not hours]
        | some name =>
            by_cases hmem : userClasses.contains name = true
            · have hours : isOurs service = true := by simp only [isOurs, hclass, hmem]
              have hnext : (names ++ [name]).length ≤ maxBoards := by
                rw [List.length_append]
                exact hroom
              simp only [hmem, if_true, BoardList.push_of hroom, ih hnext, classes,
                ours_cons_of_isOurs hours, List.map_cons, hclass, Option.getD_some,
                List.append_assoc, List.singleton_append]
            · have hours : ¬ isOurs service = true := by simpa only [isOurs, hclass] using hmem
              simp only [hmem, Bool.false_eq_true, if_false, ih h, classes, ours_cons_of_not hours]
      · have hfull : names.length = maxBoards := by omega
        rw [if_neg hroom, List.take_append_of_le_length hfull.ge, List.take_of_length_le h]

theorem enumerateServices_eq (registry : List RegistryEntry) :
    enumerateServices registry = .of ((classes registry).take maxBoards) :=
  have hnone : ([] : List String).length ≤ maxBoards := Nat.zero_le _
  enumerateLoop_of hnone registry

/-! ## Strings in buffers -/

theorem ofFn_buffer {n : Nat} {s : List UInt8} (h : s.length ≤ n) :
    List.ofFn (buffer s : Fin n → UInt8) = s ++ List.replicate (n - s.length) 0 := by
  apply List.ext_getElem?
  intro i
  by_cases hi : i < n
  · rw [List.getElem?_ofFn, dif_pos hi, buffer, List.getD_eq_getElem?_getD]
    change some (s[i]?.getD 0) = _
    by_cases hs : i < s.length
    · rw [List.getElem?_append_left hs, List.getElem?_eq_getElem hs, Option.getD_some]
    · rw [List.getElem?_append_right (by omega), List.getElem?_eq_none (by omega),
        List.getElem?_replicate_of_lt (by omega), Option.getD_none]
  · rw [List.getElem?_eq_none (by simpa using hi), List.getElem?_eq_none (by simp; omega)]

/-- What is printed into a buffer is printed from it again. -/
theorem printed_ofFn_buffer {n : Nat} (hn : 0 < n) (s : List UInt8) :
    printed n (List.ofFn (buffer (printed n s) : Fin n → UInt8)) = printed n s := by
  have hlength : (printed n s).length ≤ n - 1 := List.length_take_le _ _
  have hterminated (b : UInt8) (hb : b ∈ printed n s) : decide (b ≠ 0) = true := by
    have hmem : b ∈ s.takeWhile (· ≠ 0) := List.mem_of_mem_take hb
    exact List.mem_takeWhile_imp (p := fun b : UInt8 => decide (b ≠ 0)) hmem
  rw [printed.eq_1 n (List.ofFn _), ofFn_buffer (by omega),
    List.takeWhile_append_of_pos hterminated]
  simp [hlength]

/-- The names of our models fit. -/
theorem printed_model {userClass : String} (h : userClass ∈ userClasses) :
    printed modelMax (cString (modelForUserClass userClass)) =
      cString (modelForUserClass userClass) := by
  simp only [userClasses, List.mem_cons, List.not_mem_nil, or_false] at h
  rcases h with rfl | rfl | rfl <;> rfl

theorem mem_userClasses_of_ours {registry : List RegistryEntry} {service : RegistryEntry}
    (h : service ∈ ours registry) : ∃ name ∈ userClasses, service.userClass = some name := by
  have hours : isOurs service = true := (List.mem_filter.mp h).2
  unfold isOurs at hours
  cases hclass : service.userClass with
  | none => simp [hclass] at hours
  | some name => exact ⟨name, by simpa [hclass] using hours, rfl⟩

/-! ## The list message -/

/-- Where the boards are enumerated, they are those of this registry. -/
def Enumerates (registry : List RegistryEntry) (e : Exchange BrokerOp.Reply) : Prop :=
  ∀ list : List UInt8, e = ⟨BrokerOp.enumerateBoards, list⟩ →
    list = BoardList.layout.encode (enumerateServices registry)

/-- The broker answers a message. -/
def Lists (registry : List RegistryEntry)
    (e : Exchange fun _ : Message => Option Answer) : Prop :=
  ∃ v a, Run (handleRequest e.request) v a ∧ e.reply = some a ∧ ∀ x ∈ v, Enumerates registry x

theorem exists_lists (registry : List RegistryEntry) (m : Message) :
    ∃ reply, Lists registry ⟨m, reply⟩ := by
  have hanswer (q : BrokerOp) : ∃ r : q.Reply, Enumerates registry ⟨q, r⟩ := by
    cases q with
    | enumerateBoards =>
        refine ⟨BoardList.layout.encode (enumerateServices registry), fun list h => ?_⟩
        cases h
        rfl
    | connectionForBoard _ => exact ⟨(0 : Int64), fun _ h => by cases h⟩
    | callStructMethod _ _ _ _ => exact ⟨((0, []) : Int32 × List UInt8), fun _ h => by cases h⟩
    | dropBoard _ | sessionAddDesc _ _ | sessionForgetDesc _ _ =>
        exact ⟨(), fun _ h => by cases h⟩
  obtain ⟨v, a, hrun, hv⟩ := exists_run (Enumerates registry) hanswer (handleRequest m)
  exact ⟨some a, v, a, hrun, rfl, hv⟩

theorem reply_of_lists {registry : List RegistryEntry} {reply : Option Answer} {outSize : Nat}
    (hsize : outSize ≤ maxOut)
    (h : Lists registry ⟨Libgpib.message 0 opListBoards [] outSize, reply⟩) :
    reply = some ⟨0, some (BoardList.layout.encode (enumerateServices registry)), none⟩ := by
  obtain ⟨v, a, hrun, rfl, hlist⟩ := h
  have hcap : ¬ maxOut < (UInt64.ofNat outSize).toNat := by
    have hmax : maxOut = 1048576 := rfl
    rw [UInt64.toNat_ofNat', Nat.mod_eq_of_lt (by omega)]
    omega
  rcases run_guard_iff.mp hrun with ⟨hlarge, -⟩ | ⟨-, hrun⟩
  · exact absurd hlarge hcap
  rcases run_ite_iff.mp hrun with ⟨-, hrun⟩ | ⟨hother, -⟩
  · obtain ⟨list, w, rfl, hw⟩ := run_call_bind_iff.mp hrun
    obtain ⟨rfl, rfl⟩ := run_pure_iff.mp hw
    rw [← hlist _ List.mem_cons_self list rfl]
  · exact absurd rfl hother

end Gpibd

/-! ## The library and the app -/

namespace Libgpib

open Gpibd

theorem boardInfo_infoOf {i : Nat} {name : String} (h : name ∈ userClasses) :
    boardInfo (infoOf i name) =
      ⟨(UInt32.ofNat i).toInt32, cString (modelForUserClass name)⟩ := by
  rw [boardInfo, infoOf, printed_ofFn_buffer (by decide), printed_model h]

theorem size_boardList : BoardList.layout.size = 1092 := by
  simp [BoardList.layout, BoardInfo.layout, modelMax, Gpibd.maxBoards]

/-- The count that is read from a full list, cut to what the caller has room for. -/
def countFor (max : Int32) (n : Nat) : Int32 :=
  if max < Int32.ofNat n then max else Int32.ofNat n

theorem toInt_countFor (max : Int32) {n : Nat} (h : n ≤ Gpibd.maxBoards) :
    (countFor max n).toInt = min max.toInt n := by
  have hlimit : Gpibd.maxBoards = 16 := rfl
  have hn : (Int32.ofNat n).toInt = n := Int32.toInt_ofNat_of_lt (by omega)
  unfold countFor
  split
  · next hlt =>
      rw [Int32.lt_iff_toInt_lt, hn] at hlt
      omega
  · next hle =>
      rw [Int32.lt_iff_toInt_lt, hn] at hle
      omega

/-- What the library makes of the list that the broker sends. -/
theorem run_listBoards {registry : List RegistryEntry} {before : BoardList} {max : Int32}
    {u : Trace fun _ : Message => Option Answer} {r : Int32 × List BoardInfo}
    (hmax : 0 < max) (hrun : Run (listBoards before max) u r) (hu : ∀ e ∈ u, Lists registry e) :
    r = (countFor max (min Gpibd.maxBoards (ours registry).length),
      ((List.ofFn (enumerateServices registry).boards).take
        (countFor max (min Gpibd.maxBoards (ours registry).length)).toInt.toNat).map boardInfo) := by
  have hpos : ¬ max ≤ 0 := Int32.not_le.mpr hmax
  rcases run_guard_iff.mp hrun with ⟨hneg, -⟩ | ⟨-, hrun⟩
  · exact absurd hneg hpos
  obtain ⟨v, x, w, rfl, hv, hw⟩ := run_bind_iff.mp hrun
  obtain ⟨reply, rfl, rfl⟩ := run_sendMessage_iff.mp hv
  have hsize : BoardList.layout.size ≤ maxOut := by
    rw [size_boardList]
    decide
  obtain rfl := reply_of_lists hsize (hu ⟨_, reply⟩ (List.mem_append_left w List.mem_cons_self))
  set list := enumerateServices registry with hlist
  have hgot : ((some (BoardList.layout.encode list)).getD []).take BoardList.layout.size =
      BoardList.layout.encode list := by
    rw [Option.getD_some, List.take_of_length_le (BoardList.layout.length_encode list).le]
  simp only [received, hgot] at hw
  rcases run_guard_iff.mp hw with ⟨hbad, -⟩ | ⟨-, hw⟩
  · rw [BoardList.layout.length_encode, size_boardList] at hbad
    exact absurd hbad (by decide)
  have hrest : (BoardList.layout.encode before).drop (BoardList.layout.encode list).length = [] := by
    rw [BoardList.layout.length_encode, ← BoardList.layout.length_encode before, List.drop_length]
  simp only [hrest, List.append_nil, Layout.decode_encode] at hw
  obtain ⟨rfl, rfl⟩ := run_pure_iff.mp hw
  have hcount : list.count.toInt32 =
      Int32.ofNat (min Gpibd.maxBoards (ours registry).length) := by
    rw [hlist, enumerateServices_eq, BoardList.of, List.length_take, classes, List.length_map]
    rfl
  have hfits : ¬ (Gpibd.maxBoards : Int) <
      (Int32.ofNat (min Gpibd.maxBoards (ours registry).length)).toInt := by
    rw [Int32.toInt_ofNat_of_lt (by have : Gpibd.maxBoards = 16 := rfl; omega)]
    omega
  rw [hcount, if_neg hfits]
  rfl

/-- The entry of a service of ours. -/
theorem entry_of_ours {registry : List RegistryEntry} {i : Nat} {service : RegistryEntry}
    (hi : i < Gpibd.maxBoards) (h : (ours registry)[i]? = some service) :
    ∃ name ∈ userClasses, service.userClass = some name ∧
      boardInfo ((enumerateServices registry).boards ⟨i, hi⟩) =
        ⟨Int32.ofNat i, cString (modelForUserClass name)⟩ := by
  obtain ⟨name, hname, hclass⟩ := mem_userClasses_of_ours (List.mem_of_getElem? h)
  refine ⟨name, hname, hclass, ?_⟩
  have hlisted : ((classes registry).take Gpibd.maxBoards)[i]? = some name := by
    rw [List.getElem?_take_of_lt hi, classes, List.getElem?_map, h, Option.map_some, hclass,
      Option.getD_some]
  rw [enumerateServices_eq, BoardList.boards_of, hlisted, Option.map_some, Option.getD_some,
    boardInfo_infoOf hname]
  rfl

/-- The list that the library hands out has an entry for each board that there is room for. The
broker finds a board's service by the index of its entry, the entry has its model, and the app
lists its adapter under that index. -/
theorem boards_named_alike {registry : List RegistryEntry} {before : BoardList} {max : Int32}
    {u : Trace fun _ : Message => Option Answer} {r : Int32 × List BoardInfo}
    (hmax : 0 < max) (hrun : Run (listBoards before max) u r) (hu : ∀ e ∈ u, Lists registry e)
    (capitalized : String → String) :
    r.1.toInt = r.2.length ∧
      r.2.length = min max.toInt.toNat (min Gpibd.maxBoards (ours registry).length) ∧
      ∀ (i : Nat) info, r.2[i]? = some info → ∃ service userClass adapter,
        copyServiceForBoard registry i = some service ∧ service.userClass = some userClass ∧
          info = ⟨Int32.ofNat i, cString (modelForUserClass userClass)⟩ ∧
          (GPIBDiscovery.adapters capitalized registry)[i]? = some adapter ∧
          adapter.boardIndex = i ∧ adapter.id = userClass ++ "#" ++ toString i := by
  have hpos := Int32.lt_iff_toInt_lt.mp hmax
  have hcount := toInt_countFor max (Nat.min_le_left Gpibd.maxBoards (ours registry).length)
  rw [run_listBoards hmax hrun hu]
  have hlimit : Gpibd.maxBoards = 16 := rfl
  have hzero : Int32.toInt 0 = 0 := rfl
  set k := countFor max (min Gpibd.maxBoards (ours registry).length)
  have hlength : (((List.ofFn (enumerateServices registry).boards).take k.toInt.toNat).map
      boardInfo).length = k.toInt.toNat := by
    rw [List.length_map, List.length_take, List.length_ofFn]
    omega
  have hlengthInt : k.toInt = (k.toInt.toNat : Int) := by omega
  refine ⟨by rw [hlength]; exact hlengthInt, by rw [hlength]; omega, fun i info hinfo => ?_⟩
  have hi : i < k.toInt.toNat := by
    obtain ⟨hlt, -⟩ := List.getElem?_eq_some_iff.mp hinfo
    rwa [hlength] at hlt
  have hmem : i < (ours registry).length := by omega
  have hours : (ours registry)[i]? = some (ours registry)[i] := List.getElem?_eq_getElem hmem
  obtain ⟨name, -, hclass, hentry⟩ := entry_of_ours (show i < Gpibd.maxBoards by omega) hours
  obtain ⟨adapter, hadapter⟩ := GPIBDiscovery.adapter_of_ours capitalized hours hclass
  refine ⟨(ours registry)[i], name, adapter, ?_, hclass, ?_, hadapter⟩
  · rw [copyServiceForBoard_eq, hours]
  · rw [List.getElem?_map, List.getElem?_take_of_lt hi, List.getElem?_ofFn,
      dif_pos (show i < Gpibd.maxBoards by omega), Option.map_some, hentry] at hinfo
    exact (Option.some.inj hinfo).symm

/-- A service of someone else's between two adapters. -/
def threeServices : List RegistryEntry :=
  [⟨some "ni_usb", []⟩, ⟨some "storage", []⟩, ⟨some "kusb_488b", [(some "KUSB-488B", none)]⟩]

theorem boards_named_alike_threeServices :
    ∃ u r, Run (listBoards .zero 4) u r ∧ (∀ e ∈ u, Lists threeServices e) ∧ r.2.length = 2 ∧
      r.2[1]? = some ⟨1, cString "Keithley KUSB-488B"⟩ := by
  obtain ⟨u, r, hrun, hu⟩ := exists_run (Lists threeServices) (exists_lists threeServices)
    (listBoards .zero 4)
  obtain ⟨-, hlength, hnamed⟩ := boards_named_alike (by decide) hrun hu id
  have htwo : r.2.length = 2 := by
    rw [hlength]
    rfl
  have hsecond : r.2[1]? = some r.2[1] := List.getElem?_eq_getElem (by omega)
  obtain ⟨service, name, -, hservice, hclass, hinfo, -⟩ := hnamed 1 r.2[1] hsecond
  have hfound : copyServiceForBoard threeServices (1 : Nat) =
      some ⟨some "kusb_488b", [(some "KUSB-488B", none)]⟩ := rfl
  rw [hfound] at hservice
  cases hservice
  cases hclass
  exact ⟨u, r, hrun, hu, htwo, by rw [hsecond, hinfo]; rfl⟩

end Libgpib

end DarwinGpib
