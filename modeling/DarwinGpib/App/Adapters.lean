import DarwinGpib.Model.Discovery

/-!
# The adapters that the app lists

The app walks the registry for itself. Its adapters are the services of ours in their order, each
under its own index and its own identity, and models that occur more than once are numbered.
-/

namespace DarwinGpib

/-! ## The walk -/

namespace Gpibd

/-- The services that the walks look for, in registry order. -/
def ours (registry : List RegistryEntry) : List RegistryEntry := registry.filter isOurs

@[simp] theorem ours_nil : ours [] = [] := rfl

theorem ours_cons_of_isOurs {service : RegistryEntry} (h : isOurs service = true)
    (rest : List RegistryEntry) : ours (service :: rest) = service :: ours rest :=
  List.filter_cons_of_pos h

theorem ours_cons_of_not {service : RegistryEntry} (h : ¬ isOurs service = true)
    (rest : List RegistryEntry) : ours (service :: rest) = ours rest :=
  List.filter_cons_of_neg h

end Gpibd

namespace GPIBDiscovery

open Gpibd

variable {capitalized : String → String} {as : List GPIBAdapter} {counts : String → Nat}

/-- The app knows the classes that the broker knows, by the same models. -/
theorem lookup_knownAdapters (name : String) :
    knownAdapters.lookup name =
      if userClasses.contains name then some (modelForUserClass name) else none := by
  by_cases h₁ : name = "kusb_488b"
  · subst h₁
    rfl
  by_cases h₂ : name = "ni_usb"
  · subst h₂
    rfl
  by_cases h₃ : name = "agilent_82357"
  · subst h₃
    rfl
  have hnone (other : String) (h : ¬ name = other) : (name == other) = false :=
    beq_eq_false_iff_ne.mpr h
  simp [knownAdapters, userClasses, List.lookup_cons, hnone _ h₁, hnone _ h₂, hnone _ h₃, h₁, h₂, h₃]

/-- The adapter of a service of a class. -/
def adapterOf (capitalized : String → String) (service : RegistryEntry) (index : Nat) :
    GPIBAdapter :=
  let userClass := service.userClass.getD ""
  { id := userClass ++ "#" ++ toString index
    modelName := (usbProductName capitalized service).getD (modelForUserClass userClass)
    boardIndex := index }

theorem adaptersLoop_eq (index : Nat) (registry : List RegistryEntry) :
    adaptersLoop capitalized index registry =
      ((ours registry).zipIdx index).map fun s => adapterOf capitalized s.1 s.2 := by
  induction registry generalizing index with
  | nil => rfl
  | cons service rest ih =>
      rw [adaptersLoop]
      cases hclass : service.userClass with
      | none =>
          have hours : ¬ isOurs service = true := by simp [isOurs, hclass]
          simp only [ih index, ours_cons_of_not hours]
      | some name =>
          simp only [lookup_knownAdapters]
          by_cases hmem : userClasses.contains name = true
          · have hours : isOurs service = true := by simp only [isOurs, hclass, hmem]
            simp only [hmem, if_true, ih (index + 1), ours_cons_of_isOurs hours,
              List.zipIdx_cons, List.map_cons, adapterOf, hclass, Option.getD_some]
          · have hours : ¬ isOurs service = true := by simpa only [isOurs, hclass] using hmem
            simp only [hmem, Bool.false_eq_true, if_false, ih index, ours_cons_of_not hours]

/-! ## Ordinals -/

/-- How many adapters are of a model. -/
def ofModel (model : String) (adapters : List GPIBAdapter) : Nat :=
  adapters.countP fun a => a.modelName = model

/-- What a count by `Function.update` comes to. -/
theorem foldl_counts (seen : String → Nat) (model : String) :
    (as.foldl (fun counts adapter =>
      Function.update counts adapter.modelName (counts adapter.modelName + 1)) seen) model =
      seen model + ofModel model as := by
  induction as generalizing seen with
  | nil => rfl
  | cons a rest ih =>
      rw [List.foldl_cons, ih, ofModel, ofModel, List.countP_cons]
      by_cases h : a.modelName = model
      · subst h
        rw [Function.update_self, if_pos (by simp)]
        omega
      · rw [Function.update_of_ne (Ne.symm h), if_neg (by simpa using h), Nat.add_zero]

theorem ofModel_cons (a : GPIBAdapter) (model : String) :
    ofModel model (a :: as) = ofModel model as + if a.modelName = model then 1 else 0 := by
  simp only [ofModel, List.countP_cons, decide_eq_true_eq]

/-- An adapter behind so many of its model, numbered where its model occurs more than once. -/
def numbered (counts : String → Nat) (before : Nat) (a : GPIBAdapter) : GPIBAdapter :=
  if 1 < counts a.modelName then { a with ordinal := some (before + 1) } else a

section Numbered

variable (counts) (before : Nat) (a : GPIBAdapter)

@[simp] theorem numbered_id : (numbered counts before a).id = a.id := by
  unfold numbered
  split <;> rfl

@[simp] theorem numbered_modelName : (numbered counts before a).modelName = a.modelName := by
  unfold numbered
  split <;> rfl

@[simp] theorem numbered_boardIndex : (numbered counts before a).boardIndex = a.boardIndex := by
  unfold numbered
  split <;> rfl

end Numbered

theorem getElem?_ordinalsLoop (seen : String → Nat) (i : Nat) :
    (ordinalsLoop counts seen as)[i]? = as[i]?.map fun a =>
      numbered counts (seen a.modelName + ofModel a.modelName (as.take i)) a := by
  induction as generalizing seen i with
  | nil => simp [ordinalsLoop]
  | cons a rest ih =>
      rw [ordinalsLoop]
      cases i with
      | zero =>
          by_cases h : 1 < counts a.modelName
          · simp [h, numbered, ofModel]
          · simp [h, numbered]
      | succ i =>
          by_cases h : 1 < counts a.modelName
          · rw [if_pos h, List.getElem?_cons_succ, List.getElem?_cons_succ, ih]
            congr 1
            funext b
            rw [List.take_succ_cons, ofModel_cons]
            by_cases hb : a.modelName = b.modelName
            · rw [if_pos hb, ← hb, Function.update_self]
              congr 1
              omega
            · rw [if_neg hb, Function.update_of_ne (Ne.symm hb), Nat.add_zero]
          · rw [if_neg h, List.getElem?_cons_succ, List.getElem?_cons_succ, ih]
            congr 1
            funext b
            rw [List.take_succ_cons, ofModel_cons]
            by_cases hb : a.modelName = b.modelName
            · rw [numbered, numbered, ← hb, if_neg h, if_neg h]
            · rw [if_neg hb, Nat.add_zero]

/-! ## What is listed -/

variable {registry : List RegistryEntry} {i j : Nat} {a b : GPIBAdapter}

/-- The adapters before they are numbered. -/
def found (capitalized : String → String) (registry : List RegistryEntry) : List GPIBAdapter :=
  adaptersLoop capitalized 0 registry

theorem getElem?_found :
    (found capitalized registry)[i]? =
      (ours registry)[i]?.map fun service => adapterOf capitalized service i := by
  simp only [found, adaptersLoop_eq, List.getElem?_map, List.getElem?_zipIdx, Option.map_map,
    Nat.zero_add]
  rfl

/-- How many of the adapters that are found are of a model, and how many before index `i`. -/
def foundOf (capitalized : String → String) (registry : List RegistryEntry) (model : String) : Nat :=
  ofModel model (found capitalized registry)

def foundBefore (capitalized : String → String) (registry : List RegistryEntry) (i : Nat)
    (model : String) : Nat :=
  ofModel model ((found capitalized registry).take i)

theorem getElem?_adapters :
    (adapters capitalized registry)[i]? = (found capitalized registry)[i]?.map fun a =>
      numbered (foundOf capitalized registry) (foundBefore capitalized registry i a.modelName) a := by
  have hcounts : (found capitalized registry).foldl (fun counts adapter =>
      Function.update counts adapter.modelName (counts adapter.modelName + 1)) (fun _ => 0) =
      foundOf capitalized registry := by
    funext model
    rw [foldl_counts, Nat.zero_add, foundOf]
  rw [adapters, ← found, applyOrdinals, hcounts, getElem?_ordinalsLoop]
  simp only [Nat.zero_add]
  rfl

/-- The app lists a service of ours by its index. -/
theorem adapter_of_ours (capitalized : String → String) {service : RegistryEntry} {name : String}
    (h : (ours registry)[i]? = some service) (hclass : service.userClass = some name) :
    ∃ adapter, (adapters capitalized registry)[i]? = some adapter ∧ adapter.boardIndex = i ∧
      adapter.id = name ++ "#" ++ toString i := by
  refine ⟨_, by rw [getElem?_adapters, getElem?_found, h, Option.map_some, Option.map_some], ?_⟩
  simp [adapterOf, hclass]

/-- An adapter that is listed was found at its place. -/
theorem listed (h : (adapters capitalized registry)[i]? = some a) :
    ∃ service, (ours registry)[i]? = some service ∧
      a = numbered (foundOf capitalized registry)
        (foundBefore capitalized registry i a.modelName) (adapterOf capitalized service i) := by
  rw [getElem?_adapters, getElem?_found, Option.map_map, Option.map_eq_some_iff] at h
  obtain ⟨service, hours, rfl⟩ := h
  exact ⟨service, hours, by simp⟩

/-- Numbers are told apart by their digits. -/
theorem toString_inj {m n : Nat} (h : (toString m).toList = (toString n).toList) : m = n := by
  have hdigits (k : Nat) : Nat.ofDigitChars 10 (toString k).toList 0 = k := by
    rw [Nat.toString_eq_repr, Nat.toList_repr, Nat.ofDigitChars_ten_toDigits]
  rw [← hdigits m, h, hdigits]

theorem isDigit_of_mem_toString {c : Char} {n : Nat} (h : c ∈ (toString n).toList) :
    c.isDigit = true := by
  rw [Nat.toString_eq_repr, Nat.toList_repr] at h
  exact Nat.isDigit_of_mem_toDigits (by decide) (by decide) h

/-- A number behind a character that is no digit is read off the end. -/
theorem number_at_end {xs ys : List Char} {c : Char} (hc : c.isDigit = false)
    (h : xs ++ c :: (toString i).toList = ys ++ c :: (toString j).toList) : i = j := by
  have hread (zs : List Char) (n : Nat) :
      (zs ++ c :: (toString n).toList).reverse.takeWhile Char.isDigit =
        (toString n).toList.reverse := by
    rw [List.reverse_append, List.reverse_cons, List.append_assoc,
      List.takeWhile_append_of_pos fun d hd => isDigit_of_mem_toString (List.mem_reverse.mp hd)]
    simp [hc]
  have hdigits := congrArg (fun l => l.reverse.takeWhile Char.isDigit) h
  simp only [hread, List.reverse_inj] at hdigits
  exact toString_inj hdigits

/-- A number behind a model makes another title. -/
theorem displayName_numbered {before : Nat} (h : b.ordinal = none) :
    (numbered counts before b).displayName = b.modelName ↔ ¬ 1 < counts b.modelName := by
  unfold numbered
  split
  · next hmany =>
      refine iff_of_false (fun hname => ?_) (not_not.mpr hmany)
      have hlength := congrArg String.length hname
      have hpos : 0 < " (".length := by decide
      simp only [GPIBAdapter.displayName, String.length_append] at hlength
      omega
  · next hone => exact iff_of_true (by rw [GPIBAdapter.displayName, h]) hone

theorem displayName_injective (h : a.modelName = b.modelName)
    (hname : a.displayName = b.displayName) (ha : a.ordinal.isSome) (hb : b.ordinal.isSome) :
    a.ordinal = b.ordinal := by
  obtain ⟨m, hm⟩ := Option.isSome_iff_exists.mp ha
  obtain ⟨n, hn⟩ := Option.isSome_iff_exists.mp hb
  simp only [GPIBAdapter.displayName, hm, hn, h] at hname
  have hlists := congrArg String.toList hname
  simp only [String.toList_append, List.append_assoc, List.append_cancel_left_eq] at hlists
  rw [hm, hn, toString_inj (List.append_cancel_right hlists)]

theorem nodup_of_getElem? {α : Type} {l : List α}
    (h : ∀ (i j : Nat) x, l[i]? = some x → l[j]? = some x → i = j) : l.Nodup := by
  rw [List.nodup_iff_getElem?_ne_getElem?]
  intro i j hij hj heq
  have hget : l[j]? = some l[j] := List.getElem?_eq_getElem hj
  exact hij.ne (h i j l[j] (heq.trans hget) hget)

theorem id_injective (ha : (adapters capitalized registry)[i]? = some a)
    (hb : (adapters capitalized registry)[j]? = some b) (h : a.id = b.id) : i = j := by
  obtain ⟨s, -, heqa⟩ := listed ha
  obtain ⟨t, -, heqb⟩ := listed hb
  rw [heqa, heqb, numbered_id, numbered_id] at h
  have hlists := congrArg String.toList h
  simp only [adapterOf, String.toList_append] at hlists
  exact number_at_end (c := '#') (by decide) (by simpa using hlists)

/-- The adapters of a model are counted up. -/
theorem foundBefore_lt (ha : (found capitalized registry)[i]? = some a) (hij : i < j) :
    foundBefore capitalized registry i a.modelName < foundBefore capitalized registry j a.modelName := by
  have hnext : ofModel a.modelName ((found capitalized registry).take (i + 1)) =
      foundBefore capitalized registry i a.modelName + 1 := by
    rw [List.take_add_one, ha, ofModel, List.countP_append]
    simp [foundBefore, ofModel]
  have hsub : ((found capitalized registry).take (i + 1)).Sublist
      ((found capitalized registry).take j) := List.take_sublist_take_left hij
  have hle := hsub.countP_le (p := fun b => decide (b.modelName = a.modelName))
  rw [foundBefore, foundBefore] at *
  unfold ofModel at *
  omega

theorem foundBefore_lt_foundOf (ha : (found capitalized registry)[i]? = some a) :
    foundBefore capitalized registry i a.modelName < foundOf capitalized registry a.modelName := by
  obtain ⟨hlt, -⟩ := List.getElem?_eq_some_iff.mp ha
  have hall := foundBefore_lt ha hlt
  rwa [foundBefore, foundBefore, List.take_length] at hall

theorem ordinal_of_found (h : (found capitalized registry)[i]? = some a) : a.ordinal = none := by
  rw [getElem?_found, Option.map_eq_some_iff] at h
  obtain ⟨service, -, rfl⟩ := h
  rfl

/-- An adapter that is listed, as it was found. -/
theorem found_of_listed (h : (adapters capitalized registry)[i]? = some a) :
    ∃ b, (found capitalized registry)[i]? = some b ∧ b.modelName = a.modelName ∧
      a = numbered (foundOf capitalized registry)
        (foundBefore capitalized registry i b.modelName) b := by
  rw [getElem?_adapters, Option.map_eq_some_iff] at h
  obtain ⟨b, hb, rfl⟩ := h
  exact ⟨b, hb, by simp, rfl⟩

/-- A later adapter of the same model has another title. -/
theorem displayName_ne (ha : (adapters capitalized registry)[i]? = some a)
    (hb : (adapters capitalized registry)[j]? = some b) (hij : i < j)
    (h : a.modelName = b.modelName) : a.displayName ≠ b.displayName := by
  obtain ⟨a', ha', hmodel, heqa⟩ := found_of_listed ha
  obtain ⟨b', hb', hmodel', heqb⟩ := found_of_listed hb
  have hsame : b'.modelName = a'.modelName := by rw [hmodel, hmodel', h]
  have hlt := foundBefore_lt ha' hij
  have hmore := foundBefore_lt_foundOf hb'
  rw [hsame] at hmore heqb
  have hmany : 1 < foundOf capitalized registry a'.modelName := by omega
  have hordinal : a.ordinal =
      some (foundBefore capitalized registry i a'.modelName + 1) := by
    rw [heqa, numbered, if_pos hmany]
  have hordinal' : b.ordinal =
      some (foundBefore capitalized registry j a'.modelName + 1) := by
    rw [heqb, numbered, hsame, if_pos hmany]
  intro hname
  have heq := displayName_injective h hname (by rw [hordinal]; rfl) (by rw [hordinal']; rfl)
  rw [hordinal, hordinal', Option.some.injEq] at heq
  omega

theorem map_modelName_adapters :
    (adapters capitalized registry).map GPIBAdapter.modelName =
      (found capitalized registry).map GPIBAdapter.modelName := by
  apply List.ext_getElem?
  intro i
  rw [List.getElem?_map, List.getElem?_map, getElem?_adapters, Option.map_map]
  congr 1
  funext a
  exact numbered_modelName _ _ a

/-- A model is listed as often as it is found. -/
theorem ofModel_adapters (model : String) :
    ofModel model (adapters capitalized registry) = foundOf capitalized registry model := by
  have hcount (l : List GPIBAdapter) :
      ofModel model l = (l.map GPIBAdapter.modelName).countP fun m => decide (m = model) := by
    rw [List.countP_map]
    rfl
  rw [foundOf, hcount, hcount, map_modelName_adapters]

end GPIBDiscovery

end DarwinGpib
