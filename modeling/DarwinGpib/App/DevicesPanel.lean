import DarwinGpib.Library.Progress
import DarwinGpib.Model.DevicesStore
import Mathlib.Algebra.BigOperators.Group.List.Basic

/-!
# The devices panel

Refreshes may come at any time, and a scan whose refresh has been superseded still ends. The panel
shows the adapters of the latest refresh with what its own scans have found, in whatever order all
this happens, and once no refresh comes it stops refreshing.
-/

namespace DarwinGpib

open Transition

/-! ## The panel -/

/-- Adapters with what the scans of the first of them have found. -/
def filled : List GPIBAdapter → List ScanResult → List GPIBAdapter
  | a :: as, r :: rs => a.withScan r :: filled as rs
  | as, [] => as
  | [], _ :: _ => []

@[simp] theorem filled_nil (as : List GPIBAdapter) : filled as [] = as := by
  cases as <;> rfl

/-- The next result goes into the next adapter. -/
theorem modify_filled (as : List GPIBAdapter) (rs : List ScanResult) (r : ScanResult) :
    (filled as rs).modify rs.length (·.withScan r) = filled as (rs ++ [r]) := by
  induction rs generalizing as with
  | nil =>
      cases as with
      | nil => rfl
      | cons a as => simp [filled]
  | cons r' rs ih =>
      cases as with
      | nil => rfl
      | cons a as => simpa [filled] using ih as

/-- What the panel is to show: the adapters of the latest refresh, and what the scans of that
refresh have found so far. -/
structure Panel where
  discovered : List GPIBAdapter
  results : List ScanResult
  task : Option Nat
  created : Nat

namespace Panel

def init : Panel := ⟨[], [], none, 0⟩

def adapters (p : Panel) : List GPIBAdapter := filled p.discovered p.results

/-- Scans of the latest refresh are still to come. -/
def Expects (p : Panel) : Prop := p.results.length < p.discovered.length

instance (p : Panel) : Decidable p.Expects := inferInstanceAs (Decidable (_ < _))

/-- A refresh starts over, and a result counts if it is that of the latest refresh. -/
def next (p : Panel) : DevicesStore.Action → Panel
  | .refresh [] => ⟨[], [], none, p.created⟩
  | .refresh (a :: as) => ⟨a :: as, [], some p.created, p.created + 1⟩
  | .start _ => p
  | .scanned i result =>
      if p.task = some i then { p with results := p.results ++ [result] } else p

/-- What the panel is to show after these actions. -/
def after (as : List DevicesStore.Action) : Panel := as.foldl next init

end Panel

namespace DevicesStore

/-! ## What the store keeps -/

/-- The task of the latest refresh has published the results so far. -/
structure Current (p : Panel) (t : RefreshTask) : Prop where
  discovered : t.discovered = p.discovered
  scanned : t.scanned = p.adapters
  offset : t.offset = p.results.length
  live : t.isCancelled = false
  phase : if p.Expects then t.phase ≠ .returned else t.phase = .returned

/-- The store shows the panel, and all tasks but the current one are cancelled. -/
structure Shows (p : Panel) (s : DevicesStore) : Prop where
  adapters : s.adapters = p.adapters
  refreshing : s.isRefreshing = decide p.Expects
  created : s.tasks.length = p.created
  current : ∀ i, p.task = some i → s.refreshTask = some i ∧
    ∃ t, s.tasks[i]? = some t ∧ Current p t
  idle : p.task = none → p.discovered = []
  cancelled : ∀ i t, s.tasks[i]? = some t → p.task ≠ some i → t.isCancelled = true
  begun : ∀ t ∈ s.tasks, t.phase = .created → t.offset < t.discovered.length

variable {p : Panel} {s s' : DevicesStore} {i : Nat} {t : RefreshTask}

theorem shows_init : Shows .init .init where
  adapters := rfl
  refreshing := rfl
  created := rfl
  current i h := by cases h
  idle _ := rfl
  cancelled i t h := by simp [init] at h
  begun t h := by cases h

/-! ## Refreshes -/

theorem getElem?_cancelRefresh (s : DevicesStore) (i : Nat) :
    s.cancelRefresh.tasks[i]? = s.tasks[i]?.map fun t =>
      if s.refreshTask = some i then { t with isCancelled := true } else t := by
  unfold cancelRefresh
  cases h : s.refreshTask with
  | none => simp
  | some j =>
      by_cases hij : j = i
      · simp [hij]
      · simp [hij]

@[simp] theorem length_cancelRefresh (s : DevicesStore) :
    s.cancelRefresh.tasks.length = s.tasks.length := by
  unfold cancelRefresh
  split <;> simp

/-- A refresh cancels what has not been cancelled before. -/
theorem Shows.isCancelled_of_cancelRefresh (h : Shows p s)
    (ht : s.cancelRefresh.tasks[i]? = some t) : t.isCancelled = true := by
  rw [getElem?_cancelRefresh, Option.map_eq_some_iff] at ht
  obtain ⟨t₀, ht₀, rfl⟩ := ht
  by_cases hi : s.refreshTask = some i
  · rw [if_pos hi]
  · rw [if_neg hi]
    exact h.cancelled i t₀ ht₀ fun hp => hi (h.current i hp).1

theorem Shows.begun_of_cancelRefresh (h : Shows p s) (ht : t ∈ s.cancelRefresh.tasks)
    (hphase : t.phase = .created) : t.offset < t.discovered.length := by
  obtain ⟨i, hi⟩ := List.mem_iff_getElem?.mp ht
  rw [getElem?_cancelRefresh, Option.map_eq_some_iff] at hi
  obtain ⟨t₀, ht₀, rfl⟩ := hi
  have hbegun := h.begun t₀ (List.mem_of_getElem? ht₀)
  by_cases hcurrent : s.refreshTask = some i
  · simp only [hcurrent, if_true] at hphase ⊢
    exact hbegun hphase
  · simp only [hcurrent, if_false] at hphase ⊢
    exact hbegun hphase

theorem Shows.refresh (h : Shows p s) (discovered : List GPIBAdapter) :
    Shows (p.next (.refresh discovered)) (s.refresh discovered) := by
  cases discovered with
  | nil =>
      exact {
        adapters := rfl
        refreshing := rfl
        created := (length_cancelRefresh s).trans h.created
        current := nofun
        idle := fun _ => rfl
        cancelled := fun i t ht _ => h.isCancelled_of_cancelRefresh ht
        begun := fun t ht => h.begun_of_cancelRefresh ht }
  | cons a as =>
      have hlength : s.cancelRefresh.tasks.length = p.created :=
        (length_cancelRefresh s).trans h.created
      let new : RefreshTask := ⟨a :: as, a :: as, 0, false, .created⟩
      have htasks : (s.refresh (a :: as)).tasks = s.cancelRefresh.tasks ++ [new] := rfl
      have hnew : (s.refresh (a :: as)).tasks[p.created]? = some new := by
        rw [htasks, ← hlength, List.getElem?_concat_length]
      exact {
        adapters := (filled_nil _).symm
        refreshing := rfl
        created := by rw [htasks, List.length_append, hlength]; rfl
        current := by
          rintro i ⟨⟩
          exact ⟨congrArg some hlength, new, hnew, rfl, (filled_nil _).symm, rfl, rfl, nofun⟩
        idle := nofun
        cancelled := by
          intro i t ht hi
          rw [htasks, List.getElem?_append] at ht
          split at ht
          · exact h.isCancelled_of_cancelRefresh ht
          · next hge =>
              have hlast := List.getElem?_eq_some_iff.mp ht
              have hone : i - s.cancelRefresh.tasks.length < 1 := hlast.choose
              have heq : i = p.created := by omega
              exact absurd (congrArg some heq.symm) hi
        begun := by
          intro t ht hphase
          rw [htasks, List.mem_append, List.mem_singleton] at ht
          rcases ht with ht | rfl
          · exact h.begun_of_cancelRefresh ht hphase
          · exact Nat.succ_pos _ }

/-! ## Tasks -/

/-- A task that is not the current one returns without a trace. -/
theorem Shows.return_cancelled (h : Shows p s) (ht : s.tasks[i]? = some t) (hi : p.task ≠ some i) :
    Shows p { s with tasks := s.tasks.set i { t with phase := .returned } } where
  adapters := h.adapters
  refreshing := h.refreshing
  created := List.length_set.trans h.created
  current j hj := by
    have hij : i ≠ j := fun hij => hi (hij ▸ hj)
    simpa [List.getElem?_set_ne hij] using h.current j hj
  idle := h.idle
  cancelled j t' ht' hj := by
    by_cases hij : i = j
    · subst hij
      obtain ⟨hlt, -⟩ := List.getElem?_eq_some_iff.mp ht
      rw [List.getElem?_set_self hlt] at ht'
      obtain rfl := Option.some.inj ht'
      exact h.cancelled i t ht hj
    · rw [List.getElem?_set_ne hij] at ht'
      exact h.cancelled j t' ht' hj
  begun t' ht' hphase := by
    rcases List.mem_or_eq_of_mem_set ht' with ht' | rfl
    · exact h.begun t' ht' hphase
    · cases hphase

/-- The current task goes on, and the panel with it. -/
theorem Shows.advance {p' : Panel} {t' : RefreshTask} (h : Shows p s) (hi : p.task = some i)
    (htask : p'.task = p.task) (hcreated : p'.created = p.created) (hcurrent : Current p' t')
    (hphase : t'.phase ≠ .created) :
    Shows p' { s with
      adapters := p'.adapters
      isRefreshing := decide p'.Expects
      tasks := s.tasks.set i t' } where
  adapters := rfl
  refreshing := rfl
  created := List.length_set.trans (h.created.trans hcreated.symm)
  current j hj := by
    obtain ⟨href, t, ht, -⟩ := h.current i hi
    obtain rfl : i = j := Option.some.inj (hi.symm.trans (htask.symm.trans hj))
    obtain ⟨hlt, -⟩ := List.getElem?_eq_some_iff.mp ht
    exact ⟨href, t', List.getElem?_set_self hlt, hcurrent⟩
  idle hnone := by
    rw [htask, hi] at hnone
    cases hnone
  cancelled j t₁ ht₁ hj := by
    rw [htask] at hj
    have hij : i ≠ j := fun hij => hj (hij ▸ hi)
    rw [List.getElem?_set_ne hij] at ht₁
    exact h.cancelled j t₁ ht₁ hj
  begun t₁ ht₁ hcreated := by
    rcases List.mem_or_eq_of_mem_set ht₁ with ht₁ | rfl
    · exact h.begun t₁ ht₁ hcreated
    · exact absurd hcreated hphase

/-- A task that is not cancelled goes through the head of its loop. -/
theorem loop_current {q : Panel} (hdiscovered : t.discovered = q.discovered)
    (hscanned : t.scanned = q.adapters) (hoffset : t.offset = q.results.length)
    (hlive : t.isCancelled = false) (hadapters : s.adapters = q.adapters)
    (hrefreshing : s.isRefreshing = true) :
    ∃ t', Current q t' ∧ t'.phase ≠ .created ∧ s.loop i t = { s with
      adapters := q.adapters
      isRefreshing := decide q.Expects
      tasks := s.tasks.set i t' } := by
  unfold loop
  cases hnext : t.discovered[t.offset]? with
  | none =>
      rw [hdiscovered, hoffset, List.getElem?_eq_none_iff] at hnext
      have hdone : ¬ q.Expects := Nat.not_lt.mpr hnext
      refine ⟨{ t with phase := .returned },
        ⟨hdiscovered, hscanned, hoffset, hlive, by rw [if_neg hdone]⟩, nofun, ?_⟩
      rw [← hadapters, decide_eq_false hdone]
  | some adapter =>
      rw [hdiscovered, hoffset] at hnext
      have hmore : q.Expects := (List.getElem?_eq_some_iff.mp hnext).choose
      refine ⟨{ t with phase := .awaiting adapter.boardIndex },
        ⟨hdiscovered, hscanned, hoffset, hlive, by rw [if_pos hmore]; nofun⟩, nofun, ?_⟩
      simp only [hlive, Bool.false_eq_true, if_false]
      rw [← hadapters, decide_eq_true hmore, ← hrefreshing]

/-! ## Steps -/

theorem Shows.start (h : Shows p s) (ht : s.tasks[i]? = some t) (hphase : t.phase = .created) :
    Shows p (s.loop i t) := by
  by_cases hi : p.task = some i
  · obtain ⟨-, t₀, ht₀, hcurrent⟩ := h.current i hi
    obtain rfl : t₀ = t := Option.some.inj (ht₀.symm.trans ht)
    have hmore : p.Expects := by
      by_contra hdone
      have hreturned := hcurrent.phase
      rw [if_neg hdone, hphase] at hreturned
      cases hreturned
    obtain ⟨t', hcurrent', hphase', hloop⟩ := loop_current (i := i) hcurrent.discovered
      hcurrent.scanned hcurrent.offset hcurrent.live h.adapters
        (h.refreshing.trans (decide_eq_true hmore))
    rw [hloop]
    exact h.advance hi rfl rfl hcurrent' hphase'
  · have hlt := h.begun t (List.mem_of_getElem? ht) hphase
    have hloop : s.loop i t =
        { s with tasks := s.tasks.set i { t with phase := .returned } } := by
      rw [loop, List.getElem?_eq_getElem hlt]
      exact if_pos (h.cancelled i t ht hi)
    rw [hloop]
    exact h.return_cancelled ht hi

theorem Shows.resume (h : Shows p s) (ht : s.tasks[i]? = some t) {b : Nat}
    (hphase : t.phase = .awaiting b) (result : ScanResult) :
    Shows (p.next (.scanned i result)) (s.resume i t result) := by
  by_cases hi : p.task = some i
  · obtain ⟨-, t₀, ht₀, hcurrent⟩ := h.current i hi
    obtain rfl : t₀ = t := Option.some.inj (ht₀.symm.trans ht)
    have hmore : p.Expects := by
      by_contra hdone
      have hreturned := hcurrent.phase
      rw [if_neg hdone, hphase] at hreturned
      cases hreturned
    have hscanned : t₀.scanned.modify t₀.offset (·.withScan result) =
        filled p.discovered (p.results ++ [result]) := by
      rw [hcurrent.scanned, hcurrent.offset]
      exact modify_filled _ _ _
    obtain ⟨t', hcurrent', hphase', hloop⟩ := loop_current (i := i)
      (s := { s with adapters := filled p.discovered (p.results ++ [result]) })
      (t := { t₀ with
        scanned := filled p.discovered (p.results ++ [result])
        offset := t₀.offset + 1 })
      (q := { p with results := p.results ++ [result] }) hcurrent.discovered rfl
      (by rw [List.length_append, ← hcurrent.offset]; rfl) hcurrent.live rfl
      (h.refreshing.trans (decide_eq_true hmore))
    rw [Panel.next, if_pos hi, DevicesStore.resume, if_neg (Bool.eq_false_iff.mp hcurrent.live)]
    simp only [hscanned, hloop]
    exact h.advance hi rfl rfl hcurrent' hphase'
  · rw [Panel.next, if_neg hi, DevicesStore.resume, if_pos (h.cancelled i t ht hi)]
    exact h.return_cancelled ht hi

theorem Shows.step {a : Action} (h : Shows p s) (hstep : step s a = some s') :
    Shows (p.next a) s' := by
  cases a with
  | refresh discovered =>
      cases hstep
      exact h.refresh discovered
  | start i =>
      obtain ⟨t, ht, hstep⟩ := Option.bind_eq_some_iff.mp hstep
      split at hstep
      · next hphase =>
          cases hstep
          exact h.start ht hphase
      · cases hstep
  | scanned i result =>
      obtain ⟨t, ht, hstep⟩ := Option.bind_eq_some_iff.mp hstep
      split at hstep
      · next hphase =>
          cases hstep
          exact h.resume ht hphase result
      · cases hstep

theorem Shows.run {as : List Action} (h : Shows p s)
    (hrun : Transition.run DevicesStore.step s as = some s') :
    Shows (as.foldl Panel.next p) s' := by
  induction as generalizing p s with
  | nil =>
      cases hrun
      exact h
  | cons a as ih =>
      obtain ⟨s₁, hstep, hrest⟩ := run_cons_eq_some.mp hrun
      exact ih (h.step hstep) hrest

/-- However refreshes, tasks and ends of scans interleave, the panel has the adapters of the latest
refresh with what its own scans have found, and is refreshing as long as one of them is to come. -/
theorem panel_shows_latest_refresh {as : List Action} (hrun : run step .init as = some s) :
    s.adapters = (Panel.after as).adapters ∧
      (s.isRefreshing = true ↔ (Panel.after as).Expects) := by
  have hshows : Shows (Panel.after as) s := shows_init.run hrun
  refine ⟨hshows.adapters, ?_⟩
  rw [hshows.refreshing, decide_eq_true_iff]

/-- Two adapters are found, and one of them is gone at the second refresh, while its scan runs. -/
def unplugged : List Action :=
  [.refresh [⟨"ni_usb#0", "NI", 0, none, [], false, false⟩,
      ⟨"kusb_488b#1", "KUSB", 1, none, [], false, false⟩], .start 0,
    .refresh [⟨"kusb_488b#0", "KUSB", 0, none, [], false, false⟩], .start 1,
    .scanned 0 ([], .unreliable), .scanned 1 ([], .ok)]

/-- The end of the first scan is not heeded. -/
theorem panel_shows_latest_refresh_unplugged :
    ∃ s, run step .init unplugged = some s ∧ s.adapters = (Panel.after unplugged).adapters ∧
      (s.isRefreshing = true ↔ (Panel.after unplugged).Expects) := by
  obtain ⟨s, hrun⟩ : ∃ s, run step .init unplugged = some s := ⟨_, rfl⟩
  exact ⟨s, hrun, panel_shows_latest_refresh hrun⟩

/-! ## Coming to rest -/

/-- What the tasks do once no refresh comes. -/
def Action.Own : Action → Prop
  | .refresh _ => False
  | _ => True

/-- How often a task is still to be resumed. -/
def resumptions (t : RefreshTask) : Nat :=
  match t.phase with
  | .created => if t.isCancelled then 1 else t.discovered.length - t.offset + 1
  | .awaiting _ => if t.isCancelled then 1 else t.discovered.length - t.offset
  | .returned => 0

def left (s : DevicesStore) : Nat := (s.tasks.map resumptions).sum

theorem left_set_lt {ts : List RefreshTask} {i : Nat} {t t' : RefreshTask} (ht : ts[i]? = some t)
    (hlt : resumptions t' < resumptions t) :
    ((ts.set i t').map resumptions).sum < (ts.map resumptions).sum := by
  induction ts generalizing i with
  | nil => simp at ht
  | cons t₀ ts ih =>
      cases i with
      | zero =>
          cases ht
          simpa using hlt
      | succ i => simpa using ih ht

/-- Behind the head of the loop, a task has as many scans to come as there are adapters left. -/
theorem exists_loop (s : DevicesStore) (i : Nat) (t : RefreshTask) :
    ∃ t', (s.loop i t).tasks = s.tasks.set i t' ∧
      resumptions t' ≤ (if t.isCancelled then 0 else t.discovered.length - t.offset) := by
  unfold loop
  split
  · exact ⟨_, rfl, Nat.zero_le _⟩
  · split
    · exact ⟨_, rfl, Nat.zero_le _⟩
    · next hlive => exact ⟨_, rfl, by simp [resumptions, hlive]⟩

theorem left_start (ht : s.tasks[i]? = some t) (hphase : t.phase = .created) :
    (s.loop i t).left < s.left := by
  obtain ⟨t', htasks, hle⟩ := exists_loop s i t
  rw [left, htasks]
  refine left_set_lt ht (hle.trans_lt ?_)
  simp only [resumptions, hphase]
  split <;> omega

/-- A task that awaits a scan has an adapter left, unless it is cancelled. -/
theorem Shows.offset_lt (h : Shows p s) (ht : s.tasks[i]? = some t) (hphase : t.phase ≠ .returned)
    (hlive : ¬ t.isCancelled = true) : t.offset < t.discovered.length := by
  have hi : p.task = some i := not_not.mp (mt (h.cancelled i t ht) hlive)
  obtain ⟨-, t₀, ht₀, hcurrent⟩ := h.current i hi
  obtain rfl : t₀ = t := Option.some.inj (ht₀.symm.trans ht)
  have hmore : p.Expects := by
    by_contra hdone
    have hreturned := hcurrent.phase
    rw [if_neg hdone] at hreturned
    exact hphase hreturned
  rw [hcurrent.offset, hcurrent.discovered]
  exact hmore

theorem Shows.left_resume (h : Shows p s) (ht : s.tasks[i]? = some t) {b : Nat}
    (hphase : t.phase = .awaiting b) (result : ScanResult) :
    (s.resume i t result).left < s.left := by
  unfold DevicesStore.resume
  split
  · next hcancelled =>
      refine left_set_lt ht ?_
      simp [resumptions, hphase, hcancelled]
  · next hlive =>
      have hlt := h.offset_lt ht (by rw [hphase]; nofun) hlive
      obtain ⟨t', htasks, hle⟩ := exists_loop
        { s with adapters := t.scanned.modify t.offset (·.withScan result) } i
        { t with
          scanned := t.scanned.modify t.offset (·.withScan result)
          offset := t.offset + 1 }
      rw [left, htasks]
      refine left_set_lt ht (hle.trans_lt ?_)
      simp only [resumptions, hphase, hlive]
      simp
      omega

theorem Shows.left_step {a : Action} (h : Shows p s) (hown : a.Own)
    (hstep : DevicesStore.step s a = some s') : s'.left < s.left := by
  cases a with
  | refresh discovered => exact hown.elim
  | start i =>
      obtain ⟨t, ht, hstep⟩ := Option.bind_eq_some_iff.mp hstep
      split at hstep
      · next hphase =>
          cases hstep
          exact left_start ht hphase
      · cases hstep
  | scanned i result =>
      obtain ⟨t, ht, hstep⟩ := Option.bind_eq_some_iff.mp hstep
      split at hstep
      · next hphase =>
          cases hstep
          exact h.left_resume ht hphase result
      · cases hstep

/-- The tasks rank the runs without a refresh. -/
theorem ranked_left : Ranked step (fun s => ∃ p, Shows p s) Action.Own Action.Own left where
  ok_of_own _ := id
  keeps := fun _ a _ ⟨p, h⟩ _ hstep => ⟨p.next a, h.step hstep⟩
  le := fun _ _ _ ⟨_, h⟩ hown hstep => (h.left_step hown hstep).le
  lt := fun _ _ _ ⟨_, h⟩ hown hstep => h.left_step hown hstep

/-- A panel that is refreshing has a task that can go on. -/
theorem Shows.exists_own_step (h : Shows p s) (hrefreshing : s.isRefreshing = true) :
    ∃ a s', a.Own ∧ DevicesStore.step s a = some s' := by
  rw [h.refreshing, decide_eq_true_iff] at hrefreshing
  cases htask : p.task with
  | none =>
      rw [Panel.Expects, h.idle htask] at hrefreshing
      exact absurd hrefreshing (Nat.not_lt_zero _)
  | some i =>
      obtain ⟨-, t, ht, hcurrent⟩ := h.current i htask
      have hphase := hcurrent.phase
      rw [if_pos hrefreshing] at hphase
      cases hstands : t.phase with
      | created => exact ⟨.start i, s.loop i t, trivial, by simp [DevicesStore.step, ht, hstands]⟩
      | awaiting b =>
          exact ⟨.scanned i ([], .ok), s.resume i t ([], .ok), trivial,
            by simp [DevicesStore.step, ht, hstands]⟩
      | returned => exact absurd hstands hphase

/-- Once no refresh comes, the tasks have a bounded number of steps left, whatever the scans
find; they can always end the refresh, and it has ended when none of them can go on. -/
theorem panel_stops_refreshing {as : List Action} (hrun : run step .init as = some s) :
    (∀ bs s', (∀ a ∈ bs, a.Own) → run step s bs = some s' → bs.length ≤ s.left) ∧
      (∃ bs s', (∀ a ∈ bs, a.Own) ∧ run step s bs = some s' ∧ s'.isRefreshing = false) ∧
      ((∀ a, a.Own → step s a = none) → s.isRefreshing = false) := by
  have hshows : Shows (Panel.after as) s := shows_init.run hrun
  refine ⟨fun bs s' hown hrun' => ?_, ?_, fun hnone => ?_⟩
  · classical
    have hle := ranked_left.countP_own_le ⟨_, hshows⟩ hown hrun'
    rw [List.countP_eq_length.mpr fun a ha => by simpa using hown a ha] at hle
    omega
  · refine ranked_left.exists_run (fun u hu hrest => ?_) ⟨_, hshows⟩
    exact hu.choose_spec.exists_own_step (Bool.not_eq_false _ ▸ hrest)
  · by_contra hrefreshing
    obtain ⟨a, s', hown, hstep⟩ := hshows.exists_own_step (Bool.not_eq_false _ ▸ hrefreshing)
    rw [hnone a hown] at hstep
    cases hstep

/-- While the second scan runs. -/
theorem panel_stops_refreshing_unplugged :
    ∃ s, run step .init (unplugged.take 4) = some s ∧
      ∃ bs s', (∀ a ∈ bs, a.Own) ∧ run step s bs = some s' ∧ s'.isRefreshing = false := by
  obtain ⟨s, hrun⟩ : ∃ s, run step .init (unplugged.take 4) = some s := ⟨_, rfl⟩
  exact ⟨s, hrun, (panel_stops_refreshing hrun).2.1⟩

end DevicesStore

end DarwinGpib
