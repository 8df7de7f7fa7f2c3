import DarwinGpib.Model.Discovery
import DarwinGpib.Library.Transition

/-!
# The store behind the devices panel

`Open GPIB/GPIB/DevicesStore.swift`. All of it runs on the main actor, which a refresh task gives
up where it awaits the scan of an adapter; a step is what happens without giving it up. A task is
known by its place among those that have been created.
-/

namespace DarwinGpib

abbrev ScanResult := List GPIBInstrument × GPIBDiscovery.ScanState

/-- Where a refresh task stands. -/
inductive TaskPhase where
  | created
  | awaiting (boardIndex : Nat)
  | returned
  deriving DecidableEq, Repr

/-- A refresh task with its variables. -/
structure RefreshTask where
  discovered : List GPIBAdapter
  scanned : List GPIBAdapter
  offset : Nat
  isCancelled : Bool
  phase : TaskPhase
  deriving DecidableEq, Repr

structure DevicesStore where
  adapters : List GPIBAdapter
  isRefreshing : Bool
  refreshTask : Option Nat
  tasks : List RefreshTask
  deriving DecidableEq, Repr

/-- What a scan has found goes into the adapter. -/
def GPIBAdapter.withScan (a : GPIBAdapter) (result : ScanResult) : GPIBAdapter :=
  { a with
    instruments := result.1
    scanUnavailable := result.2 = .unavailable
    scanUnreliable := result.2 = .unreliable }

namespace DevicesStore

def init : DevicesStore := ⟨[], false, none, []⟩

/-- `refreshTask?.cancel()`. -/
def cancelRefresh (s : DevicesStore) : DevicesStore :=
  match s.refreshTask with
  | none => s
  | some i => { s with tasks := s.tasks.modify i fun t => { t with isCancelled := true } }

def refresh (s : DevicesStore) (discovered : List GPIBAdapter) : DevicesStore :=
  let s := { s.cancelRefresh with isRefreshing := true, adapters := discovered }
  if discovered.isEmpty then { s with isRefreshing := false }
  else
    { s with
      tasks := s.tasks ++ [⟨discovered, discovered, 0, false, .created⟩]
      refreshTask := some s.tasks.length }

/-- A task from the head of its loop to where it awaits a scan, or returns. -/
def loop (s : DevicesStore) (i : Nat) (t : RefreshTask) : DevicesStore :=
  match t.discovered[t.offset]? with
  | none => { s with tasks := s.tasks.set i { t with phase := .returned }, isRefreshing := false }
  | some adapter =>
      if t.isCancelled then { s with tasks := s.tasks.set i { t with phase := .returned } }
      else { s with tasks := s.tasks.set i { t with phase := .awaiting adapter.boardIndex } }

/-- A task from the end of a scan on. -/
def resume (s : DevicesStore) (i : Nat) (t : RefreshTask) (result : ScanResult) : DevicesStore :=
  if t.isCancelled then { s with tasks := s.tasks.set i { t with phase := .returned } }
  else
    let scanned := t.scanned.modify t.offset (·.withScan result)
    loop { s with adapters := scanned } i { t with scanned, offset := t.offset + 1 }

/-- What the main actor may turn to. -/
inductive Action where
  | refresh (discovered : List GPIBAdapter)
  | start (task : Nat)
  | scanned (task : Nat) (result : ScanResult)
  deriving DecidableEq, Repr

def step (s : DevicesStore) : Action → Option DevicesStore
  | .refresh discovered => some (s.refresh discovered)
  | .start i => do
      let t ← s.tasks[i]?
      match t.phase with
      | .created => some (s.loop i t)
      | _ => none
  | .scanned i result => do
      let t ← s.tasks[i]?
      match t.phase with
      | .awaiting _ => some (s.resume i t result)
      | _ => none

end DevicesStore

end DarwinGpib
