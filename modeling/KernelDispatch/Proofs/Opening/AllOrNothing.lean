/-
  KernelDispatch.Proofs.Opening.AllOrNothing

  A dispatcher opens with all its threads or leaves none behind.

  The threads are started in one row (`dispatcher_eq_startAll`), so the first start that the
  host refuses decides: the threads before it have been started, and each of them is stopped
  (`startAll_eq_refused`). `runningAfter` replays what happened to the threads; it comes to
  all threads of an open dispatcher and to none of one that did not open.

  Settings are not asked what their label holds. With a NUL in it the first start panics, and
  there is no failure for the caller; this is the one way for the opening to panic.
-/
import Mathlib.Data.Nat.Find
import KernelDispatch.Dispatcher
import KernelDispatch.Proofs.Opening.Threads

namespace KernelDispatch

/-! ## What is left running -/

/-- The threads that run after an event, in the order of their starts. -/
def ThreadEvent.track (runs : List String) : ThreadEvent → List String
  | started name => runs ++ [name]
  | stopped name => runs.erase name

/-- The threads that run after some events. -/
def runningAfter (events : List ThreadEvent) : List String :=
  events.foldl ThreadEvent.track []

theorem track_started (names runs : List String) :
    (names.map ThreadEvent.started).foldl ThreadEvent.track runs = runs ++ names := by
  induction names generalizing runs with
  | nil => simp
  | cons name names ih =>
    rw [List.map_cons, List.foldl_cons, ih]
    simp [ThreadEvent.track]

theorem track_stopped (names runs : List String) :
    (names.map ThreadEvent.stopped).foldl ThreadEvent.track (names ++ runs) = runs := by
  induction names with
  | nil => rfl
  | cons name names ih =>
    rw [List.map_cons, List.foldl_cons, List.cons_append]
    simpa [ThreadEvent.track] using ih

theorem runningAfter_started (names : List String) :
    runningAfter (names.map .started) = names :=
  track_started names []

/-- Threads that are started and then stopped leave nothing running. -/
theorem runningAfter_started_stopped (names : List String) :
    runningAfter (names.map .started ++ names.map .stopped) = [] := by
  rw [runningAfter, List.foldl_append, track_started, List.nil_append]
  simpa using track_stopped names []

namespace Opening

variable {cfg : Settings} {host : Host}

/-! ## The first refusal -/

/-- The start with this number is the first that a host refuses. -/
structure FirstRefusal (host : Host) (number : Nat) (reason : String) : Prop where
  refused : host number = some reason
  before : ∀ k < number, host k = none

/-- A host that refuses a start has a first refusal. -/
theorem exists_firstRefusal {n : Nat} (h_refused : host n ≠ none) :
    ∃ number ≤ n, ∃ reason, FirstRefusal host number reason := by
  have h_some : ∃ number, host number ≠ none := ⟨n, h_refused⟩
  obtain ⟨reason, h_reason⟩ := Option.ne_none_iff_exists'.1 (Nat.find_spec h_some)
  refine ⟨Nat.find h_some, Nat.find_le h_refused, reason, h_reason, fun k h_k => ?_⟩
  exact not_not.1 (Nat.find_min h_some h_k)

/-- A refused start stops the threads before it, those of this row and those that ran already. -/
theorem startAll_eq_refused {names : List String} (h_names : ∀ name ∈ names, NulFree name)
    {i : Nat} (h_i : i < names.length) {number : Nat} {reason : String}
    (h_refused : host (number + i) = some reason)
    (h_before : ∀ k < i, host (number + k) = none) (runs : List String) :
    startAll host number runs names =
      ((names.take i).map .started ++ (runs ++ names.take i).map .stopped,
        .refused (spawnFailure reason)) := by
  -- The row is cut at the refused start: the names before it run, and it is the first of the rest.
  have h_length : (names.take i).length = i := List.length_take_of_le (Nat.le_of_lt h_i)
  have h_started : startAll host number runs (names.take i) =
      ((names.take i).map .started, .opened) := by
    refine startAll_eq_opened (fun name h_name => h_names name (List.mem_of_mem_take h_name))
      number (fun k h_k => h_before k ?_) runs
    rwa [h_length] at h_k
  have h_stopped : startAll host (number + i) (runs ++ names.take i) (names.drop i) =
      ((runs ++ names.take i).map .stopped, .refused (spawnFailure reason)) := by
    rw [List.drop_eq_getElem_cons h_i, startAll,
      startOne_of_nulFree (h_names _ (List.getElem_mem h_i)), h_refused]
  calc startAll host number runs names
      = startAll host number runs (names.take i ++ names.drop i) := by rw [List.take_append_drop]
    _ = _ := by rw [startAll_append, h_started, h_length, h_stopped]

/-! ## Opening a dispatcher -/

section

variable {cores : Nat}

theorem dispatcher_refuses_fault {fault : SettingsFault} (h_fault : cfg.fault? = some fault) :
    dispatcher cfg cores host = ([], .refused fault.failure) := by
  rw [dispatcher, h_fault]

theorem dispatcher_unwinds (h_valid : cfg.Valid) (h_cores : 0 < cores)
    (h_label : ¬ NulFree cfg.threadLabel) :
    dispatcher cfg cores host = ([], .unwound (nulMessage (cfg.compileThreadName 0))) := by
  rw [dispatcher_eq_startAll h_valid h_cores, threadNames, startAll_append,
    startAll_workers_eq_unwound h_label (Settings.threadCount_pos h_valid h_cores)]

theorem dispatcher_runs (h_valid : cfg.Valid) (h_cores : 0 < cores)
    (h_label : NulFree cfg.threadLabel) (h_host : ∀ n ≤ cfg.threadCount cores, host n = none) :
    dispatcher cfg cores host = ((threadNames cfg cores).map .started, .opened) := by
  rw [dispatcher_eq_startAll h_valid h_cores]
  refine startAll_eq_opened (fun _ => nulFree_of_mem_threadNames h_label) 0 (fun k h_k => ?_) []
  rw [length_threadNames] at h_k
  exact h_host (0 + k) (by omega)

theorem dispatcher_stops (h_valid : cfg.Valid) (h_cores : 0 < cores)
    (h_label : NulFree cfg.threadLabel) {i : Nat} (h_i : i ≤ cfg.threadCount cores)
    {reason : String} (h_first : FirstRefusal host i reason) :
    dispatcher cfg cores host =
      (((threadNames cfg cores).take i).map .started
        ++ ((threadNames cfg cores).take i).map .stopped, .refused (spawnFailure reason)) := by
  rw [dispatcher_eq_startAll h_valid h_cores]
  refine startAll_eq_refused (fun _ => nulFree_of_mem_threadNames h_label) ?_ ?_ ?_ []
  · rw [length_threadNames]
    exact Nat.lt_succ_of_le h_i
  · rw [Nat.zero_add]
    exact h_first.refused
  · intro k h_k
    rw [Nat.zero_add]
    exact h_first.before k h_k

/-- The four ways in which the opening of a dispatcher can go. -/
inductive Way (cfg : Settings) (cores : Nat) (host : Host) : List ThreadEvent × Opening → Prop where
  /-- The settings contradict themselves. -/
  | faulty (fault : SettingsFault) (h_fault : cfg.fault? = some fault) :
    Way cfg cores host ([], .refused fault.failure)
  /-- The label cannot be part of a thread's name. -/
  | unwound (h_valid : cfg.Valid) (h_label : ¬ NulFree cfg.threadLabel) :
    Way cfg cores host ([], .unwound (nulMessage (cfg.compileThreadName 0)))
  /-- A thread cannot be started. -/
  | stopped (h_valid : cfg.Valid) (h_label : NulFree cfg.threadLabel) (i : Nat)
    (h_i : i ≤ cfg.threadCount cores) (reason : String) (h_first : FirstRefusal host i reason) :
    Way cfg cores host
      (((threadNames cfg cores).take i).map .started
        ++ ((threadNames cfg cores).take i).map .stopped, .refused (spawnFailure reason))
  /-- All threads run. -/
  | opened (h_valid : cfg.Valid) (h_label : NulFree cfg.threadLabel)
    (h_host : ∀ n ≤ cfg.threadCount cores, host n = none) :
    Way cfg cores host ((threadNames cfg cores).map .started, .opened)

theorem way_of_dispatcher (h_cores : 0 < cores) :
    Way cfg cores host (dispatcher cfg cores host) := by
  cases h_fault : cfg.fault? with
  | some fault =>
    rw [dispatcher_refuses_fault h_fault]
    exact .faulty fault h_fault
  | none =>
    by_cases h_label : NulFree cfg.threadLabel
    · by_cases h_host : ∀ n ≤ cfg.threadCount cores, host n = none
      · rw [dispatcher_runs h_fault h_cores h_label h_host]
        exact .opened h_fault h_label h_host
      · simp only [not_forall] at h_host
        obtain ⟨n, h_n, h_refused⟩ := h_host
        obtain ⟨i, h_i, reason, h_first⟩ := exists_firstRefusal h_refused
        have h_i' : i ≤ cfg.threadCount cores := Nat.le_trans h_i h_n
        rw [dispatcher_stops h_fault h_cores h_label h_i' h_first]
        exact .stopped h_fault h_label i h_i' reason h_first
    · rw [dispatcher_unwinds h_fault h_cores h_label]
      exact .unwound h_fault h_label

variable {events : List ThreadEvent} {result : Opening}

theorem Way.opened_iff (h_way : Way cfg cores host (events, result)) :
    result = .opened ↔ cfg.Valid ∧ NulFree cfg.threadLabel ∧
      ∀ n ≤ cfg.threadCount cores, host n = none := by
  cases h_way with
  | faulty fault h_fault => simp [Settings.Valid, h_fault]
  | unwound h_valid h_label => simp [h_label]
  | stopped h_valid h_label i h_i reason h_first =>
    refine iff_of_false Opening.noConfusion fun h_all => ?_
    exact Option.some_ne_none reason (h_first.refused.symm.trans (h_all.2.2 i h_i))
  | opened h_valid h_label h_host => exact iff_of_true rfl ⟨h_valid, h_label, h_host⟩

theorem Way.unwound_iff (h_way : Way cfg cores host (events, result)) (message : String) :
    result = .unwound message ↔ cfg.Valid ∧ ¬ NulFree cfg.threadLabel ∧
      message = nulMessage (cfg.compileThreadName 0) := by
  cases h_way with
  | faulty fault h_fault => simp [Settings.Valid, h_fault]
  | unwound h_valid h_label => simp [h_valid, h_label, eq_comm]
  | stopped h_valid h_label i h_i reason h_first => simp [h_label]
  | opened h_valid h_label h_host => simp [h_label]

theorem Way.runningAfter_eq (h_way : Way cfg cores host (events, result)) :
    runningAfter events = if result = .opened then threadNames cfg cores else [] := by
  cases h_way with
  | faulty fault h_fault => rfl
  | unwound h_valid h_label => rfl
  | stopped h_valid h_label i h_i reason h_first => exact runningAfter_started_stopped _
  | opened h_valid h_label h_host => exact runningAfter_started _

end

/-- What opening a dispatcher comes to. -/
structure AllOrNothing (cfg : Settings) (cores : Nat) (host : Host) : Prop where
  /-- A contradiction in the settings is the failure, and no thread is started. -/
  faulty : ∀ fault, cfg.fault? = some fault →
    dispatcher cfg cores host = ([], .refused fault.failure)
  /-- If a worker or the launch thread cannot be started, the first of them is the failure; the
  threads before it have been started, and all of them have been stopped. -/
  refused : cfg.Valid → NulFree cfg.threadLabel →
    ∀ n ≤ cfg.threadCount cores, host n ≠ none →
      ∃ i ≤ n, ∃ reason, FirstRefusal host i reason ∧
        dispatcher cfg cores host =
          (((threadNames cfg cores).take i).map .started
            ++ ((threadNames cfg cores).take i).map .stopped, .refused (spawnFailure reason))
  /-- It opens exactly otherwise. -/
  opened_iff : (dispatcher cfg cores host).2 = .opened ↔
    cfg.Valid ∧ NulFree cfg.threadLabel ∧ ∀ n ≤ cfg.threadCount cores, host n = none
  /-- It panics exactly for valid settings with a NUL in their label, at the first thread. -/
  unwound_iff : ∀ message, (dispatcher cfg cores host).2 = .unwound message ↔
    cfg.Valid ∧ ¬ NulFree cfg.threadLabel ∧ message = nulMessage (cfg.compileThreadName 0)
  /-- Threads run afterwards only if it has opened: its workers and one launch thread. -/
  running : runningAfter (dispatcher cfg cores host).1 =
    if (dispatcher cfg cores host).2 = .opened then
      workerNames cfg (cfg.threadCount cores) ++ [cfg.launchThreadName]
    else []
  /-- The dispatcher that has opened counts as many workers, no record and no artifact. -/
  fresh : ∀ (C : Type) (env : Environment C) (pace : Pace) (now : Moment),
    let q := Dispatcher.start cfg env pace (cfg.threadCount cores) now
    q.state.pool.threads = cfg.threadCount cores ∧ q.state.backlog = [] ∧
      q.state.store.entries = []

/-- A dispatcher opens with all its threads or, whatever else happens, leaves none of them
running; the caller has a failure for it unless the label holds a NUL. -/
theorem dispatcher_all_or_nothing (cfg : Settings) {cores : Nat} (h_cores : 0 < cores)
    (host : Host) : AllOrNothing cfg cores host := by
  have h_way : Way cfg cores host (dispatcher cfg cores host) := way_of_dispatcher h_cores
  refine ⟨fun _ => dispatcher_refuses_fault, ?_, h_way.opened_iff, h_way.unwound_iff,
    h_way.runningAfter_eq, ?_⟩
  · intro h_valid h_label n h_n h_refused
    obtain ⟨i, h_i, reason, h_first⟩ := exists_firstRefusal h_refused
    exact ⟨i, h_i, reason, h_first,
      dispatcher_stops h_valid h_cores h_label (Nat.le_trans h_i h_n) h_first⟩
  · intro C env pace now
    exact ⟨List.length_replicate, rfl, rfl⟩

/-- The second of two workers is refused: the first is stopped, and the launch thread never
runs. -/
theorem second_worker_refused :
    let cfg : Settings := { compileWorkers := some 2 }
    let host : Host := fun n => if n = 1 then some "no memory" else none
    0 < 8 ∧ AllOrNothing cfg 8 host ∧
      dispatcher cfg 8 host = ([.started "offload-compile-0", .stopped "offload-compile-0"],
        .refused (.threads "spawn failed: no memory")) :=
  ⟨by decide, dispatcher_all_or_nothing _ (by decide) _, by decide⟩

/-- Settings that are let through, on a host that lets every thread run, and there is neither a
dispatcher nor a failure. -/
theorem nul_in_label_panics :
    let cfg : Settings := { compileWorkers := some 1, threadLabel := "a\x00b" }
    cfg.Valid ∧ dispatcher cfg 8 (fun _ => none) =
      ([], .unwound ("thread name may not contain interior null bytes: "
        ++ "NulError(1, [97, 0, 98, 45, 99, 111, 109, 112, 105, 108, 101, 45, 48])")) := by
  decide

end Opening

end KernelDispatch
