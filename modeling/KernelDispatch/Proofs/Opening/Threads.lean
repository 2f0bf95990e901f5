/-
  KernelDispatch.Proofs.Opening.Threads

  The threads of a dispatcher as one row of starts.

  A name without NUL leaves the start to the host (`startOne_of_nulFree`), and threads that
  all start leave nothing to undo (`startAll_eq_opened`). The workers and the launch thread
  are started by two loops whose clean-up differs; for valid settings that is the same as one
  loop over all names (`dispatcher_eq_startAll`). The names are the label with a plain
  ending, so valid settings with a label without NUL open on a host that lets every thread
  run (`dispatcher_opens`).
-/
import KernelDispatch.Opening

namespace KernelDispatch

/-- Whether a text can be the name of a thread. -/
def NulFree (text : String) : Prop :=
  '\x00' ∉ text.toList

instance (text : String) : Decidable (NulFree text) :=
  inferInstanceAs (Decidable ('\x00' ∉ text.toList))

theorem NulFree.append {a b : String} (h : NulFree a) (h' : NulFree b) : NulFree (a ++ b) := by
  simp only [NulFree, String.toList_append, List.mem_append, not_or] at h h' ⊢
  exact ⟨h, h'⟩

theorem NulFree.of_append {a b : String} (h : NulFree (a ++ b)) : NulFree a := by
  simp only [NulFree, String.toList_append, List.mem_append, not_or] at h ⊢
  exact h.1

/-- A numeral has digits only. -/
theorem nulFree_toString (n : Nat) : NulFree (toString n) := by
  intro h_nul
  have h_digit := Nat.isDigit_of_mem_toDigits (b := 10) (n := n) (c := '\x00') (by decide)
    (by decide) (by simpa using h_nul)
  exact absurd h_digit (by decide)

namespace Settings

variable {cfg : Settings}

theorem nulFree_compileThreadName (h_label : NulFree cfg.threadLabel) (worker : Nat) :
    NulFree (cfg.compileThreadName worker) :=
  (h_label.append (by decide)).append (nulFree_toString worker)

theorem nulFree_launchThreadName (h_label : NulFree cfg.threadLabel) :
    NulFree cfg.launchThreadName :=
  h_label.append (by decide)

/-- Valid settings ask for a worker, on a machine with a core. -/
theorem threadCount_pos (h_valid : cfg.Valid) {cores : Nat} (h_cores : 0 < cores) :
    0 < cfg.threadCount cores := by
  unfold threadCount
  cases h_workers : cfg.compileWorkers with
  | none => exact h_cores
  | some n =>
    refine Nat.pos_of_ne_zero fun h_zero => ?_
    simp only [Option.getD_some] at h_zero
    subst h_zero
    simp [Valid, fault?, h_workers, threadFault?] at h_valid

end Settings

namespace Opening

variable {cfg : Settings} {host : Host}

/-- A name without NUL starts if and only if the host lets it. -/
theorem startOne_of_nulFree {name : String} (h_name : NulFree name) (number : Nat) :
    startOne host number name =
      match host number with
      | some reason => .refused (spawnFailure reason)
      | none => .opened := by
  have h_plain : name.toList.contains '\x00' = false := by simpa [NulFree] using h_name
  rw [startOne, h_plain]
  rfl

/-- Threads that can all be started run, and none of them is stopped. -/
theorem startAll_eq_opened {names : List String} (h_names : ∀ name ∈ names, NulFree name)
    (number : Nat) (h_host : ∀ k < names.length, host (number + k) = none) (runs : List String) :
    startAll host number runs names = (names.map .started, .opened) := by
  induction names generalizing number runs with
  | nil => rfl
  | cons name names ih =>
    have h_first : host number = none := h_host 0 (Nat.zero_lt_succ _)
    have h_rest : ∀ k < names.length, host (number + 1 + k) = none := fun k h_k => by
      rw [Nat.add_right_comm]
      exact h_host (k + 1) (Nat.succ_lt_succ h_k)
    rw [startAll, startOne_of_nulFree (h_names name (List.mem_cons_self ..)), h_first]
    simp only [ih (fun x h_x => h_names x (List.mem_cons_of_mem _ h_x)) (number + 1) h_rest]
    rfl

/-- A name with a NUL ends a row of starts at once. -/
theorem startAll_eq_unwound {name : String} (h_name : ¬ NulFree name) (number : Nat)
    (runs names : List String) :
    startAll host number runs (name :: names) = ([], .unwound (nulMessage name)) := by
  have h_nul : name.toList.contains '\x00' = true := by simpa [NulFree] using h_name
  rw [startAll, startOne, h_nul]
  rfl

/-- A row of starts goes on with a second one if all of the first run. -/
theorem startAll_append (first second : List String) (number : Nat) (runs : List String) :
    startAll host number runs (first ++ second) =
      match startAll host number runs first with
      | (events, .opened) =>
        let (more, result) := startAll host (number + first.length) (runs ++ first) second
        (events ++ more, result)
      | stuck => stuck := by
  induction first generalizing number runs with
  | nil => simp [startAll]
  | cons name first ih =>
    rw [List.cons_append, startAll, startAll]
    cases startOne host number name with
    | refused reason => rfl
    | unwound message => rfl
    | opened =>
      simp only [ih, List.length_cons, Nat.add_right_comm number 1, Nat.add_assoc,
        List.append_assoc, List.singleton_append]
      rcases startAll host (number + 1) (runs ++ [name]) first with ⟨events, result⟩
      cases result <;> rfl

/-! ## The threads of a dispatcher -/

/-- The names of a dispatcher's threads, in the order in which they are started. -/
def threadNames (cfg : Settings) (cores : Nat) : List String :=
  workerNames cfg (cfg.threadCount cores) ++ [cfg.launchThreadName]

@[simp] theorem length_workerNames (threads : Nat) :
    (workerNames cfg threads).length = threads := by
  simp [workerNames]

@[simp] theorem length_threadNames (cores : Nat) :
    (threadNames cfg cores).length = cfg.threadCount cores + 1 := by
  simp [threadNames]

theorem nulFree_of_mem_threadNames (h_label : NulFree cfg.threadLabel) {cores : Nat}
    {name : String} (h_name : name ∈ threadNames cfg cores) : NulFree name := by
  rcases List.mem_append.1 h_name with h_worker | h_launch
  · obtain ⟨worker, -, rfl⟩ := List.mem_map.1 h_worker
    exact cfg.nulFree_compileThreadName h_label worker
  · rw [List.mem_singleton.1 h_launch]
    exact cfg.nulFree_launchThreadName h_label

/-- With a NUL in the label the first worker does not start, nor does anything after it. -/
theorem startAll_workers_eq_unwound (h_label : ¬ NulFree cfg.threadLabel) {threads : Nat}
    (h_threads : 0 < threads) (number : Nat) (runs : List String) :
    startAll host number runs (workerNames cfg threads) =
      ([], .unwound (nulMessage (cfg.compileThreadName 0))) := by
  have h_first : ¬ NulFree (cfg.compileThreadName 0) := fun h_nul =>
    h_label h_nul.of_append.of_append
  obtain ⟨more, rfl⟩ := Nat.exists_eq_add_of_lt h_threads
  rw [workerNames, Nat.zero_add, List.range_succ_eq_map, List.map_cons]
  exact startAll_eq_unwound h_first number runs _

theorem startPool_eq_startAll {cores : Nat} (h_threads : 0 < cfg.threadCount cores) :
    startPool cfg cores host = startAll host 0 [] (workerNames cfg (cfg.threadCount cores)) := by
  unfold startPool
  split
  · next h_zero => exact absurd h_zero (Nat.ne_of_gt h_threads)
  · rfl

/-- Valid settings start all their threads in one row. A refused launch thread has its workers
stopped from outside the row, which comes to the same. -/
theorem dispatcher_eq_startAll (h_valid : cfg.Valid) {cores : Nat} (h_cores : 0 < cores) :
    dispatcher cfg cores host = startAll host 0 [] (threadNames cfg cores) := by
  have h_threads := Settings.threadCount_pos h_valid h_cores
  rw [dispatcher, show cfg.fault? = none from h_valid, threadNames, startAll_append]
  simp only [startPool_eq_startAll h_threads, length_workerNames, List.nil_append, Nat.zero_add]
  by_cases h_label : NulFree cfg.threadLabel
  · rcases startAll host 0 [] (workerNames cfg (cfg.threadCount cores)) with ⟨events, result⟩
    cases result with
    | refused reason => rfl
    | unwound message => rfl
    | opened =>
      simp only [startLaunch, startAll,
        startOne_of_nulFree (cfg.nulFree_launchThreadName h_label)]
      cases host (cfg.threadCount cores) <;> simp
  · -- The launch thread is not reached, so what a panic there would undo does not matter.
    rw [startAll_workers_eq_unwound h_label h_threads]

/-- Valid settings open on a host that lets every thread run. -/
theorem dispatcher_opens (h_valid : cfg.Valid) (h_label : NulFree cfg.threadLabel) {cores : Nat}
    (h_cores : 0 < cores) (h_host : ∀ n, host n = none) :
    dispatcher cfg cores host =
      ((workerNames cfg (cfg.threadCount cores) ++ [cfg.launchThreadName]).map .started,
        .opened) := by
  rw [dispatcher_eq_startAll h_valid h_cores]
  exact startAll_eq_opened (fun _ => nulFree_of_mem_threadNames h_label) 0
    (fun k _ => h_host (0 + k)) []

end Opening

end KernelDispatch
