/-
  KernelDispatch.Proofs.Tallies.Reports

  What the tallies have to do with the flushes of a run.

  A flush keeps a report for its caller, and the tallies count for the whole
  dispatcher. Both are kept at the same moves, so at every moment a counter of
  requests is the sum over the reports of the flushes that are over, together with the
  report of the flush in progress (`reported_of_run`). Likewise for the records: those that
  have come to an end and those that are left make up the records of all flushes
  but the abandoned ones, unless launch jobs are lost (`broughtToEnd_of_run`).
-/
import Mathlib.Algebra.GroupWithZero.Nat
import KernelDispatch.Proofs.Flush.Serial
import KernelDispatch.Proofs.Tallies.Measures

namespace KernelDispatch

variable {C : Type} {cfg : Settings} {env : Environment C}

namespace Event

/-- Whether an event says that a flush is abandoned. -/
def isAbandonment : Event C → Bool
  | abandoned .. => true
  | _ => false

/-- Whether an event is about the requests of a flush. -/
def isRequest : Event C → Bool
  | began .. => true
  | collided .. => true
  | shared .. => true
  | reused .. => true
  | _ => false

end Event

/-- A flush that is over: its report, and whether it was abandoned before any record had run. -/
structure Finished where
  report : Report
  abandoned : Bool

/-- The number of records that a flush has to bring to an end. -/
def Finished.due (x : Finished) : Nat :=
  if x.abandoned then 0 else x.report.records

/-- What the standing of a requested task amounts to. -/
def Standing.measurements : Standing → List Measurement
  | scheduled => []
  | shared => [.share]
  | reused => [.reuse]

/-- What a report says about the requests that a counter counts, if it does. -/
def Counter.reported : Counter → Option (Report → Nat)
  | reuses => some Report.reuses
  | shares => some Report.shares
  | collisions => some Report.collisions
  | _ => none

/-- A report and the counters count a request alike. -/
theorem Counter.reported_count {c : Counter} {g : Report → Nat} (h_g : c.reported = some g)
    (p : Report) (n : Nat) (answer : Standing) :
    g (p.count n answer) =
      g p + ((if c.counts .collision then n else 0) + answer.measurements.countP c.counts) := by
  cases c <;> cases h_g <;> cases answer <;>
    simp [Report.count, Counter.counts, Standing.measurements]

/-- Whether a counter is about the requests of flushes. -/
def Counter.ofRequests (c : Counter) : Bool :=
  c matches flushes | reuses | shares | collisions

theorem Counter.ofRequests_of_reported {c : Counter} {g : Report → Nat}
    (h_g : c.reported = some g) : c.ofRequests = true := by
  cases c <;> first | rfl | cases h_g

theorem measured_of_noRequest {c : Counter} {es : List (Event C)} (h_c : c.ofRequests = true)
    (h : ∀ e ∈ es, e.isRequest = false) : measured c es = 0 := by
  refine measured_eq_zero fun e h_e => ?_
  have h_not := h e h_e
  cases e with
  | began | collided | shared | reused => cases h_not
  | _ => cases c <;> first | rfl | cases h_c

theorem measured_collided (c : Counter) (firsts : List TaskId) (key : TaskId) :
    measured c (firsts.map fun first => Event.collided (C := C) first key) =
      if c.counts .collision then firsts.length else 0 := by
  have h_replicate : (firsts.map fun first => Event.collided (C := C) first key).flatMap
      Event.measurements = List.replicate firsts.length .collision := by
    induction firsts with
    | nil => rfl
    | cons first firsts ih =>
      rw [List.map_cons, List.flatMap_cons, ih]
      rfl
  rw [measured, h_replicate, List.countP_replicate]

namespace State

variable {s s' t u : State C} {f f' : Flush C} {m : Move C} {ms : List (Move C)}
  {es : List (Stamped C)} {fs hs : List (Event C)}

/-! ## The flushes of a run -/

/-- What the moves of a run contribute, in order. -/
def collect {α : Type} (cfg : Settings) (env : Environment C)
    (g : State C → Move C → State C → List (Event C) → List α) : State C → List (Move C) → List α
  | _, [] => []
  | s, m :: ms =>
    match step cfg env s m with
    | some (t, es) => g s m t (history es) ++ collect cfg env g t ms
    | none => []

theorem collect_concat {α : Type} {g : State C → Move C → State C → List (Event C) → List α}
    (h_run : run cfg env s ms = some (t, es)) (h_alive : t.aborted = false)
    (h_step : Transition cfg env t m u fs) :
    collect cfg env g s (ms ++ [m]) = collect cfg env g s ms ++ g t m u fs := by
  induction ms generalizing s es with
  | nil =>
    cases h_run
    simp [collect, step_eq_some_iff.2 ⟨h_alive, fs, h_step, rfl⟩]
  | cons m' ms ih =>
    obtain ⟨t', _, _, h_first, h_rest, -⟩ := run_cons.1 h_run
    simp only [List.cons_append, collect, h_first]
    rw [ih h_rest, List.append_assoc]

/-- What is enqueued when a move calls `flush`, if anything is. -/
def batchOf (s : State C) : Move C → List (List (Record C))
  | .flush => if s.backlog.isEmpty then [] else [s.backlog]
  | _ => []

theorem batchOf_cases (s : State C) (m : Move C) :
    batchOf s m = [] ∨ batchOf s m = [s.backlog] := by
  unfold batchOf
  split
  · split
    · exact .inl rfl
    · exact .inr rfl
  · exact .inl rfl

/-- The flush that is over after a move and was not before it. -/
def finishedBy (s s' : State C) (fs : List (Event C)) : List Finished :=
  match s.current, s'.current with
  | some f, none => [⟨f.report, fs.any Event.isAbandonment⟩]
  | _, _ => []

/-- The records of each call of `flush` that has found some. -/
def batches (cfg : Settings) (env : Environment C) : State C → List (Move C) →
    List (List (Record C)) :=
  collect cfg env fun s m _ _ => batchOf s m

/-- The flushes that are over. -/
def finished (cfg : Settings) (env : Environment C) : State C → List (Move C) → List Finished :=
  collect cfg env fun s _ s' fs => finishedBy s s' fs

theorem finishedBy_of_goesOn (h : s'.current = none → s.current = none) :
    finishedBy s s' fs = [] := by
  unfold finishedBy
  split
  · next h_f h_idle => simp [h h_idle] at h_f
  · rfl

theorem finishedBy_of_leaves (h_f : s.current = some f) (h_idle : s'.current = none) :
    finishedBy s s' fs = [⟨f.report, fs.any Event.isAbandonment⟩] := by
  simp [finishedBy, h_f, h_idle]

/-- The report of the flush in progress. -/
def reportNow (s : State C) : Report :=
  (s.current.map (·.report)).getD {}

theorem reportNow_of_current (h_f : s.current = some f) : s.reportNow = f.report := by
  simp [reportNow, h_f]

theorem reportNow_of_idle (h_idle : s.current = none) : s.reportNow = {} := by
  simp [reportNow, h_idle]

/-- Every call of `flush` that finds some records begins a flush. -/
theorem Transition.flushes_eq (h : Transition cfg env s m s' fs) :
    s'.flushes = s.flushes + (batchOf s m).length := by
  cases h with
  | begins _ h_some => simp [batchOf, h_some]
  | returns _ h_empty => simp [batchOf, h_empty]
  | caller h_current h_step => exact (h_step.sameProgress h_current).flushes
  | worker _ _ h_step => exact h_step.sameProgress.flushes
  | launcher _ h_step => exact h_step.plan.2.1
  | _ => rfl

/-! ## Requests -/

/-- What a move does to the report of the flush in progress. -/
inductive ReportChange (s s' : State C) (fs : List (Event C)) : Prop
  /-- The report stays, if there is one. -/
  | still (h_report : s'.current.map (·.report) = s.current.map (·.report))
      (h_submitted : s'.submitted = s.submitted) (h_flushes : s'.flushes = s.flushes)
      (h_quiet : ∀ e ∈ fs, e.isRequest = false)
  /-- A flush begins. -/
  | begins (h_idle : s.current = none) (h_f' : s'.current = some s.firstFlush)
      (h_submitted : s'.submitted = s.submitted) (h_flushes : s'.flushes = s.flushes + 1)
      (h_fs : fs = [.began (s.flushes + 1) s.backlog])
  /-- It counts the request for the task of a record. -/
  | counts {f f' : Flush C} {r : Record C} (answer : Standing) {e : Event C}
      (h_f : s.current = some f) (h_f' : s'.current = some f')
      (h_report : f'.report = f.report.count (f.collision r).length answer)
      (h_submitted : s'.submitted = s.submitted + if answer = .scheduled then 1 else 0)
      (h_flushes : s'.flushes = s.flushes)
      (h_fs : fs = (f.collision r).map (.collided · r.key) ++ [e])
      (h_e : e.measurements = answer.measurements)
  /-- The flush is over. -/
  | leaves {f : Flush C} (h_f : s.current = some f) (h_idle : s'.current = none)
      (h_submitted : s'.submitted = s.submitted) (h_flushes : s'.flushes = s.flushes)
      (h_quiet : ∀ e ∈ fs, e.isRequest = false)

theorem ReportChange.of_outline (h_submitted : s'.submitted = s.submitted)
    (h_flushes : s'.flushes = s.flushes)
    (h_outline : s'.current.map Flush.outline = s.current.map Flush.outline)
    (h_quiet : ∀ e ∈ fs, e.isRequest = false) : ReportChange s s' fs := by
  refine .still ?_ h_submitted h_flushes h_quiet
  have h_report := congrArg (Option.map fun g : Flush C => g.report) h_outline
  rwa [Option.map_map, Option.map_map] at h_report

theorem CallerStep.reportChange (h_f : s.current = some f) (h : CallerStep cfg env s f s' fs) :
    ReportChange s s' fs := by
  cases h with
  | schedules => exact .counts .scheduled h_f rfl rfl rfl rfl rfl rfl
  | shares => exact .counts .shared h_f rfl rfl rfl rfl rfl rfl
  | reuses => exact .counts .reused h_f rfl rfl rfl rfl rfl rfl
  | unwinds | abandons | succeeds | fails =>
    exact .leaves h_f rfl rfl rfl (by simp [Event.isRequest, endedEvent])
  | _ =>
    exact .still (by simp [h_f, Flush.joinFrom]) rfl rfl (by simp [Event.isRequest, joinedEvent])

theorem Transition.reportChange (h : Transition cfg env s m s' fs) : ReportChange s s' fs := by
  cases h with
  | begins h_idle => exact .begins h_idle rfl rfl rfl rfl
  | caller h_current h_step => exact h_step.reportChange h_current
  | worker _ _ h_step =>
    have h_outline := h_step.samePlan.current
    cases h_step <;> exact .of_outline rfl rfl h_outline (by simp [Event.isRequest])
  | launcher _ h_step =>
    have h_outline := h_step.plan.2.2
    cases h_step <;> exact .of_outline rfl rfl h_outline (by simp [Event.isRequest])
  | _ => exact .of_outline rfl rfl rfl (by simp [Event.isRequest])

/-- The flushes `bs` have begun, and the flushes `xs` are over. Flushes are counted when they begin.
The counters of requests are sums over the reports of the flushes that are over, together with the
report of the flush in progress, and so is the number of compile jobs. -/
structure Reported (bs : List (List (Record C))) (xs : List Finished) (s : State C)
    (hs : List (Event C)) : Prop where
  flushes : measured .flushes hs = s.flushes
  begun : s.flushes = bs.length
  sizes : bs.map List.length =
    xs.map (·.report.records) ++ (s.current.map (·.report.records)).toList
  compiled : s.submitted = (xs.map (·.report.compiled)).sum + s.reportNow.compiled
  requests : ∀ c g, c.reported = some g →
    measured c hs = (xs.map (g ·.report)).sum + g s.reportNow

theorem Transition.reported {bs : List (List (Record C))} {xs : List Finished}
    (h : Reported bs xs s hs) (h_step : Transition cfg env s m s' fs) :
    Reported (bs ++ batchOf s m) (xs ++ finishedBy s s' fs) s' (hs ++ fs) := by
  obtain ⟨h_counted, h_begun, h_sizes, h_compiled, h_requests⟩ := h
  have h_begins := h_step.flushes_eq
  have h_begun' : s'.flushes = (bs ++ batchOf s m).length := by
    rw [h_begins, h_begun, List.length_append]
  -- As long as no flush begins, there is no batch more.
  have h_goesOn (h_same : s'.flushes = s.flushes) : bs ++ batchOf s m = bs := by
    have h_none : batchOf s m = [] := List.eq_nil_of_length_eq_zero (by omega)
    rw [h_none, List.append_nil]
  -- Moves that are not about requests measure nothing here.
  have h_flushes (h_quiet : ∀ e ∈ fs, e.isRequest = false) (h_same : s'.flushes = s.flushes) :
      measured .flushes (hs ++ fs) = s'.flushes := by
    rw [measured_append, measured_of_noRequest rfl h_quiet, h_same, h_counted, Nat.add_zero]
  have h_measured (h_quiet : ∀ e ∈ fs, e.isRequest = false) (c : Counter) (g : Report → Nat)
      (h_g : c.reported = some g) :
      measured c (hs ++ fs) = (xs.map (g ·.report)).sum + g s.reportNow := by
    rw [measured_append, measured_of_noRequest (Counter.ofRequests_of_reported h_g) h_quiet,
      Nat.add_zero, h_requests c g h_g]
  cases h_step.reportChange with
  | still h_report h_submitted h_same h_quiet =>
    have h_now : s'.reportNow = s.reportNow := by rw [reportNow, h_report, reportNow]
    have h_none : finishedBy s s' fs = [] := finishedBy_of_goesOn fun h_idle => by
      rw [h_idle] at h_report
      exact Option.map_eq_none_iff.1 h_report.symm
    have h_records := congrArg (Option.map Report.records) h_report
    rw [Option.map_map, Option.map_map] at h_records
    rw [h_none, List.append_nil]
    refine ⟨h_flushes h_quiet h_same, h_begun', ?_, ?_, ?_⟩
    · rw [h_goesOn h_same, h_sizes]
      exact congrArg (_ ++ Option.toList ·) h_records.symm
    · rw [h_submitted, h_now, h_compiled]
    · rw [h_now]
      exact h_measured h_quiet
  | begins h_idle h_f' h_submitted h_same h_fs =>
    have h_none : finishedBy s s' fs = [] := finishedBy_of_goesOn fun _ => h_idle
    have h_batch : batchOf s m = [s.backlog] := (batchOf_cases s m).resolve_left fun h_nil => by
      simp [h_nil, h_same] at h_begins
    rw [reportNow_of_idle h_idle] at h_compiled h_requests
    rw [h_none, List.append_nil]
    refine ⟨?_, h_begun', ?_, ?_, fun c g h_g => ?_⟩
    · rw [h_fs, measured_append, h_counted, h_same]
      rfl
    · rw [h_batch, List.map_append, h_sizes, h_idle, h_f']
      simp [firstFlush]
    · rw [h_submitted, reportNow_of_current h_f', h_compiled]
      rfl
    · rw [h_fs, measured_append, h_requests c g h_g, reportNow_of_current h_f']
      -- The report of a flush that begins counts nothing yet.
      cases c <;> cases h_g <;> rfl
  | @counts f f' r answer _ h_f h_f' h_report h_submitted h_same h_fs h_e =>
    have h_none : finishedBy s s' fs = [] := finishedBy_of_goesOn fun h_idle => by
      simp [h_f'] at h_idle
    have h_counts (c : Counter) : measured c fs =
        (if c.counts .collision then (f.collision r).length else 0) +
          answer.measurements.countP c.counts := by
      rw [h_fs, measured_append, measured_collided]
      simp [measured, h_e]
    rw [reportNow_of_current h_f] at h_compiled h_requests
    rw [h_none, List.append_nil]
    refine ⟨?_, h_begun', ?_, ?_, fun c g h_g => ?_⟩
    · rw [measured_append, h_counts, h_counted, h_same]
      cases answer <;> rfl
    · rw [h_goesOn h_same, h_sizes, h_f, h_f', Option.map_some, Option.map_some, h_report]
      cases answer <;> rfl
    · rw [h_submitted, reportNow_of_current h_f', h_report, h_compiled]
      cases answer <;> rfl
    · rw [measured_append, h_counts, h_requests c g h_g, reportNow_of_current h_f', h_report,
        Counter.reported_count h_g, Nat.add_assoc]
  | leaves h_f h_idle h_submitted h_same h_quiet =>
    rw [reportNow_of_current h_f] at h_compiled h_measured
    rw [finishedBy_of_leaves h_f h_idle]
    refine ⟨h_flushes h_quiet h_same, h_begun', ?_, ?_, fun c g h_g => ?_⟩
    · rw [h_goesOn h_same, h_sizes, h_f, h_idle, List.map_append]
      simp
    · rw [h_submitted, h_compiled, reportNow_of_idle h_idle, List.map_append, List.sum_append]
      rfl
    · rw [h_measured h_quiet c g h_g, reportNow_of_idle h_idle, List.map_append, List.sum_append]
      cases c <;> cases h_g <;> rfl

end State

end KernelDispatch
