/-
  KernelDispatch.Proofs.Flush.Fates

  What becomes of the records of a flush.

  A record's artifact runs, or there is no artifact for the record; `fates` tells which
  from the artifacts that there are, and what the runs come to. The launch thread does
  with the records what their fates say: at every moment of a call the history has
  run and ended the records that are done as the endings of the compile jobs so far
  decide it (`LoneCall.done_as_fated`). It gives up on a slot that is still pending only
  after the deadline of the compile jobs, and then no job comes to anything in
  time any more (`LoneCall.due_le_of_waiting`).
-/
import KernelDispatch.Proofs.Flush.Gathering
import KernelDispatch.Proofs.Flush.Records
import KernelDispatch.Proofs.Flush.Supply

namespace KernelDispatch

variable {C : Type} {cfg : Settings} {env : Environment C}

/-! ## Fates -/

/-- What becomes of a record: its artifact runs and comes to this, or there is none. -/
structure Fate (C : Type) where
  record : Record C
  run : Option (Artifact C × Execution C)

/-- The fate of a record when so many artifacts have run. -/
def fateOf (supply : TaskId → Option (Artifact C)) (runs : Nat) (r : Record C) : Fate C where
  record := r
  run := (supply r.key).map fun artifact => (artifact, artifact.code runs r.context)

/-- The number of artifacts that run. -/
def runsIn (fates : List (Fate C)) : Nat :=
  fates.countP (·.run.isSome)

/-- The fates of records, one after the other. -/
def fates (supply : TaskId → Option (Artifact C)) (runs : Nat) : List (Record C) → List (Fate C)
  | [] => []
  | r :: rest =>
    let fate := fateOf supply runs r
    fate :: fates supply (runs + runsIn [fate]) rest

/-- The runs of artifacts with the places of their records. -/
def placedRuns (fates : List (Fate C)) : List (Nat × Record C × Artifact C × Execution C) :=
  fates.zipIdx.filterMap fun x => x.1.run.map fun run => (x.2, x.1.record, run)

/-- The outcome of a launch job whose artifact has run; none if the job is lost. -/
def verdictOf (r : Record C) : Execution C → Option Outcome
  | .completed _ => some (.ok ())
  | .panicked cause =>
    some (.error (.dispatch r.kernel r.key.digest ("artifact panicked: " ++ cause.message)))
  | .lost _ => none

/-- A launch job that comes to this outcome, or is lost, meets the fate of its record. It is lost
without an artifact if it is `mute`: it cannot name the kernel of its record. -/
def Fate.Meets (mute : Bool) (fate : Fate C) (verdict : Option Outcome) : Prop :=
  match fate.run with
  | none => if mute then verdict = none else ∃ failure, verdict = some (.error failure)
  | some run => verdict = verdictOf fate.record run.2

@[simp] theorem runsIn_append (xs ys : List (Fate C)) :
    runsIn (xs ++ ys) = runsIn xs + runsIn ys :=
  List.countP_append

theorem fates_concat (supply : TaskId → Option (Artifact C)) (runs : Nat) (rs : List (Record C))
    (r : Record C) :
    fates supply runs (rs ++ [r]) =
      fates supply runs rs ++ [fateOf supply (runs + runsIn (fates supply runs rs)) r] := by
  induction rs generalizing runs with
  | nil => simp [fates, runsIn]
  | cons r' rest ih =>
    have h_runs := runsIn_append [fateOf supply runs r']
      (fates supply (runs + runsIn [fateOf supply runs r']) rest)
    rw [List.singleton_append] at h_runs
    rw [List.cons_append, fates, ih, fates, List.cons_append, h_runs, Nat.add_assoc]

theorem fates_congr {supply supply' : TaskId → Option (Artifact C)} {rs : List (Record C)}
    (h : ∀ r ∈ rs, supply r.key = supply' r.key) (runs : Nat) :
    fates supply runs rs = fates supply' runs rs := by
  induction rs generalizing runs with
  | nil => rfl
  | cons r rest ih =>
    have h_fate : fateOf supply runs r = fateOf supply' runs r := by
      rw [fateOf, fateOf, h r (List.mem_cons_self ..)]
    rw [fates, fates, h_fate]
    exact congrArg _ (ih (fun r h_r => h r (List.mem_cons_of_mem _ h_r)) _)

theorem length_fates (supply : TaskId → Option (Artifact C)) (runs : Nat) (rs : List (Record C)) :
    (fates supply runs rs).length = rs.length := by
  induction rs generalizing runs with
  | nil => rfl
  | cons r rest ih => rw [fates, List.length_cons, List.length_cons, ih]

theorem placedRuns_concat (xs : List (Fate C)) (x : Fate C) :
    placedRuns (xs ++ [x]) =
      placedRuns xs ++ (x.run.map fun run => (xs.length, x.record, run)).toList := by
  rw [placedRuns, List.zipIdx_append, List.filterMap_append]
  cases h : x.run <;> simp [placedRuns, h]

/-- What an event says about a run of an artifact for a record of a flush. -/
def Event.placedRun? (n : Nat) : Event C → Option (Nat × Record C × Artifact C × Execution C)
  | ran flush seq record artifact result =>
    if flush = n then some (seq, record, artifact, result) else none
  | _ => none

/-- The runs of artifacts in a flush, with the places of their records, in order. -/
def launches (n : Nat) (es : List (Event C)) : List (Nat × Record C × Artifact C × Execution C) :=
  es.filterMap (Event.placedRun? n)

@[simp] theorem launches_append (n : Nat) (es fs : List (Event C)) :
    launches n (es ++ fs) = launches n es ++ launches n fs :=
  List.filterMap_append ..

/-- Launch jobs, of which those at some places are mute, meet the fates of their records. -/
def AllMeet (mute : Nat → Bool) (xs : List (Fate C)) (verdicts : List (Option Outcome)) : Prop :=
  List.Forall₂ (fun x => x.1.Meets (mute x.2)) xs.zipIdx verdicts

/-- In a history, the launch jobs of a flush that are done have met these fates. -/
structure Fated (mute : Nat → Bool) (n : Nat) (xs : List (Fate C)) (es : List (Event C)) :
    Prop where
  ran : launches n es = placedRuns xs
  met : AllMeet mute xs ((verdicts n es).map Prod.snd)

theorem launches_of_noEntry (n : Nat) {es : List (Event C)} (h : ∀ e ∈ es, e.isEntry = false) :
    launches n es = [] := by
  refine List.filterMap_eq_nil_iff.2 fun e h_e => ?_
  have h_quiet := h e h_e
  cases e with
  | ran => simp [Event.isEntry] at h_quiet
  | _ => rfl

theorem Fated.quiet {mute : Nat → Bool} {n : Nat} {xs : List (Fate C)} {es fs : List (Event C)}
    (h : Fated mute n xs es) (h_quiet : ∀ e ∈ fs, e.isEntry = false) :
    Fated mute n xs (es ++ fs) := by
  constructor
  · rw [launches_append, launches_of_noEntry n h_quiet, List.append_nil]
    exact h.ran
  · rw [verdicts_append, verdicts_of_noEntry n h_quiet, List.append_nil]
    exact h.met

/-- One more launch job meets its fate. -/
theorem Fated.concat {mute : Nat → Bool} {n : Nat} {xs : List (Fate C)} {x : Fate C}
    {es fs : List (Event C)} {verdict : Option Outcome} (h : Fated mute n xs es)
    (h_ran : launches n fs = (x.run.map fun run => (xs.length, x.record, run)).toList)
    (h_verdict : (verdicts n fs).map Prod.snd = [verdict])
    (h_meets : x.Meets (mute xs.length) verdict) : Fated mute n (xs ++ [x]) (es ++ fs) := by
  constructor
  · rw [launches_append, h.ran, h_ran, placedRuns_concat]
  · rw [verdicts_append, List.map_append, h_verdict, AllMeet, List.zipIdx_append]
    refine List.rel_append h.met (.cons ?_ .nil)
    rwa [Nat.zero_add]

namespace State

variable {s s' s₀ t u : State C} {f f' : Flush C} {due : Moment} {ms : List (Move C)}
  {m : Move C} {es : List (Stamped C)} {fs : List (Event C)}

/-- Without a run of an artifact in the history there is none. -/
theorem Transition.runs_eq (h_step : Transition cfg env s m s' fs)
    (h_quiet : ∀ e ∈ fs, e.isEntry = false) (h_alive : s'.aborted = false) :
    s'.runs = s.runs := by
  cases h_step with
  | caller _ h_step | worker _ _ h_step => cases h_step <;> rfl
  | launcher _ h_step =>
    cases h_step with
    | completes | panics | loses => simp [Event.isEntry] at h_quiet
    | aborts => cases h_alive
    | _ => rfl
  | _ => rfl

/-! ## Records that are done -/

/-- The launch thread has done with the records that are done what their fates say if these are the
artifacts for their tasks. -/
structure DoneAs (env : Environment C) (supply : TaskId → Option (Artifact C)) (s₀ t : State C)
    (es : List (Event C)) (f : Flush C) : Prop where
  fated : Fated (env.mute (s₀.flushes + 1)) (s₀.flushes + 1)
    (fates supply s₀.runs (s₀.backlog.take (t.done f))) es
  runs : t.aborted = false →
    t.runs = s₀.runs + runsIn (fates supply s₀.runs (s₀.backlog.take (t.done f)))

/-- A launch job comes to its end as a fate says. -/
structure EndsAs (env : Environment C) (n : Nat) (t : State C) (job : LaunchJob C) (fate : Fate C)
    (u : State C) (fs : List (Event C)) : Prop where
  ran : launches n fs = (fate.run.map fun run => (job.seq, fate.record, run)).toList
  met : ∃ verdict, (verdicts n fs).map Prod.snd = [verdict] ∧
    fate.Meets (env.mute n job.seq) verdict
  runs : u.runs = t.runs + runsIn [fate]

/-- A launch job comes to its end as the artifact in the slot of its task decides. -/
theorem LauncherStep.endsAs {job : LaunchJob C} {rest : List (LaunchJob C)}
    {supply : TaskId → Option (Artifact C)} (h_step : LauncherStep cfg env t job rest u fs)
    (h_lane : t.lane = job :: rest) (h_lane' : u.lane = rest)
    (h_clock : cfg.dispatchPatience.deadline? t.now ≠ none) (h_key : job.key = job.record.key)
    (h_held : ∀ since artifact, job.phase = .holding since artifact →
      t.store.slot? job.key = some (.ready artifact))
    (h_supply : ∀ artifact, supply job.record.key = some artifact ↔
      t.store.slot? job.key = some (.ready artifact)) :
    EndsAs env job.flush t job (fateOf supply t.runs job.record) u fs := by
  have h_unsupplied (h_slot : ∀ artifact, t.store.slot? job.key ≠ some (.ready artifact)) :
      supply job.record.key = none :=
    Option.eq_none_iff_forall_ne_some.2 fun artifact h_some =>
      h_slot artifact ((h_supply artifact).1 h_some)
  cases h_step with
  | waits | finds | aborts => simp [h_lane] at h_lane'
  | overflows _ h_deadline => exact absurd h_deadline h_clock
  | @misses since _ _ h_slot _ h_told =>
    have h_none := h_unsupplied h_slot
    constructor
    · simp [fateOf, h_none, launches, Event.placedRun?]
    · refine ⟨some (.error (missFailure job since t.now (t.store.slot? job.key))), ?_, ?_⟩
      · simp [Event.verdict?]
      · simp [Fate.Meets, fateOf, h_none, h_told]
    · simp [fateOf, h_none, runsIn]
  | mutes _ h_slot _ h_mute =>
    have h_none := h_unsupplied h_slot
    refine ⟨?_, ⟨none, ?_, ?_⟩, ?_⟩
    · simp [fateOf, h_none, launches, Event.placedRun?]
    · simp [Event.verdict?]
    · simp [Fate.Meets, fateOf, h_none, h_mute]
    · simp [fateOf, h_none, runsIn]
  | expires _ h_slot _ h_mute =>
    have h_none := h_unsupplied (by simp [h_slot])
    refine ⟨?_, ⟨none, ?_, ?_⟩, ?_⟩
    · simp [fateOf, h_none, launches, Event.placedRun?]
    · simp [Event.verdict?]
    · simp [Fate.Meets, fateOf, h_none, h_mute]
    · simp [fateOf, h_none, runsIn]
  | completes h_phase h_result =>
    have h_some := (h_supply _).2 (h_held _ _ h_phase)
    refine ⟨?_, ⟨some (.ok ()), ?_, ?_⟩, ?_⟩
    · simp [fateOf, h_some, launches, Event.placedRun?, h_result]
    · simp [Event.verdict?]
    · simp [Fate.Meets, verdictOf, fateOf, h_some, h_result]
    · simp [fateOf, h_some, runsIn]
  | @panics _ _ _ failure h_phase h_result _ h_failure =>
    have h_some := (h_supply _).2 (h_held _ _ h_phase)
    refine ⟨?_, ⟨some (.error failure), ?_, ?_⟩, ?_⟩
    · simp [fateOf, h_some, launches, Event.placedRun?, h_result]
    · simp [Event.verdict?]
    · simp [Fate.Meets, verdictOf, fateOf, h_some, h_result, h_failure, dispatchFailure, h_key]
    · simp [fateOf, h_some, runsIn]
  | loses h_phase h_result =>
    have h_some := (h_supply _).2 (h_held _ _ h_phase)
    refine ⟨?_, ⟨none, ?_, ?_⟩, ?_⟩
    · simp [fateOf, h_some, launches, Event.placedRun?, h_result]
    · simp [Event.verdict?]
    · simp [Fate.Meets, verdictOf, fateOf, h_some, h_result]
    · simp [fateOf, h_some, runsIn]

/-- The end of the first launch job adds its record to those that are done. -/
theorem FlushLayout.take_closes (h : FlushLayout cfg t f) {job : LaunchJob C}
    {rest : List (LaunchJob C)} (h_lane : t.lane = job :: rest) (h_lane' : u.lane = rest)
    (h_backlog : u.backlog = t.backlog) (h_batch : f'.batch = f.batch) :
    f.batch.take (u.done f') = f.batch.take (t.done f) ++ [job.record] := by
  have h_done : u.done f' = t.done f + 1 := by
    rw [← done_closes h h_lane]
    simp only [done, h_lane', h_backlog, h_batch]
  have h_record := h.record_at h_lane
  rw [h.seq_eq h_lane] at h_record
  rw [h_done, List.take_add_one, h_record]
  rfl

namespace DoneAs

variable {supply supply' : TaskId → Option (Artifact C)} {es : List (Event C)}

/-- Only the artifacts for the records that are done count. -/
theorem congr (h : DoneAs env supply s₀ t es f)
    (h_same : ∀ r ∈ s₀.backlog.take (t.done f), supply r.key = supply' r.key) :
    DoneAs env supply' s₀ t es f := by
  have h_fates := fates_congr h_same s₀.runs
  constructor
  · rw [← h_fates]
    exact h.fated
  · rw [← h_fates]
    exact h.runs

/-- A move that ends no launch job leaves the records that are done as they are. -/
theorem onward (h : DoneAs env supply s₀ t es f) (h_batch : f'.batch = f.batch)
    (h_alive : t.aborted = false) (h_step : Transition cfg env t m u fs)
    (h_onward : Onward t u fs) : DoneAs env supply s₀ u (es ++ fs) f' := by
  have h_done : u.done f' = t.done f := h_onward.done_eq h_batch
  constructor
  · rw [h_done]
    exact h.fated.quiet h_onward.noEntry
  · intro h_alive'
    rw [h_done, h_step.runs_eq h_onward.noEntry h_alive']
    exact h.runs h_alive

/-- A launch job that comes to its end as the artifact for its record decides adds that record. -/
theorem closes (h : DoneAs env supply s₀ t es f) (h_flush : FlushLayout cfg t f)
    (h_batch : f.batch = s₀.backlog) (h_batch' : f'.batch = f.batch)
    (h_alive : t.aborted = false) {job : LaunchJob C} {rest : List (LaunchJob C)}
    (h_lane : t.lane = job :: rest) (h_lane' : u.lane = rest) (h_backlog : u.backlog = t.backlog)
    (h_ends : EndsAs env (s₀.flushes + 1) t job (fateOf supply t.runs job.record) u fs) :
    DoneAs env supply s₀ u (es ++ fs) f' := by
  obtain ⟨verdict, h_verdict, h_meets⟩ := h_ends.met
  have h_take := h_flush.take_closes h_lane h_lane' h_backlog h_batch'
  rw [h_batch] at h_take
  have h_fates : fates supply s₀.runs (s₀.backlog.take (u.done f')) =
      fates supply s₀.runs (s₀.backlog.take (t.done f)) ++ [fateOf supply t.runs job.record] := by
    rw [h_take, fates_concat, ← h.runs h_alive]
  have h_length : (fates supply s₀.runs (s₀.backlog.take (t.done f))).length = job.seq := by
    have h_le : t.done f ≤ s₀.backlog.length := by
      rw [← h_batch]
      exact Nat.sub_le ..
    rw [length_fates, List.length_take, h_flush.seq_eq h_lane, Nat.min_eq_left h_le]
  constructor
  · rw [h_fates]
    refine h.fated.concat ?_ h_verdict ?_
    · rw [h_length]
      exact h_ends.ran
    · rwa [h_length]
  · intro _
    rw [h_fates, runsIn_append, h_ends.runs, h.runs h_alive, Nat.add_assoc]

end DoneAs

/-! ## Decided tasks -/

/-- It is decided whether there is an artifact for a task: its slot has settled, or the deadline of
the compile jobs has passed. -/
def Decided (s : State C) (due : Moment) (key : TaskId) : Prop :=
  (∃ slot, s.store.slot? key = some slot ∧ slot.isPending = false) ∨ due ≤ s.now

theorem Decided.step {key : TaskId} (h : Decided s due key)
    (h_step : Transition cfg env s m s' fs) (h_f' : s'.current = some f') :
    Decided s' due key := by
  rcases h with ⟨slot, h_slot, h_settled⟩ | h_due
  · exact .inl ⟨slot, h_step.slotChange.settled_stays (by simp [h_f']) h_slot h_settled, h_settled⟩
  · exact .inr (Nat.le_trans h_due h_step.now_le)

namespace LoneCall

/-! ## Decided slots -/

/-- What is decided about a task stays so. -/
theorem supply_stays (h : LoneCall cfg env s₀ due ms t es)
    (h_after : LoneCall cfg env s₀ due (ms ++ [m]) u (es ++ stamp t.now fs))
    (h_f : t.current = some f) (h_f' : u.current = some f') (h_step : Transition cfg env t m u fs)
    {key : TaskId} (h_decided : Decided t due key) :
    supply s₀.store.slot? (endings (s₀.flushes + 1) due (es ++ stamp t.now fs)) key =
      supply s₀.store.slot? (endings (s₀.flushes + 1) due es) key := by
  rcases h_decided with ⟨slot, h_slot, h_settled⟩ | h_due
  · refine Option.ext fun artifact => ?_
    have h_slot' := h_step.slotChange.settled_stays (by simp [h_f']) h_slot h_settled
    rw [h.supply_eq_some_iff h_f, h_after.supply_eq_some_iff h_f', h_slot, h_slot']
  · rw [endings_of_due _ fs h_due]

/-- The launch jobs of a pipelined flush wait until the deadline of the compile jobs. -/
structure Patient (due : Moment) (job : LaunchJob C) : Prop where
  artifactsDue : job.artifactsDue = some due
  waiting : ∀ since deadline, job.phase = .waiting since deadline → due ≤ deadline

theorem patient (h : LoneCall cfg env s₀ due ms t es) (h_f : t.current = some f)
    (h_pipelined : cfg.pipelined = true) : ∀ job ∈ t.lane, Patient due job := by
  refine h.inFlush_induction (P := fun t _ _ => ∀ job ∈ t.lane, Patient due job) h_f ?_ ?_
  · simp [h.rested.lane]
  · intro ms m t es u fs f f' h_call _ _ h_f h_f' h_before h_step _
    have h_rest {job : LaunchJob C} {rest : List (LaunchJob C)} (h_lane : t.lane = job :: rest) :
        Patient due job ∧ ∀ other ∈ rest, Patient due other := by
      rw [h_lane] at h_before
      exact ⟨h_before _ (List.mem_cons_self ..), fun _ h => h_before _ (List.mem_cons_of_mem _ h)⟩
    cases h_step with
    | @caller f₁ _ _ h_current h_step =>
      obtain rfl := Option.some.inj (h_current.symm.trans h_f)
      cases h_step with
      | submits h_stage =>
        intro job h_job
        rcases List.mem_append.1 h_job with h_old | h_new
        · exact h_before job h_old
        · obtain rfl := List.mem_singleton.1 h_new
          have h_due : f₁.joinDeadline = due :=
            h_call.deadline ms [] t es f₁ (by simp) h_call.reached h_f
              (by simp [Flush.Requesting, h_stage])
          exact ⟨by simp [Flush.launchJob, h_pipelined, h_due], by simp [Flush.launchJob]⟩
      | _ => exact h_before
    | worker _ _ h_step =>
      rw [h_step.samePlan.lane]
      exact h_before
    | launcher h_lane h_step =>
      obtain ⟨h_first, h_others⟩ := h_rest h_lane
      cases h_step with
      | waits =>
        rintro job (_ | ⟨_, h_job⟩)
        · refine ⟨h_first.artifactsDue, fun since deadline h_phase => ?_⟩
          cases h_phase
          rw [h_first.artifactsDue]
          exact Nat.le_max_left ..
        · exact h_others job h_job
      | finds =>
        rintro job (_ | ⟨_, h_job⟩)
        · exact ⟨h_first.artifactsDue, by simp⟩
        · exact h_others job h_job
      | aborts => exact h_before
      | _ => exact h_others
    | _ => exact h_before

/-- A launch job whose slot is pending waits until the deadline of the compile jobs. -/
theorem due_le_of_waiting (h : LoneCall cfg env s₀ due ms t es) (h_f : t.current = some f)
    {job : LaunchJob C} (h_job : job ∈ t.lane) {since deadline : Moment}
    (h_phase : job.phase = .waiting since deadline)
    (h_slot : t.store.slot? job.key = some .pending) : due ≤ deadline := by
  cases h_pipelined : cfg.pipelined with
  | true => exact (h.patient h_f h_pipelined job h_job).waiting _ _ h_phase
  | false =>
    -- A flush in two phases has launch jobs only after its wait, which leaves no slot pending.
    exfalso
    have h_layout := h.consistent.layout.inFlush f h_f
    obtain ⟨h_past, h_stage⟩ :=
      h_layout.pastJoin_of_lane h_pipelined (List.ne_nil_of_mem h_job)
    have h_over := (h.consistent.joined f h_f).isOver h_past
    exact h.fresh.not_pending h.calm h_f h_stage h_over job.key h_slot

/-! ## Records that are done -/

/-- The fates of the records that are done, as the endings so far decide them. -/
def doneFates (s₀ t : State C) (due : Moment) (es : List (Stamped C)) (f : Flush C) :
    List (Fate C) :=
  fates (supply s₀.store.slot? (endings (s₀.flushes + 1) due es)) s₀.runs
    (s₀.backlog.take (t.done f))

/-- The launch thread has done with the records that are done what their fates say. -/
structure DoneAsFated (env : Environment C) (s₀ t : State C) (due : Moment)
    (es : List (Stamped C)) (f : Flush C) : Prop where
  fated : Fated (env.mute (s₀.flushes + 1)) (s₀.flushes + 1) (doneFates s₀ t due es f) (history es)
  runs : t.aborted = false → t.runs = s₀.runs + runsIn (doneFates s₀ t due es f)
  decided : ∀ r ∈ s₀.backlog.take (t.done f), Decided t due r.key

/-- A launch job comes to its end as a fate says, and that is decided. -/
structure Closes (env : Environment C) (n : Nat) (due : Moment) (t : State C) (job : LaunchJob C)
    (fate : Fate C) (u : State C) (fs : List (Event C)) : Prop where
  ran : launches n fs = (fate.run.map fun run => (job.seq, fate.record, run)).toList
  met : ∃ verdict, (verdicts n fs).map Prod.snd = [verdict] ∧
    fate.Meets (env.mute n job.seq) verdict
  runs : u.runs = t.runs + runsIn [fate]
  decided : Decided t due job.key

/-- A launch job comes to its end as the fate of its record says. -/
theorem closes_of_launch (h : LoneCall cfg env s₀ due ms t es) (h_f : t.current = some f)
    {job : LaunchJob C} {rest : List (LaunchJob C)} (h_lane : t.lane = job :: rest)
    (h_lane' : u.lane = rest) (h_step : LauncherStep cfg env t job rest u fs) :
    Closes env (s₀.flushes + 1) due t job (fateOf
      (supply s₀.store.slot? (endings (s₀.flushes + 1) due es)) t.runs job.record) u fs := by
  have h_job : job ∈ t.lane := by simp [h_lane]
  have h_layout := h.consistent.layout.inFlush f h_f
  obtain ⟨h_flush, h_key⟩ := h_layout.own job h_job
  rw [(h.number h_f).1] at h_flush
  -- An artifact that the job holds stands in its slot.
  have h_held := (supplied_of_run h.rested h.reached).holding job h_job
  have h_ends := h_step.endsAs h_lane h_lane' h.launchClock h_key h_held fun artifact => by
    rw [h.supply_eq_some_iff h_f, ← h_key]
  rw [h_flush] at h_ends
  refine ⟨h_ends.ran, h_ends.met, h_ends.runs, ?_⟩
  have h_settled (h_pending : t.store.slot? job.key ≠ some .pending) :
      ∃ slot, t.store.slot? job.key = some slot ∧ slot.isPending = false := by
    obtain ⟨slot, h_some⟩ :=
      Option.ne_none_iff_exists'.1 (h.fresh.known h_f (h_layout.key_mem h_job))
    refine ⟨slot, h_some, ?_⟩
    cases slot with
    | pending => exact absurd h_some h_pending
    | ready | failed => rfl
  cases h_step with
  | waits | finds | aborts => simp [h_lane] at h_lane'
  | overflows _ h_deadline => exact absurd h_deadline h.launchClock
  | misses h_phase _ h_late =>
    by_cases h_pending : t.store.slot? job.key = some .pending
    · exact .inr (Nat.le_trans (h.due_le_of_waiting h_f h_job h_phase h_pending)
        (h_late h_pending))
    · exact .inl (h_settled h_pending)
  | mutes _ _ h_not_pending => exact .inl (h_settled h_not_pending)
  | expires h_phase h_pending h_late =>
    exact .inr (Nat.le_trans (h.due_le_of_waiting h_f h_job h_phase h_pending) h_late)
  | completes h_phase | panics h_phase | loses h_phase =>
    exact .inl ⟨_, h_held _ _ h_phase, rfl⟩

/-- What is decided about the records that are done decides about them later too. -/
theorem DoneAsFated.carried (h_before : DoneAsFated env s₀ t due es f)
    (h : LoneCall cfg env s₀ due ms t es)
    (h_after : LoneCall cfg env s₀ due (ms ++ [m]) u (es ++ stamp t.now fs))
    (h_f : t.current = some f) (h_f' : u.current = some f') (h_step : Transition cfg env t m u fs) :
    DoneAs env (supply s₀.store.slot? (endings (s₀.flushes + 1) due (es ++ stamp t.now fs))) s₀ t
      (history es) f :=
  (DoneAs.mk h_before.fated h_before.runs).congr fun r h_r =>
    (h.supply_stays h_after h_f h_f' h_step (h_before.decided r h_r)).symm

/-- A move that ends no launch job leaves the records that are done as they are. -/
theorem DoneAsFated.onward (h_before : DoneAsFated env s₀ t due es f)
    (h : LoneCall cfg env s₀ due ms t es)
    (h_after : LoneCall cfg env s₀ due (ms ++ [m]) u (es ++ stamp t.now fs))
    (h_f : t.current = some f) (h_f' : u.current = some f') (h_alive : t.aborted = false)
    (h_step : Transition cfg env t m u fs) (h_onward : Onward t u fs) :
    DoneAsFated env s₀ u due (es ++ stamp t.now fs) f' := by
  have h_batch : f'.batch = f.batch := (h_after.number h_f').2.trans (h.number h_f).2.symm
  have h_done := (h_before.carried h h_after h_f h_f' h_step).onward h_batch h_alive h_step h_onward
  constructor
  · rw [history_append, history_stamp]
    exact h_done.fated
  · exact h_done.runs
  · rw [h_onward.done_eq h_batch]
    exact fun r h_r => (h_before.decided r h_r).step h_step h_f'

/-- The end of a launch job adds its record to those that are done. -/
theorem DoneAsFated.closes (h_before : DoneAsFated env s₀ t due es f)
    (h : LoneCall cfg env s₀ due ms t es)
    (h_after : LoneCall cfg env s₀ due (ms ++ [m]) u (es ++ stamp t.now fs))
    (h_f : t.current = some f) (h_f' : u.current = some f') (h_alive : t.aborted = false)
    (h_step : Transition cfg env t m u fs) {job : LaunchJob C} {rest : List (LaunchJob C)}
    (h_lane : t.lane = job :: rest) (h_lane' : u.lane = rest) (h_backlog : u.backlog = t.backlog)
    (h_launch : LauncherStep cfg env t job rest u fs) :
    DoneAsFated env s₀ u due (es ++ stamp t.now fs) f' := by
  have h_batch := (h.number h_f).2
  have h_batch' : f'.batch = f.batch := (h_after.number h_f').2.trans h_batch.symm
  have h_flush := h.consistent.layout.inFlush f h_f
  obtain ⟨h_ran, h_met, h_runs, h_decided⟩ := h.closes_of_launch h_f h_lane h_lane' h_launch
  rw [(h_flush.own job (by simp [h_lane])).2] at h_decided
  have h_stays := h.supply_stays h_after h_f h_f' h_step h_decided
  rw [fateOf, ← h_stays] at h_ran h_met h_runs
  have h_done := (h_before.carried h h_after h_f h_f' h_step).closes h_flush h_batch h_batch'
    h_alive h_lane h_lane' h_backlog ⟨h_ran, h_met, h_runs⟩
  constructor
  · rw [history_append, history_stamp]
    exact h_done.fated
  · exact h_done.runs
  · have h_take := h_flush.take_closes h_lane h_lane' h_backlog h_batch'
    rw [h_batch] at h_take
    rw [h_take]
    intro r h_r
    rcases List.mem_append.1 h_r with h_old | h_new
    · exact (h_before.decided r h_old).step h_step h_f'
    · obtain rfl := List.mem_singleton.1 h_new
      exact h_decided.step h_step h_f'

/-- At every moment of a call the records that are done are done as their fates say. -/
theorem done_as_fated (h : LoneCall cfg env s₀ due ms t es) (h_f : t.current = some f) :
    DoneAsFated env s₀ t due es f := by
  refine h.inFlush_induction (P := fun t es f => DoneAsFated env s₀ t due es f) h_f ?_ ?_
  · have h_done : done { s₀ with flushes := s₀.flushes + 1, current := some s₀.firstFlush }
        s₀.firstFlush = 0 := by simp [done, firstFlush, h.rested.lane]
    constructor
    · rw [doneFates, h_done]
      exact ⟨rfl, .nil⟩
    · rw [doneFates, h_done]
      exact fun _ => rfl
    · simp [h_done]
  · intro ms m t es u fs f f' h_call h_after h_alive h_f h_f' h_before h_step _
    cases h_step.recordMove h_call.consistent.layout with
    | onward _ _ h_onward =>
      exact h_before.onward h_call h_after h_f h_f' h_alive h_step h_onward
    | launches _ _ _ _ h_lane h_lane' h_backlog h_launch =>
      exact h_before.closes h_call h_after h_f h_f' h_alive h_step h_lane h_lane' h_backlog h_launch
    | enqueues _ h_idle | begins _ h_idle => simp [h_idle] at h_f
    | ends _ _ _ _ h_idle => simp [h_idle] at h_f'
    | abandons _ h_onFailure => simp [h_call.runOthers] at h_onFailure
    | unwinds _ _ _ _ _ h_s' => simp [h_s'] at h_f'

end LoneCall

end State

end KernelDispatch
