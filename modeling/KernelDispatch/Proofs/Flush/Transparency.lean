/-
  KernelDispatch.Proofs.Flush.Transparency

  A dispatcher does what the serial dispatcher does.

  The store, the compile workers and the pipelining are not to be noticed: if the
  code generator goes by the text of a task alone and no deadline passes, the
  flushes of a dispatcher have the accounts of the serial dispatcher, unless a
  launch job is lost or a caller panics. It keeps in step with the serial
  dispatcher as long as neither happens (`inStep_of_run`), and when one of them has
  happened there are entries missing (`accounts_eq_serial_iff`). Both happen if the
  clock cannot represent a deadline, and then the records of a flush may not run
  although no deadline passes (`pipelined_flush_runs_nothing`).
-/
import KernelDispatch.Proofs.Flush.Completion
import KernelDispatch.Proofs.Flush.Contents
import KernelDispatch.Proofs.Flush.Serial

namespace KernelDispatch

variable {C : Type} {cfg : Settings} {env : Environment C} {g : String → Generated C}

/-! ## Parts of an account -/

/-- An artifact does the same whenever it runs. -/
def Repeatable (g : String → Generated C) : Prop :=
  ∀ text code, g text = .code code → ∀ i j context, code i context = code j context

/-- The account of a flush for its first `n` records. -/
def partialAccount (g : String → Generated C) (batch : List (Record C)) (n : Nat) : Account C :=
  (batch.zipIdx.take n).foldl (Account.runRecord g) {}

@[simp] theorem partialAccount_zero (g : String → Generated C) (batch : List (Record C)) :
    partialAccount g batch 0 = {} := rfl

theorem partialAccount_length (g : String → Generated C) (batch : List (Record C)) :
    partialAccount g batch batch.length = serialAccount g batch := by
  rw [partialAccount, List.take_of_length_le (by simp), serialAccount]

theorem partialAccount_succ {batch : List (Record C)} {n : Nat} {r : Record C}
    (h_r : batch[n]? = some r) :
    partialAccount g batch (n + 1) = (partialAccount g batch n).runRecord g (r, n) := by
  have h_at : batch.zipIdx[n]? = some (r, n) := by simp [List.getElem?_zipIdx, h_r]
  rw [partialAccount, List.take_add_one, h_at, List.foldl_append]
  rfl

theorem Account.runRecord_of_completed {a : Account C} {r : Record C} {n i : Nat} {code : Code C}
    {after : C} (h_repeatable : Repeatable g) (h_code : g r.task = .code code)
    (h_result : code i r.context = .completed after) :
    a.runRecord g (r, n) = a.complete r after := by
  simp only [runRecord, h_code, h_repeatable r.task code h_code 0 i, h_result]

theorem Account.runRecord_of_panicked {a : Account C} {r : Record C} {n i : Nat} {code : Code C}
    {cause : Panic} (h_repeatable : Repeatable g) (h_code : g r.task = .code code)
    (h_result : code i r.context = .panicked cause) : a.runRecord g (r, n) = a.fail n := by
  simp only [runRecord, h_code, h_repeatable r.task code h_code 0 i, h_result]

theorem Account.runRecord_of_uncompilable {a : Account C} {r : Record C} {n : Nat}
    (h_none : Uncompilable g r.key) : a.runRecord g (r, n) = a.fail n := by
  unfold runRecord
  split
  · next code h_code => exact absurd h_code (h_none code)
  · rfl

namespace State

variable {s s' t : State C} {f f' : Flush C} {p : Serial C} {es fs : List (Event C)}

/-! ## In step -/

/-- A task without an artifact has none, if it was requested and no deadline passes. -/
theorem uncompilable_of_misses {job : LaunchJob C} {since : Moment} (h : Faithful g s)
    (h_known : s.store.slot? job.key ≠ none)
    (h_slot : ∀ artifact, s.store.slot? job.key ≠ some (.ready artifact))
    (h_punctual : Punctual [Event.recordEnded (C := C) job.flush job.seq job.key (s.now - since)
      (.error (missFailure job since s.now (s.store.slot? job.key)))]) :
    Uncompilable g job.key := by
  have h_on_time := h_punctual _ (List.mem_singleton_self _)
  cases h_found : s.store.slot? job.key with
  | none => exact absurd h_found h_known
  | some slot =>
    rw [h_found] at h_on_time
    -- A pending slot is missed only after the deadline, and a failed one stands for no code.
    cases slot with
    | pending => simp [missFailure, Event.isLate] at h_on_time
    | ready artifact => exact absurd h_found (h_slot artifact)
    | failed message => exact h.slots job.key _ h_found

/-- The first launch job comes to an end as its record does in the serial dispatcher. -/
theorem LauncherStep.accountsAfter {job : LaunchJob C} {rest : List (LaunchJob C)}
    (h : Faithful g s) (h_repeatable : Repeatable g) (h_current : s.current = some f)
    (h_layout : FlushLayout cfg s f) (h_lane : s.lane = job :: rest) (h_lane' : s'.lane = rest)
    (h_unharmed : Unharmed es) (h_punctual : Punctual es)
    (h_step : LauncherStep cfg env s job rest s' es) (past : List (Account C)) (a : Account C) :
    es.foldl Event.accountsAfter (past ++ [a]) =
      past ++ [a.runRecord g (job.record, job.seq)] := by
  have h_job : job ∈ s.lane := h_lane ▸ List.mem_cons_self ..
  have h_key := (h_layout.own job h_job).2
  have h_holds := h.lane job h_job
  cases h_step with
  | waits | finds | aborts => simp [h_lane] at h_lane'
  | overflows | mutes | expires | loses => exact absurd (by simp) (h_unharmed.1 job.flush job.seq)
  | misses h_phase h_slot =>
    have h_known := h.known f h_current job.key (h_layout.key_mem h_job)
    have h_none := uncompilable_of_misses h h_known h_slot h_punctual
    rw [Account.runRecord_of_uncompilable (h_key ▸ h_none)]
    exact List.modifyLast_concat _ _ _
  | completes h_phase h_result =>
    rw [h_phase, h_key] at h_holds
    rw [Account.runRecord_of_completed h_repeatable h_holds h_result]
    exact List.modifyLast_concat _ _ _
  | panics h_phase h_result =>
    rw [h_phase, h_key] at h_holds
    rw [Account.runRecord_of_panicked h_repeatable h_holds h_result]
    exact List.modifyLast_concat _ _ _

/-- A dispatcher with the accounts `as` is as far as the serial one, except for the flush in
progress, which the serial one has finished. -/
structure InStep (g : String → Generated C) (s : State C) (p : Serial C)
    (as : List (Account C)) : Prop where
  idle : s.current = none → p.backlog = s.backlog ∧ as = p.accounts
  inFlush : ∀ f, s.current = some f → p.backlog = [] ∧
    ∃ past, p.accounts = past ++ [serialAccount g f.batch] ∧
      as = past ++ [partialAccount g f.batch (s.done f)]

theorem Transition.inStep {m : Move C} (h : InStep g s p (accounts fs)) (h_faithful : Faithful g s)
    (h_repeatable : Repeatable g) (h_layout : Layout cfg s)
    (h_runOthers : cfg.onFailure = .runOthers) (h_unharmed : Unharmed es)
    (h_punctual : Punctual es) (h_step : Transition cfg env s m s' es) :
    InStep g s' (p.step g m) (accounts (fs ++ es)) := by
  cases h_step.recordMove h_layout with
  | onward h_enqueue h_flush h_onward =>
    have h_same : p.step g m = p := Serial.step_eq_self h_enqueue fun h_m =>
      (h.idle (h_flush h_m).1).1.trans (h_flush h_m).2
    rw [h_same, (accounts_of_noEntry fs h_onward.noEntry).1]
    refine ⟨fun h_none => ?_, fun f' h_f' => ?_⟩
    · obtain ⟨h_none', h_backlog⟩ := h_onward.idle h_none
      rw [h_backlog]
      exact h.idle h_none'
    · obtain ⟨f, h_f, h_batch⟩ := h_onward.inFlush f' h_f'
      rw [h_batch, h_onward.done_eq h_batch]
      exact h.inFlush f h_f
  | @enqueues r h_m h_idle h_s' h_es =>
    subst h_m h_s' h_es
    obtain ⟨h_backlog, h_accounts⟩ := h.idle h_idle
    rw [List.append_nil]
    refine ⟨fun _ => ⟨congrArg (· ++ [r]) h_backlog, h_accounts⟩, fun f h_f => ?_⟩
    simp [h_idle] at h_f
  | begins h_m h_idle h_some h_s' h_es =>
    subst h_m h_s' h_es
    obtain ⟨h_backlog, h_accounts⟩ := h.idle h_idle
    rw [Serial.step_flush_some (h_backlog ▸ h_some), accounts_append, h_accounts, h_backlog]
    refine ⟨fun h_none => by simp at h_none, ?_⟩
    rintro f ⟨rfl⟩
    refine ⟨rfl, p.accounts, rfl, ?_⟩
    simp [Event.accountsAfter, firstFlush, done]
  | @launches f f' job rest h_m h_current h_current' h_batch h_lane h_lane' h_backlog h_launch =>
    subst h_m
    have h_flush := h_layout.inFlush f h_current
    obtain ⟨h_empty, past, h_past, h_accounts⟩ := h.inFlush f h_current
    -- The account grows by the record that comes next in the batch.
    have h_done : s'.done f' = s.done f + 1 := by
      rw [← done_closes h_flush h_lane]
      simp only [done, h_lane', h_backlog, h_batch]
    have h_record := h_flush.record_at h_lane
    rw [h_flush.seq_eq h_lane] at h_record
    refine ⟨fun h_none => by simp [h_current'] at h_none, fun f₁ h_f₁ => ?_⟩
    obtain rfl : f' = f₁ := by simpa [h_current'] using h_f₁
    refine ⟨h_empty, past, h_batch ▸ h_past, ?_⟩
    rw [accounts_append, h_accounts, h_done, h_batch, partialAccount_succ h_record,
      h_launch.accountsAfter h_faithful h_repeatable h_current h_flush h_lane h_lane' h_unharmed
        h_punctual, h_flush.seq_eq h_lane]
  | @ends f h_m h_current h_lane h_backlog h_current' h_backlog' h_noEntry =>
    subst h_m
    obtain ⟨h_empty, past, h_past, h_accounts⟩ := h.inFlush f h_current
    -- With the lane and the backlog empty, the partial account is the whole one.
    have h_done : s.done f = f.batch.length := by simp [done, h_lane, h_backlog]
    rw [(accounts_of_noEntry fs h_noEntry).1]
    refine ⟨fun _ => ⟨h_empty.trans h_backlog'.symm, ?_⟩, fun f' h_f' => ?_⟩
    · rw [h_accounts, h_done, partialAccount_length, ← h_past]
      rfl
    · simp [h_current'] at h_f'
  | abandons _ h_onFailure => simp [h_runOthers] at h_onFailure
  | unwinds _ _ _ _ _ _ h_es =>
    exact absurd (h_es ▸ List.mem_singleton_self _) (h_unharmed.2 overflowMessage)

theorem Unharmed.of_append (h : Unharmed (fs ++ es)) : Unharmed fs ∧ Unharmed es := by
  obtain ⟨h_calm_before, h_calm_now⟩ := h.2.of_append
  exact ⟨⟨fun n seq h_e => h.1 n seq (List.mem_append_left _ h_e), h_calm_before⟩,
    ⟨fun n seq h_e => h.1 n seq (List.mem_append_right _ h_e), h_calm_now⟩⟩

/-- A dispatcher stays in step with the serial one in every run in which no deadline passes, no
launch job is lost and no caller panics. -/
theorem inStep_of_run {threads : Nat} {now : Moment} {ms : List (Move C)} {es : List (Stamped C)}
    (h_run : run cfg env (start threads now) ms = some (t, es)) (h_textual : env.Textual g)
    (h_repeatable : Repeatable g) (h_runOthers : cfg.onFailure = .runOthers)
    (h_unharmed : Unharmed (history es)) (h_punctual : Punctual (history es)) :
    InStep g t (Serial.run g ms) (accounts (history es)) := by
  refine history_induction (P := fun ms t es => Unharmed es → Punctual es →
    InStep g t (Serial.run g ms) (accounts es)) ?_ ?_ h_run h_unharmed h_punctual
  · intro _ _
    refine ⟨fun _ => ⟨rfl, rfl⟩, fun f h_f => ?_⟩
    cases h_f
  · intro ms m t es u fs h_run _ h_before h_step h_unharmed h_punctual
    obtain ⟨h_unharmed_before, h_unharmed_now⟩ := h_unharmed.of_append
    obtain ⟨h_punctual_before, h_punctual_now⟩ := h_punctual.of_append
    have h_faithful := faithful_of_run h_run h_textual h_unharmed_before.2 h_punctual_before
    rw [Serial.run_concat]
    exact h_step.inStep (h_before h_unharmed_before h_punctual_before) h_faithful h_repeatable
      (layout_of_run h_run) h_runOthers h_unharmed_now h_punctual_now

/-! ## What a run of an artifact tells -/

/-- Artifacts that run have the code of their tasks. -/
theorem ran_agrees_of_run {threads : Nat} {now : Moment} {ms : List (Move C)}
    {es : List (Stamped C)} (h_run : run cfg env (start threads now) ms = some (t, es))
    (h_textual : env.Textual g) (h_calm : Calm (history es)) (h_punctual : Punctual (history es))
    {n seq : Nat} {r : Record C} {artifact : Artifact C} {result : Execution C}
    (h_ran : Event.ran n seq r artifact result ∈ history es) :
    g r.task = .code artifact.code ∧ ∃ i, artifact.code i r.context = result := by
  refine history_induction (P := fun _ _ es => Calm es → Punctual es →
    Event.ran n seq r artifact result ∈ es →
      g r.task = .code artifact.code ∧ ∃ i, artifact.code i r.context = result)
    (by simp) ?_ h_run h_calm h_punctual h_ran
  intro ms m t es u fs h_run _ h_before h_step h_calm h_punctual h_ran
  obtain ⟨h_calm_before, -⟩ := h_calm.of_append
  obtain ⟨h_punctual_before, -⟩ := h_punctual.of_append
  -- An artifact runs while its job holds it, and the job holds what its task compiles to.
  rcases List.mem_append.1 h_ran with h_old | h_new
  · exact h_before h_calm_before h_punctual_before h_old
  have h_faithful := faithful_of_run h_run h_textual h_calm_before h_punctual_before
  have h_layout := layout_of_run h_run
  have h_not (h_noEntry : ∀ e ∈ fs, e.isEntry = false) : False := by
    simpa [Event.isEntry] using h_noEntry _ h_new
  cases h_step.recordMove h_layout with
  | onward _ _ h_onward => exact (h_not h_onward.noEntry).elim
  | ends _ _ _ _ _ _ h_noEntry | abandons _ _ h_noEntry => exact (h_not h_noEntry).elim
  | enqueues _ _ _ h_es | begins _ _ _ _ h_es | unwinds _ _ _ _ _ _ h_es => simp [h_es] at h_new
  | @launches f _ job _ _ h_current _ _ h_lane _ _ h_launch =>
    have h_job : job ∈ t.lane := h_lane ▸ List.mem_cons_self ..
    have h_key := ((h_layout.inFlush f h_current).own job h_job).2
    have h_holds := h_faithful.lane job h_job
    cases h_launch with
    | completes h_phase h_result | panics h_phase h_result | loses h_phase h_result =>
      simp only [List.mem_cons, reduceCtorEq, List.not_mem_nil, or_false, Event.ran.injEq] at h_new
      obtain ⟨-, -, rfl, rfl, rfl⟩ := h_new
      rw [h_phase, h_key] at h_holds
      exact ⟨h_holds, t.runs, h_result⟩
    | _ => simp at h_new

/-! ## The same accounts -/

/-- If the code generator goes by the text of a task alone and no deadline passes, the flushes have
the accounts of the serial dispatcher exactly if no launch job is lost and no caller panics. Both
happen only if the clock cannot represent a deadline, if an artifact panics in a way that the
launch job cannot report, or if a launch job has no artifact and cannot name the kernel of its
record. -/
theorem accounts_eq_serial_iff {threads : Nat} {now : Moment} {ms : List (Move C)}
    {es : List (Stamped C)} (h_run : run cfg env (start threads now) ms = some (t, es))
    (h_textual : env.Textual g) (h_repeatable : Repeatable g)
    (h_runOthers : cfg.onFailure = .runOthers) (h_punctual : Punctual (history es))
    (h_idle : t.current = none) :
    (accounts (history es) = (Serial.run g ms).accounts ↔ Unharmed (history es)) ∧
    (cfg.compilePatience.deadline? t.now ≠ none → cfg.dispatchPatience.deadline? t.now ≠ none →
      (∀ n, NamesKernels env n (history es)) →
      (∀ text code, g text = .code code → ∀ i context cause, code i context ≠ .lost cause) →
      accounts (history es) = (Serial.run g ms).accounts) := by
  have h_iff : accounts (history es) = (Serial.run g ms).accounts ↔ Unharmed (history es) := by
    constructor
    · exact fun h_same => unharmed_of_total_eq h_run h_runOthers h_idle (by rw [h_same])
    · intro h_unharmed
      exact ((inStep_of_run h_run h_textual h_repeatable h_runOthers h_unharmed h_punctual).idle
        h_idle).2
  refine ⟨h_iff, fun h_compile h_dispatch h_names h_reported => h_iff.2 ?_⟩
  -- A deadline that the clock can represent now it could represent at any time before.
  have h_calm : Calm (history es) := fun message h_unwound =>
    h_compile (stuck_of_run h_run h_unwound).clock
  refine ⟨fun n seq h_lost => ?_, h_calm⟩
  obtain ⟨⟨moment, e⟩, h_e, rfl⟩ := List.mem_map.1 h_lost
  rcases lost_cause_of_run h_run h_e with h_none | h_mute | ⟨record, artifact, cause, h_ran⟩
  · exact h_dispatch (deadline?_eq_none_of_le h_none (moment_le_of_run h_run _ h_e))
  · simp [h_names n seq h_lost] at h_mute
  · obtain ⟨h_code, i, h_result⟩ :=
      ran_agrees_of_run h_run h_textual h_calm h_punctual (List.mem_map_of_mem h_ran)
    exact h_reported _ _ h_code i _ _ h_result

/-- The task `b` does not compile, and every other one adds one. -/
def allButB (text : String) : Generated Nat :=
  if text = "b" then .failed (.other "unsupported") else .code fun _ n => .completed (n + 1)

/-- A flush of three records, two of which share a task. -/
def threeRecords : List (Move Nat) :=
  [[.enqueue ⟨0, "k", "a"⟩, .enqueue ⟨1, "k", "b"⟩, .enqueue ⟨5, "k", "a"⟩, .flush],
    List.replicate 4 .caller,
    [.pick (.takeShared 0 0)], List.replicate 4 (.worker 0),
    [.pick (.takeShared 0 0)], List.replicate 4 (.worker 0),
    List.replicate 7 .caller, List.replicate 8 .launcher, [.caller]].flatten

theorem three_records_as_serial :
    ∃ t es, run {} { codegen := fun _ call => allButB call.task } (start 1 0) threeRecords =
        some (t, es) ∧
      accounts (history es) = [⟨[("a", 0, 1), ("a", 5, 6)], [1]⟩] ∧
      accounts (history es) = (Serial.run allButB threeRecords).accounts := by
  have h_summary :
      (run {} { codegen := fun _ call => allButB call.task } (start 1 0) threeRecords).map
        (fun r => (r.1.current.isNone, r.1.now, (history r.2).all fun e => !e.isLate,
          accounts (history r.2))) =
      some (true, 0, true, [⟨[("a", 0, 1), ("a", 5, 6)], [1]⟩]) := rfl
  obtain ⟨⟨t, es⟩, h_run, h_es⟩ := Option.map_eq_some_iff.1 h_summary
  simp only [Prod.mk.injEq] at h_es
  obtain ⟨h_idle, h_now, h_punctual, h_accounts⟩ := h_es
  have h_repeatable : Repeatable allButB := by
    intro text code h_code i j context
    unfold allButB at h_code
    split at h_code
    · contradiction
    · cases h_code
      rfl
  have h_reported : ∀ text code, allButB text = .code code →
      ∀ i context cause, code i context ≠ .lost cause := by
    intro text code h_code i context cause
    unfold allButB at h_code
    split at h_code
    · contradiction
    · cases h_code
      simp
  refine ⟨t, es, h_run, h_accounts, ?_⟩
  refine (accounts_eq_serial_iff h_run (fun _ _ => rfl) h_repeatable rfl
    (punctual_of_all h_punctual) (by simpa using h_idle)).2 ?_ ?_ (fun _ _ _ => rfl) h_reported
  all_goals
    rw [h_now]
    decide

/-- A launch job of a pipelined flush may wait as long as a span can express. -/
def endlessPipelined : Settings where
  pipelined := true
  dispatchPatience := .ofSeconds 18446744073709551615

/-- A pipelined flush of two records with one task. -/
def twoRecords : List (Move Nat) :=
  [[.enqueue ⟨0, "k", "a"⟩, .enqueue ⟨5, "k", "a"⟩, .flush], List.replicate 6 .caller,
    [.pick (.takeShared 0 0)], List.replicate 4 (.worker 0), List.replicate 2 .caller,
    List.replicate 2 .launcher, [.caller]].flatten

/-- These settings are valid, the code generator goes by the text alone, artifacts do the same
whenever they run, and no deadline passes; still a pipelined flush of two records runs neither of
them, because the clock cannot represent the end of their waits. -/
theorem pipelined_flush_runs_nothing :
    endlessPipelined.Valid ∧ endlessPipelined.onFailure = .runOthers ∧
      endlessPipelined.onPanic ≠ .abort ∧
      adding.Textual (fun _ => .code fun _ n => .completed (n + 1)) ∧
      Repeatable (C := Nat) (fun _ => .code fun _ n => .completed (n + 1)) ∧
      ∃ t es, run endlessPipelined adding (start 1 0) twoRecords = some (t, es) ∧
        t.current = none ∧ Punctual (history es) ∧ accounts (history es) = [{}] ∧
        (Serial.run (fun _ => .code fun _ n => .completed (n + 1)) twoRecords).accounts =
          [⟨[("a", 0, 1), ("a", 5, 6)], []⟩] := by
  have h_summary :
      (run endlessPipelined adding (start 1 0) twoRecords).map
        (fun r => (r.1.current.isNone, (history r.2).all fun e => !e.isLate,
          accounts (history r.2))) = some (true, true, [{}]) := rfl
  obtain ⟨⟨t, es⟩, h_run, h_es⟩ := Option.map_eq_some_iff.1 h_summary
  simp only [Prod.mk.injEq] at h_es
  obtain ⟨h_idle, h_punctual, h_accounts⟩ := h_es
  refine ⟨by decide, rfl, by decide, fun _ _ => rfl, ?_, t, es, h_run, by simpa using h_idle,
    punctual_of_all h_punctual, h_accounts, rfl⟩
  intro text code h_code i j context
  cases h_code
  rfl

end State

end KernelDispatch
