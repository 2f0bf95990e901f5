/-
  KernelDispatch.Proofs.Flush.Order

  Artifacts run in order, one at a time and at most once for each record.

  `InOrder` says what a history may look like: an artifact runs only between the
  start and the end of one launch job and inside the call of `flush` to which its
  record belongs, it is given the context with which that record was enqueued, and
  the places of the records that run only ever go up. Every run of a dispatcher is
  in order (`invocations_in_order`), whatever fails, panics or expires.
-/
import KernelDispatch.Proofs.Flush.History

namespace KernelDispatch

variable {C : Type} {cfg : Settings} {env : Environment C}

/-! ## Histories in order -/

namespace Event

/-- The call of `flush` that is in progress after an event: its number and its records. -/
def callAfter (call : Option (Nat × List (Record C))) : Event C → Option (Nat × List (Record C))
  | began flush batch => some (flush, batch)
  | returned _ => none
  | unwound _ => none
  | _ => call

/-- The launch job that has its artifact after an event: its flush and its place. -/
def jobAfter (job : Option (Nat × Nat)) : Event C → Option (Nat × Nat)
  | recordStarted flush seq _ => some (flush, seq)
  | recordEnded .. => none
  | launchJobLost .. => none
  | _ => job

/-- The flush and the place of a record whose artifact runs. -/
def runPlace? : Event C → Option (Nat × Nat)
  | ran flush seq .. => some (flush, seq)
  | _ => none

/-- A record whose artifact runs. -/
def runRecord? : Event C → Option (Record C)
  | ran _ _ record .. => some record
  | _ => none

end Event

/-- The call of `flush` that is in progress after some events. -/
def openCall (es : List (Event C)) : Option (Nat × List (Record C)) :=
  es.foldl Event.callAfter none

/-- The launch job that has its artifact after some events. -/
def openJob (es : List (Event C)) : Option (Nat × Nat) :=
  es.foldl Event.jobAfter none

/-- The flushes and places of the records whose artifacts have run. -/
def runPlaces (es : List (Event C)) : List (Nat × Nat) :=
  es.filterMap Event.runPlace?

/-- The records whose artifacts have run. -/
def runRecords (es : List (Event C)) : List (Record C) :=
  es.filterMap Event.runRecord?

/-- The records that some moves enqueue. -/
def enqueued (ms : List (Move C)) : List (Record C) :=
  ms.filterMap fun
    | .enqueue r => some r
    | _ => none

/-- Every event obeys a rule that may look at the events before it; `past` comes first. -/
def Follows (rule : List (Event C) → Event C → Prop) (past : List (Event C)) :
    List (Event C) → Prop
  | [] => True
  | e :: es => rule past e ∧ Follows rule (past ++ [e]) es

/-- When an event may happen. A call of `flush` begins and ends when no other is in progress and
no launch job has its artifact; an artifact runs for the one launch job that has it, in the
call of `flush` in which its record stands at this place, and on the context of this record. -/
def InTurn (past : List (Event C)) : Event C → Prop
  | .began _ _ => openCall past = none ∧ openJob past = none
  | .returned _ => openJob past = none
  | .unwound _ => openJob past = none
  | .recordStarted flush seq _ =>
    openJob past = none ∧ ∃ batch, openCall past = some (flush, batch) ∧ seq < batch.length
  | .ran flush seq record artifact result =>
    openJob past = some (flush, seq) ∧
      (∃ batch, openCall past = some (flush, batch) ∧ batch[seq]? = some record) ∧
      result = artifact.code (runRecords past).length record.context
  | _ => True

/-- Whether a place comes before another: in an earlier flush, or earlier in the same one. -/
def Before (p q : Nat × Nat) : Prop :=
  p.1 < q.1 ∨ p.1 = q.1 ∧ p.2 < q.2

/-- A history in which artifacts run in order. -/
structure InOrder (ms : List (Move C)) (es : List (Event C)) : Prop where
  /-- They run one at a time, each in its call of `flush` and on its own context. -/
  turns : Follows InTurn [] es
  /-- The places of the records that run go up. -/
  ascending : (runPlaces es).Pairwise Before
  /-- The records that run are among those enqueued, in their order and each at most once. -/
  once : (runRecords es).Sublist (enqueued ms)
  /-- A call of `flush` is about records enqueued one after the other. -/
  batches : ∀ flush batch, Event.began flush batch ∈ es → batch <:+: enqueued ms

/-! ## Readings of longer histories -/

theorem openCall_append (es fs : List (Event C)) :
    openCall (es ++ fs) = fs.foldl Event.callAfter (openCall es) :=
  List.foldl_append

theorem openJob_append (es fs : List (Event C)) :
    openJob (es ++ fs) = fs.foldl Event.jobAfter (openJob es) :=
  List.foldl_append

@[simp] theorem runPlaces_append (es fs : List (Event C)) :
    runPlaces (es ++ fs) = runPlaces es ++ runPlaces fs :=
  List.filterMap_append

@[simp] theorem runRecords_append (es fs : List (Event C)) :
    runRecords (es ++ fs) = runRecords es ++ runRecords fs :=
  List.filterMap_append

@[simp] theorem enqueued_concat (ms : List (Move C)) (m : Move C) :
    enqueued (ms ++ [m]) = enqueued ms ++ enqueued [m] :=
  List.filterMap_append

theorem follows_append {rule : List (Event C) → Event C → Prop} {past es fs : List (Event C)} :
    Follows rule past (es ++ fs) ↔ Follows rule past es ∧ Follows rule (past ++ es) fs := by
  induction es generalizing past with
  | nil => simp [Follows]
  | cons e es ih =>
    rw [List.cons_append, Follows, Follows, ih, List.append_assoc]
    exact and_assoc.symm

/-! ## Events that change no reading -/

/-- Whether an event neither begins or ends a call of `flush` nor comes from the launch thread. -/
def Event.isPlain : Event C → Bool
  | began .. => false
  | returned _ => false
  | unwound _ => false
  | e => !e.isLaunch

/-- Plain events only. -/
def Plain (es : List (Event C)) : Prop :=
  ∀ e ∈ es, e.isPlain = true

theorem Event.quiet_of_isPlain {e : Event C} (h : e.isPlain = true) : e.isLaunch = false := by
  cases e <;> first | rfl | exact absurd h (by simp [isPlain, isLaunch])

theorem openCall_of_plain {es fs : List (Event C)} (h : Plain fs) :
    openCall (es ++ fs) = openCall es := by
  rw [openCall_append]
  induction fs with
  | nil => rfl
  | cons e fs ih =>
    have h_e : Event.callAfter (openCall es) e = openCall es := by
      have h_plain := h e (List.mem_cons_self ..)
      cases e with
      | began | returned | unwound => simp [Event.isPlain] at h_plain
      | _ => rfl
    rw [List.foldl_cons, h_e]
    exact ih fun e' h_e' => h e' (List.mem_cons_of_mem _ h_e')

theorem openJob_of_plain {es fs : List (Event C)} (h : Plain fs) :
    openJob (es ++ fs) = openJob es := by
  rw [openJob_append]
  induction fs with
  | nil => rfl
  | cons e fs ih =>
    have h_e : Event.jobAfter (openJob es) e = openJob es := by
      have h_plain := h e (List.mem_cons_self ..)
      cases e with
      | recordStarted | recordEnded | launchJobLost =>
        simp [Event.isPlain, Event.isLaunch] at h_plain
      | _ => rfl
    rw [List.foldl_cons, h_e]
    exact ih fun e' h_e' => h e' (List.mem_cons_of_mem _ h_e')

theorem runPlaces_of_quiet {es : List (Event C)} (h : ∀ e ∈ es, e.isLaunch = false) :
    runPlaces es = [] := by
  refine List.filterMap_eq_nil_iff.2 fun e h_e => ?_
  have h_quiet := h e h_e
  cases e with
  | ran => simp [Event.isLaunch] at h_quiet
  | _ => rfl

theorem runRecords_of_quiet {es : List (Event C)} (h : ∀ e ∈ es, e.isLaunch = false) :
    runRecords es = [] := by
  refine List.filterMap_eq_nil_iff.2 fun e h_e => ?_
  have h_quiet := h e h_e
  cases e with
  | ran => simp [Event.isLaunch] at h_quiet
  | _ => rfl

theorem follows_of_plain {past es : List (Event C)} (h : Plain es) : Follows InTurn past es := by
  induction es generalizing past with
  | nil => trivial
  | cons e es ih =>
    refine ⟨?_, ih fun e' h_e' => h e' (List.mem_cons_of_mem _ h_e')⟩
    have h_plain := h e (List.mem_cons_self ..)
    cases e with
    | began | returned | unwound | recordStarted | ran =>
      simp [Event.isPlain, Event.isLaunch] at h_plain
    | _ => trivial

namespace State

variable {s s' t : State C} {f : Flush C} {es fs : List (Event C)}

/-- The call of `flush` in progress. -/
def call (s : State C) : Option (Nat × List (Record C)) :=
  s.current.map fun f => (f.number, f.batch)

/-- The launch job that has its artifact. -/
def holder (s : State C) : Option (Nat × Nat) :=
  match s.lane with
  | [] => none
  | job :: _ =>
    match job.phase with
    | .holding .. => some (job.flush, job.seq)
    | _ => none

/-- A history whose events come in turn and that tells whose turn it is. -/
structure TurnOf (s : State C) (es : List (Event C)) : Prop where
  turns : Follows InTurn [] es
  call : openCall es = s.call
  holder : openJob es = s.holder
  runs : s.aborted = false → (runRecords es).length = s.runs

theorem TurnOf.plain (h : TurnOf s fs) (h_plain : Plain es) (h_call : s'.call = s.call)
    (h_holder : s'.holder = s.holder) (h_runs : s'.runs = s.runs)
    (h_aborted : s'.aborted = false → s.aborted = false) : TurnOf s' (fs ++ es) where
  turns := follows_append.2 ⟨h.turns, follows_of_plain h_plain⟩
  call := by rw [openCall_of_plain h_plain, h.call, h_call]
  holder := by rw [openJob_of_plain h_plain, h.holder, h_holder]
  runs h_alive := by
    rw [runRecords_append, runRecords_of_quiet fun e h_e => Event.quiet_of_isPlain (h_plain e h_e),
      List.append_nil, h.runs (h_aborted h_alive), h_runs]

/-- The caller returns or panics. -/
theorem TurnOf.ends {last : Event C} (h : TurnOf s fs) (h_lane : s.lane = [])
    (h_plain : Plain es) (h_last : (∃ result, last = .returned result) ∨ ∃ m, last = .unwound m)
    (h_current : s'.current = none) (h_lane' : s'.lane = s.lane) (h_runs : s'.runs = s.runs)
    (h_aborted : s'.aborted = s.aborted) : TurnOf s' (fs ++ (es ++ [last])) := by
  -- With the lane empty no job has its artifact, neither before the move nor after it.
  have h_holder : s.holder = none := by simp [State.holder, h_lane]
  have h_turn : openJob (fs ++ es) = none := by rw [openJob_of_plain h_plain, h.holder, h_holder]
  have h_quiet : runRecords es = [] :=
    runRecords_of_quiet fun e h_e => Event.quiet_of_isPlain (h_plain e h_e)
  have h_holder' : s'.holder = none := by simp [State.holder, h_lane', h_lane]
  have h_call' : s'.call = none := by simp [State.call, h_current]
  rw [← List.append_assoc]
  rcases h_last with ⟨result, rfl⟩ | ⟨m, rfl⟩
  all_goals
    refine ⟨?_, ?_, ?_, fun h_alive => ?_⟩
    · refine follows_append.2 ⟨follows_append.2 ⟨h.turns, follows_of_plain h_plain⟩, ?_, trivial⟩
      rw [List.nil_append]
      exact h_turn
    · rw [openCall_append, h_call']
      rfl
    · rw [openJob_append, h_turn, h_holder']
      rfl
    · rw [runRecords_append, runRecords_append, h_quiet, List.append_nil, h_runs,
        ← h.runs (h_aborted ▸ h_alive)]
      exact congrArg List.length (List.append_nil _)

theorem CallerStep.turnOf (h : TurnOf s fs) (h_current : s.current = some f)
    (h_layout : FlushLayout cfg s f) (h_step : CallerStep cfg env s f s' es) :
    TurnOf s' (fs ++ es) := by
  have h_call : s.call = some (f.number, f.batch) := by simp [State.call, h_current]
  have h_stage' := h_layout.stage
  cases h_step with
  | schedules | shares | reuses =>
    refine h.plain ?_ h_call.symm rfl rfl id
    simp only [Plain, List.mem_append, List.mem_map, List.mem_singleton]
    rintro e (⟨_, -, rfl⟩ | rfl) <;> rfl
  | unwinds h_stage h_deadline =>
    simp only [StageLayout, h_stage] at h_stage'
    have h_plain : Plain ([] : List (Event C)) := by simp [Plain]
    exact h.ends h_stage'.1 h_plain (.inr ⟨_, rfl⟩) rfl rfl rfl rfl
  | beginsJoin | submitsNothing | joins | submitsJoined =>
    exact h.plain (by simp [Plain]) h_call.symm rfl rfl id
  | drains | polls | drainsJoined =>
    exact h.plain (by simp [Plain, Event.isPlain, Event.isLaunch, joinedEvent]) h_call.symm rfl
      rfl id
  | submits h_stage h_backlog =>
    refine h.plain (by simp [Plain]) h_call.symm ?_ rfl id
    -- A new job comes behind the lane and has not begun.
    cases h_lane : s.lane with
    | nil => simp [State.holder, h_lane, Flush.launchJob]
    | cons job rest => simp [State.holder, h_lane]
  | abandons h_stage h_over h_pipelined h_onFailure h_failures =>
    simp only [StageLayout, h_stage, h_pipelined, Bool.false_eq_true, if_false] at h_stage'
    have h_plain (n count : Nat) : Plain [.abandoned n count, endedEvent cfg env s f] := by
      simp [Plain, Event.isPlain, Event.isLaunch, endedEvent]
    exact h.ends h_stage'.2.1 (h_plain _ _) (.inl ⟨_, rfl⟩) rfl rfl rfl rfl
  | succeeds h_stage h_lane h_result =>
    have h_plain : Plain [endedEvent cfg env s f] := by
      simp [Plain, Event.isPlain, Event.isLaunch, endedEvent]
    exact h.ends h_lane h_plain (.inl ⟨_, rfl⟩) rfl rfl rfl rfl
  | fails h_stage h_lane h_result =>
    have h_plain (n failed total : Nat) :
        Plain [.unfinished n failed total, endedEvent cfg env s f] := by
      simp [Plain, Event.isPlain, Event.isLaunch, endedEvent]
    exact h.ends h_lane (h_plain _ _ _) (.inl ⟨_, rfl⟩) rfl rfl rfl rfl

theorem WorkerStep.turnOf {worker : Nat} {job : CompileJob C} (h : TurnOf s fs)
    (h_step : WorkerStep cfg env s worker job s' es) : TurnOf s' (fs ++ es) := by
  have h_plain : Plain es := by
    cases h_step <;> simp [Plain, Event.isPlain, Event.isLaunch]
  cases h_step with
  | reports =>
    refine h.plain h_plain ?_ rfl rfl id
    simp only [State.call, finishJob, report, updateFlush, dropJob, Option.map_map]
    congr 1
    funext f
    simp only [Function.comp]
    split <;> rfl
  | aborts => exact h.plain h_plain rfl rfl rfl (by simp)
  | _ => exact h.plain h_plain rfl rfl rfl id

/-- With the first launch job gone, no launch job has its artifact. -/
theorem holder_rest {job : LaunchJob C} {rest : List (LaunchJob C)}
    (h_layout : FlushLayout cfg s f) (h_lane : s.lane = job :: rest) (h_lane' : s'.lane = rest) :
    s'.holder = none := by
  cases h_rest : rest with
  | nil => simp [State.holder, h_lane', h_rest]
  | cons next others =>
    have h_queued : next.phase = .queued :=
      h_layout.queued next (by simp [h_lane, h_rest])
    simp [State.holder, h_lane', h_rest, h_queued]

/-- The first launch job runs its artifact. -/
theorem InTurn.ran {job : LaunchJob C} {rest : List (LaunchJob C)} {since : Moment}
    {artifact : Artifact C} {result : Execution C} (h : TurnOf s fs) (h_alive : s.aborted = false)
    (h_current : s.current = some f) (h_layout : FlushLayout cfg s f)
    (h_lane : s.lane = job :: rest) (h_phase : job.phase = .holding since artifact)
    (h_result : artifact.code s.runs job.record.context = result) :
    InTurn fs (.ran job.flush job.seq job.record artifact result) := by
  refine ⟨?_, ⟨f.batch, ?_, h_layout.record_at h_lane⟩, ?_⟩
  · rw [h.holder]
    simp [State.holder, h_lane, h_phase]
  · rw [h.call, (h_layout.own job (by simp [h_lane])).1]
    simp [State.call, h_current]
  · rw [h.runs h_alive, h_result]

theorem LauncherStep.turnOf {job : LaunchJob C} {rest : List (LaunchJob C)} (h : TurnOf s fs)
    (h_alive : s.aborted = false) (h_layout : Layout cfg s) (h_lane : s.lane = job :: rest)
    (h_step : LauncherStep cfg env s job rest s' es) : TurnOf s' (fs ++ es) := by
  obtain ⟨f, h_current⟩ := h_layout.exists_flush h_lane
  have h_flush := h_layout.inFlush f h_current
  obtain ⟨-, -, h_outline⟩ := h_step.plan
  -- The launch thread changes neither the number nor the records of the flush.
  have h_call : s'.call = s.call := by
    have h_same := congrArg (Option.map fun f : Flush C => (f.number, f.batch)) h_outline
    rw [Option.map_map, Option.map_map] at h_same
    exact h_same
  -- The events of a launch job do not end the call of `flush`.
  have h_open (es : List (Event C)) (h_es : ∀ call, es.foldl Event.callAfter call = call) :
      openCall (fs ++ es) = s'.call := by rw [openCall_append, h_es, h.call, h_call]
  have h_holder : openJob fs = s.holder := h.holder
  have h_runs := h.runs h_alive
  cases h_step with
  | waits h_phase h_deadline =>
    exact h.plain (by simp [Plain]) h_call (by simp [State.holder, h_lane, h_phase]) rfl id
  | aborts h_phase h_result h_onPanic =>
    refine ⟨follows_append.2 ⟨h.turns, trivial, trivial⟩, h_open _ fun _ => rfl, ?_, by simp⟩
    rw [openJob_append, h_holder]
    rfl
  | finds h_phase h_slot =>
    refine ⟨follows_append.2 ⟨h.turns, ⟨?_, f.batch, ?_, ?_⟩, trivial⟩, h_open _ fun _ => rfl, ?_,
      fun _ => ?_⟩
    · rw [List.nil_append, h_holder]
      simp [State.holder, h_lane, h_phase]
    · rw [List.nil_append, h.call, (h_flush.own job (by simp [h_lane])).1]
      simp [State.call, h_current]
    · exact (List.getElem?_eq_some_iff.1 (h_flush.record_at h_lane)).1
    · rw [openJob_append]
      simp [State.holder, Event.jobAfter]
    · rw [runRecords_append, List.length_append, h_runs]
      rfl
  | expires =>
    refine ⟨follows_append.2 ⟨h.turns, trivial, trivial, trivial⟩, h_open _ fun _ => rfl, ?_,
      fun _ => ?_⟩
    · rw [openJob_append, holder_rest h_flush h_lane rfl]
      rfl
    · rw [runRecords_append, List.length_append, h_runs]
      rfl
  | overflows | misses | mutes =>
    refine ⟨follows_append.2 ⟨h.turns, trivial, trivial⟩, h_open _ fun _ => rfl, ?_, fun _ => ?_⟩
    · rw [openJob_append, holder_rest h_flush h_lane rfl]
      rfl
    · rw [runRecords_append, List.length_append, h_runs]
      rfl
  | completes h_phase h_result | panics h_phase h_result | loses h_phase h_result =>
    -- The run comes first and needs the job's turn; the second event ends the turn.
    have h_turn := InTurn.ran h h_alive h_current h_flush h_lane h_phase h_result
    refine ⟨follows_append.2 ⟨h.turns, ?_, trivial, trivial⟩, h_open _ fun _ => rfl, ?_,
      fun _ => ?_⟩
    · rw [List.nil_append]
      exact h_turn
    · rw [openJob_append, holder_rest h_flush h_lane rfl]
      rfl
    · rw [runRecords_append, List.length_append, h_runs]
      rfl

theorem Transition.turnOf {m : Move C} (h : TurnOf s fs) (h_alive : s.aborted = false)
    (h_layout : Layout cfg s) (h_step : Transition cfg env s m s' es) : TurnOf s' (fs ++ es) := by
  cases h_step with
  | enqueue | dropArtifacts | pick | tick => exact h.plain (by simp [Plain]) rfl rfl rfl id
  | returns h_idle h_empty =>
    have h_plain : Plain ([] : List (Event C)) := by simp [Plain]
    exact h.ends (h_layout.idle h_idle) h_plain (.inl ⟨_, rfl⟩) h_idle rfl rfl rfl
  | begins h_idle h_some =>
    have h_holder : s.holder = none := by simp [State.holder, h_layout.idle h_idle]
    refine ⟨follows_append.2 ⟨h.turns, ⟨?_, ?_⟩, trivial⟩, ?_, ?_, fun _ => ?_⟩
    · rw [List.nil_append, h.call]
      simp [State.call, h_idle]
    · rw [List.nil_append, h.holder, h_holder]
    · rw [openCall_append]
      rfl
    · rw [openJob_append, h.holder]
      rfl
    · rw [runRecords_append, List.length_append, h.runs h_alive]
      rfl
  | caller h_current h_step => exact h_step.turnOf h h_current (h_layout.inFlush _ h_current)
  | worker h_running h_job h_step => exact h_step.turnOf h
  | launcher h_lane h_step => exact h_step.turnOf h h_alive h_layout h_lane

theorem turnOf_of_run {threads : Nat} {now : Moment} {ms : List (Move C)} {es : List (Stamped C)}
    (h_run : run cfg env (start threads now) ms = some (t, es)) : TurnOf t (history es) := by
  refine history_induction (P := fun _ t es => TurnOf t es) ⟨trivial, rfl, rfl, fun _ => rfl⟩ ?_
    h_run
  intro ms m t es u fs h_run h_alive h_turn h_step
  exact h_step.turnOf h_turn h_alive (layout_of_run h_run)

/-! ## Places go up -/

/-- The places that have run lie before those that the flush in progress has still to run. -/
structure RunBehind (s : State C) (es : List (Event C)) : Prop where
  ascending : (runPlaces es).Pairwise Before
  behind : ∀ p ∈ runPlaces es, p.1 < s.flushes ∨
    p.1 = s.flushes ∧ ∀ f, s.current = some f → p.2 < s.done f

/-- A move of a flush that goes on: at most the next record runs, and then its launch job comes to
an end. -/
theorem RunBehind.goesOn (h : RunBehind s fs) (h_flushes : s'.flushes = s.flushes)
    (h_current : ∀ f', s'.current = some f' →
      ∃ f, s.current = some f ∧ s.done f + (runPlaces es).length ≤ s'.done f')
    (h_places : runPlaces es = [] ∨
      ∃ f, s.current = some f ∧ runPlaces es = [(s.flushes, s.done f)]) :
    RunBehind s' (fs ++ es) := by
  refine ⟨?_, ?_⟩
  -- At most one place is new, and what has run lies behind it.
  · rw [runPlaces_append, List.pairwise_append]
    refine ⟨h.ascending, ?_, fun p h_p q h_q => ?_⟩
    · rcases h_places with h_none | ⟨f, -, h_one⟩
      · simp [h_none]
      · simp [h_one]
    · rcases h_places with h_none | ⟨f, h_f, h_one⟩
      · simp [h_none] at h_q
      · obtain rfl : q = (s.flushes, s.done f) := by simpa [h_one] using h_q
        rcases h.behind p h_p with h_earlier | ⟨h_same, h_less⟩
        · exact .inl h_earlier
        · exact .inr ⟨h_same, h_less f h_f⟩
  · intro p h_p
    rw [runPlaces_append, List.mem_append] at h_p
    rw [h_flushes]
    rcases h_p with h_p | h_p
    · rcases h.behind p h_p with h_earlier | ⟨h_same, h_less⟩
      · exact .inl h_earlier
      · refine .inr ⟨h_same, fun f' h_f' => ?_⟩
        obtain ⟨f, h_f, h_done⟩ := h_current f' h_f'
        have h_p := h_less f h_f
        omega
    · rcases h_places with h_none | ⟨f, h_f, h_one⟩
      · simp [h_none] at h_p
      · obtain rfl : p = (s.flushes, s.done f) := by simpa [h_one] using h_p
        refine .inr ⟨rfl, fun f' h_f' => ?_⟩
        obtain ⟨f₁, h_f₁, h_done⟩ := h_current f' h_f'
        obtain rfl : f = f₁ := by simpa [h_f] using h_f₁
        simp only [h_one, List.length_singleton] at h_done
        exact h_done

theorem RunBehind.of_sameProgress (h : RunBehind s fs) (h_same : SameProgress s s')
    (h_quiet : ∀ e ∈ es, e.isLaunch = false) : RunBehind s' (fs ++ es) := by
  have h_none : runPlaces es = [] := runPlaces_of_quiet h_quiet
  refine h.goesOn h_same.flushes (fun f' h_f' => ?_) (.inl h_none)
  obtain ⟨f, h_f, -, -, h_done⟩ := h_same.current f' h_f'
  refine ⟨f, h_f, ?_⟩
  rw [h_none, List.length_nil, h_done]
  exact Nat.le_refl _

theorem LauncherStep.runBehind {job : LaunchJob C} {rest : List (LaunchJob C)}
    (h : RunBehind s fs) (h_layout : Layout cfg s) (h_lane : s.lane = job :: rest)
    (h_step : LauncherStep cfg env s job rest s' es) : RunBehind s' (fs ++ es) := by
  obtain ⟨h_backlog, h_flushes, h_outline⟩ := h_step.plan
  -- The place of the first job is the first that has not come to an end.
  have h_next (f : Flush C) (h_f : s.current = some f) :
      (job.flush, job.seq) = (s.flushes, s.done f) := by
    have h_flush := h_layout.inFlush f h_f
    rw [(h_flush.own job (by simp [h_lane])).1, h_flush.number, h_flush.seq_eq h_lane]
  -- The lane gets no longer, and shorter if a record runs.
  have h_goesOn (h_shorter : s'.lane.length + (runPlaces es).length ≤ s.lane.length)
      (h_places : runPlaces es = [] ∨ runPlaces es = [(job.flush, job.seq)]) :
      RunBehind s' (fs ++ es) := by
    refine h.goesOn h_flushes (fun f' h_f' => ?_) ?_
    · obtain ⟨f, h_f, h_same⟩ := exists_flush_of_outline_eq h_outline h_f'
      have h_batch : f'.batch = f.batch := congrArg (fun g => g.batch) h_same
      have h_le := (h_layout.inFlush f h_f).remaining.length_le
      simp only [List.length_append, List.length_map] at h_le
      refine ⟨f, h_f, ?_⟩
      simp only [done, h_backlog, h_batch]
      omega
    · rcases h_places with h_none | h_one
      · exact .inl h_none
      · obtain ⟨f, h_f⟩ := h_layout.exists_flush h_lane
        exact .inr ⟨f, h_f, by rw [h_one, h_next f h_f]⟩
  cases h_step with
  | waits | finds => exact h_goesOn (by rw [h_lane]; exact Nat.le_refl _) (.inl rfl)
  | aborts => exact h_goesOn (Nat.le_refl _) (.inl rfl)
  | overflows | misses | mutes | expires =>
    exact h_goesOn (by rw [h_lane]; exact Nat.le_succ _) (.inl rfl)
  | completes | panics | loses =>
    exact h_goesOn (by rw [h_lane]; exact Nat.le_refl _) (.inr rfl)

theorem Transition.runBehind {m : Move C} (h : RunBehind s fs) (h_layout : Layout cfg s)
    (h_step : Transition cfg env s m s' es) : RunBehind s' (fs ++ es) := by
  cases h_step with
  | enqueue h_idle | dropArtifacts h_idle =>
    exact h.of_sameProgress ⟨rfl, fun f h_f => by simp [h_idle] at h_f⟩ (by simp)
  | returns h_idle h_empty =>
    exact h.of_sameProgress (.of_current_eq rfl rfl fun _ => rfl) (by simp [Event.isLaunch])
  | begins h_idle h_some =>
    have h_same : runPlaces (fs ++ [.began (s.flushes + 1) s.backlog]) = runPlaces fs := by
      rw [runPlaces_append]
      exact List.append_nil _
    refine ⟨h_same ▸ h.ascending, fun p h_p => .inl (Nat.lt_succ_of_le ?_)⟩
    have h_behind := h.behind p (h_same ▸ h_p)
    omega
  | caller h_current h_step => exact h.of_sameProgress (h_step.sameProgress h_current) h_step.quiet
  | worker h_running h_job h_step => exact h.of_sameProgress h_step.sameProgress h_step.quiet
  | launcher h_lane h_step => exact h_step.runBehind h h_layout h_lane
  | pick | tick => exact h.of_sameProgress (.of_current_eq rfl rfl fun _ => rfl) (by simp)

theorem runBehind_of_run {threads : Nat} {now : Moment} {ms : List (Move C)}
    {es : List (Stamped C)} (h_run : run cfg env (start threads now) ms = some (t, es)) :
    RunBehind t (history es) := by
  refine history_induction (P := fun _ t es => RunBehind t es) ⟨.nil, by simp [runPlaces]⟩ ?_ h_run
  intro ms m t es u fs h_run h_alive h_behind h_step
  exact h_step.runBehind h_behind (layout_of_run h_run)

/-! ## Each record at most once -/

/-- The records that have run and those that are left are among the records enqueued. -/
structure RecordsLeft (ms : List (Move C)) (s : State C) (es : List (Event C)) : Prop where
  once : (runRecords es ++ (s.lane.map (·.record) ++ s.backlog)).Sublist (enqueued ms)
  backlog : s.backlog <:+ enqueued ms
  batches : ∀ flush batch, Event.began flush batch ∈ es → batch <:+: enqueued ms

/-- A move that enqueues nothing: what runs was left before. -/
theorem RecordsLeft.fewer {ms : List (Move C)} {m : Move C} (h : RecordsLeft ms s fs)
    (h_m : enqueued [m] = [])
    (h_left : (runRecords es ++ (s'.lane.map (·.record) ++ s'.backlog)).Sublist
      (s.lane.map (·.record) ++ s.backlog))
    (h_backlog : s'.backlog <:+ s.backlog)
    (h_batches : ∀ flush batch, Event.began flush batch ∈ es → batch = s.backlog) :
    RecordsLeft (ms ++ [m]) s' (fs ++ es) := by
  -- What has run moves from those left to those that have run; nothing is added.
  have h_same : enqueued (ms ++ [m]) = enqueued ms := by
    rw [enqueued_concat, h_m, List.append_nil]
  refine ⟨?_, ?_, ?_⟩
  · rw [h_same, runRecords_append, List.append_assoc]
    exact (h_left.append_left _).trans h.once
  · rw [h_same]
    exact h_backlog.trans h.backlog
  · intro flush batch h_e
    rw [h_same]
    rcases List.mem_append.1 h_e with h_e | h_e
    · exact h.batches flush batch h_e
    · rw [h_batches flush batch h_e]
      exact h.backlog.isInfix

theorem RecordsLeft.same {ms : List (Move C)} {m : Move C} (h : RecordsLeft ms s fs)
    (h_m : enqueued [m] = []) (h_quiet : ∀ e ∈ es, e.isLaunch = false)
    (h_left : s'.lane.map (·.record) ++ s'.backlog = s.lane.map (·.record) ++ s.backlog)
    (h_backlog : s'.backlog <:+ s.backlog) (h_plain : ∀ flush batch, Event.began flush batch ∉ es) :
    RecordsLeft (ms ++ [m]) s' (fs ++ es) := by
  refine h.fewer h_m ?_ h_backlog fun flush batch h_e => absurd h_e (h_plain flush batch)
  rw [runRecords_of_quiet h_quiet, List.nil_append, h_left]

theorem CallerStep.recordsLeft {ms : List (Move C)} (h : RecordsLeft ms s fs)
    (h_step : CallerStep cfg env s f s' es) : RecordsLeft (ms ++ [.caller]) s' (fs ++ es) := by
  have h_quiet := h_step.quiet
  cases h_step with
  | submits h_stage h_backlog =>
    refine h.same rfl h_quiet ?_ (h_backlog ▸ List.suffix_cons _ _) (by simp)
    simp [h_backlog, Flush.launchJob]
  | abandons | succeeds | fails =>
    refine h.fewer rfl ?_ List.nil_suffix (by simp [endedEvent])
    rw [runRecords_of_quiet h_quiet, List.nil_append]
    exact (List.nil_sublist _).append_left _
  | schedules | shares | reuses =>
    exact h.same rfl h_quiet rfl (List.suffix_refl _) (by simp)
  | _ => exact h.same rfl h_quiet rfl (List.suffix_refl _) (by simp [joinedEvent])

theorem LauncherStep.recordsLeft {ms : List (Move C)} {job : LaunchJob C}
    {rest : List (LaunchJob C)} (h : RecordsLeft ms s fs) (h_lane : s.lane = job :: rest)
    (h_step : LauncherStep cfg env s job rest s' es) :
    RecordsLeft (ms ++ [.launcher]) s' (fs ++ es) := by
  have h_rest : (rest.map (·.record) ++ s.backlog).Sublist
      (s.lane.map (·.record) ++ s.backlog) := by
    rw [h_lane]
    exact List.sublist_cons_self _ _
  cases h_step with
  | waits | finds =>
    refine h.fewer rfl ?_ (List.suffix_refl _) (by simp)
    rw [h_lane]
    exact List.Sublist.refl _
  | aborts => exact h.fewer rfl (List.Sublist.refl _) (List.suffix_refl _) (by simp)
  | overflows | misses | mutes | expires => exact h.fewer rfl h_rest (List.suffix_refl _) (by simp)
  | completes | panics | loses =>
    refine h.fewer rfl ?_ (List.suffix_refl _) (by simp)
    rw [h_lane]
    exact List.Sublist.refl _

theorem Transition.recordsLeft {ms : List (Move C)} {m : Move C} (h : RecordsLeft ms s fs)
    (h_step : Transition cfg env s m s' es) : RecordsLeft (ms ++ [m]) s' (fs ++ es) := by
  cases h_step with
  | @enqueue r h_idle =>
    -- The record goes to the end of all three lists.
    have h_more : enqueued (ms ++ [.enqueue r]) = enqueued ms ++ [r] := enqueued_concat ms _
    refine ⟨?_, ?_, fun flush batch h_e => ?_⟩
    · rw [h_more, List.append_nil, ← List.append_assoc, ← List.append_assoc]
      refine List.Sublist.append_right ?_ [r]
      rw [List.append_assoc]
      exact h.once
    · obtain ⟨past, h_past⟩ := h.backlog
      rw [h_more]
      exact ⟨past, by rw [← List.append_assoc, h_past]⟩
    · rw [h_more]
      rw [List.append_nil] at h_e
      exact (h.batches flush batch h_e).trans (List.prefix_append _ _).isInfix
  | dropArtifacts | pick | tick => exact h.same rfl (by simp) rfl (List.suffix_refl _) (by simp)
  | returns => exact h.same rfl (by simp [Event.isLaunch]) rfl (List.suffix_refl _) (by simp)
  | begins h_idle h_some =>
    refine h.fewer rfl (List.Sublist.refl _) (List.suffix_refl _) fun flush batch h_e => ?_
    simp only [List.mem_singleton, Event.began.injEq] at h_e
    exact h_e.2
  | caller h_current h_step => exact h_step.recordsLeft h
  | worker h_running h_job h_step =>
    have h_same := h_step.samePlan
    refine h.same rfl h_step.quiet (by rw [h_same.lane, h_same.backlog])
      (h_same.backlog ▸ List.suffix_refl _) ?_
    cases h_step <;> simp
  | launcher h_lane h_step => exact h_step.recordsLeft h h_lane

theorem recordsLeft_of_run {threads : Nat} {now : Moment} {ms : List (Move C)}
    {es : List (Stamped C)} (h_run : run cfg env (start threads now) ms = some (t, es)) :
    RecordsLeft ms t (history es) := by
  refine history_induction (P := RecordsLeft) ⟨List.Sublist.refl _, List.suffix_refl _, by simp⟩
    ?_ h_run
  intro ms m t es u fs h_run h_alive h_left h_step
  exact h_step.recordsLeft h_left

/-! ## The order of all runs -/

/-- Artifacts run in order, one at a time and at most once for each record, in every run. -/
theorem invocations_in_order {threads : Nat} {now : Moment} {ms : List (Move C)}
    {es : List (Stamped C)} (h_run : run cfg env (start threads now) ms = some (t, es)) :
    InOrder ms (history es) where
  turns := (turnOf_of_run h_run).turns
  ascending := (runBehind_of_run h_run).ascending
  once := (List.sublist_append_left _ _).trans (recordsLeft_of_run h_run).once
  batches := (recordsLeft_of_run h_run).batches

/-- Contexts are numbers. The task `b` does not compile; every other artifact adds one. -/
def counting : Environment Nat where
  codegen _ call :=
    if call.task = "b" then .failed (.other "unsupported")
    else .code fun _ n => .completed (n + 1)

/-- Artifacts stay across flushes. -/
def keeping : Settings where
  retention := .acrossFlushes 4

/-- A flush of three records, of which the second has no artifact, and a flush that reuses an
artifact of the first. -/
def twoFlushes : List (Move Nat) :=
  [[.enqueue ⟨10, "k", "a"⟩, .enqueue ⟨20, "k", "b"⟩, .enqueue ⟨30, "k", "a"⟩, .flush],
    List.replicate 4 .caller,
    [.pick (.takeShared 0 1)], List.replicate 4 (.worker 0),
    [.pick (.takeOwn 0)], List.replicate 4 (.worker 0),
    List.replicate 7 .caller, List.replicate 8 .launcher,
    [.caller, .enqueue ⟨40, "k", "a"⟩, .flush], List.replicate 5 .caller,
    List.replicate 3 .launcher, [.caller]].flatten

theorem two_flushes_run_in_order :
    ∃ t es, run keeping counting (start 1 0) twoFlushes = some (t, es) ∧
      runPlaces (history es) = [(1, 0), (1, 2), (2, 0)] ∧ InOrder twoFlushes (history es) := by
  have h_places : (run keeping counting (start 1 0) twoFlushes).map
      (fun r => runPlaces (history r.2)) = some [(1, 0), (1, 2), (2, 0)] := rfl
  obtain ⟨⟨t, es⟩, h_run, h_es⟩ := Option.map_eq_some_iff.1 h_places
  exact ⟨t, es, h_run, h_es, invocations_in_order h_run⟩

end State

end KernelDispatch
