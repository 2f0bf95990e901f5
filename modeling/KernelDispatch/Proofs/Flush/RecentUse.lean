/-
  KernelDispatch.Proofs.Flush.RecentUse

  An artifact that has been used recently enough is still there.

  Between flushes the entries are stamped with the flush that has used them last; during
  a flush the entries with its stamp are those of the tasks that it has requested
  (`LastUses`). So the entries used since some flush `n` belong to records of the flushes
  begun since then, whatever else the store holds (`Remembered.since`). As long as
  these records have few texts, no retention drops an artifact that is used by flush
  `n`, and a record with its text reuses it (`Hit`).
-/
import KernelDispatch.Proofs.ArtifactStore.LastUse
import KernelDispatch.Proofs.Flush.Leaving
import KernelDispatch.Proofs.Flush.Counts
import KernelDispatch.Proofs.Flush.Supply

namespace KernelDispatch

variable {C : Type} {cfg : Settings} {env : Environment C}

namespace Event

/-- How a record's task stood when the flush requested it, for records of one task. -/
def standing? (key : TaskId) : Event C → Option Standing
  | scheduled _ _ k => if k = key then some .scheduled else none
  | shared _ k => if k = key then some .shared else none
  | reused _ k => if k = key then some .reused else none
  | _ => none

/-- The records with which a flush begins. -/
def batch : Event C → List (Record C)
  | began _ batch => batch
  | _ => []

end Event

/-- How a task stood each time that it was requested. -/
def standings (key : TaskId) (es : List (Event C)) : List Standing :=
  es.filterMap (Event.standing? key)

/-- The records of the flushes that have begun. -/
def recordsBegun (es : List (Event C)) : List (Record C) :=
  es.flatMap Event.batch

/-- The different texts of some records. -/
def textsOf (rs : List (Record C)) : Finset String :=
  (rs.map Record.task).toFinset

theorem standings_append (key : TaskId) (es fs : List (Event C)) :
    standings key (es ++ fs) = standings key es ++ standings key fs :=
  List.filterMap_append

theorem recordsBegun_append (es fs : List (Event C)) :
    recordsBegun (es ++ fs) = recordsBegun es ++ recordsBegun fs :=
  List.flatMap_append

theorem mem_textsOf {rs : List (Record C)} {text : String} :
    text ∈ textsOf rs ↔ ∃ r ∈ rs, r.task = text := by
  simp [textsOf]

namespace State

variable {s s' s₀ t u : State C} {f f' : Flush C} {m : Move C} {ms : List (Move C)}
  {es : List (Stamped C)} {fs : List (Event C)}

/-! ## What a move does to the last uses -/

/-- What a move does to the artifacts, to the last uses of the entries and to what the flush in
progress has requested. -/
inductive UseChange (cfg : Settings) (env : Environment C) (s : State C) (m : Move C)
    (s' : State C) (fs : List (Event C)) : Prop
  /-- It uses nothing. -/
  | still (h_uses : ∀ x, s'.store.user? x = s.store.user? x)
      (h_ready : ∀ x artifact, s.store.slot? x = some (.ready artifact) →
        s'.store.slot? x = some (.ready artifact))
      (h_keys : ∀ f', s'.current = some f' →
        ∃ f, s.current = some f ∧ f'.number = f.number ∧ f'.keys = f.keys)
      (h_quiet : ∀ key, standings key fs = [])
  /-- A flush begins. -/
  | begins (h_idle : s.current = none) (h_store : s'.store = s.store)
      (h_f' : s'.current = some s.firstFlush) (h_quiet : ∀ key, standings key fs = [])
  /-- The flush requests the task of a record. -/
  | requests {f f' : Flush C} {r : Record C} (h_f : s.current = some f)
      (h_f' : s'.current = some f') (h_number : f'.number = f.number)
      (h_keys : f'.keys = f.keys ++ [r.key])
      (h_store : s'.store = (s.store.request r.key f.number).2)
      (h_answer : ∀ key, standings key fs =
        if r.key = key then [(s.store.request r.key f.number).1] else [])
  /-- The flush ends, and the retention is applied. -/
  | ends {f : Flush C} (h_f : s.current = some f) (h_idle : s'.current = none)
      (h_store : s'.store = (s.store.retain cfg.retention (env.rank f.number)).2)
      (h_quiet : ∀ key, standings key fs = [])
  /-- The caller empties the store. -/
  | empties (h_m : m = .dropArtifacts) (h_idle : s'.current = none) (h_store : s'.store = ∅)
      (h_quiet : ∀ key, standings key fs = [])

/-- A move that leaves the store and the plan of the flush alone uses nothing. -/
theorem UseChange.of_outline (h_store : s'.store = s.store)
    (h_outline : s'.current.map Flush.outline = s.current.map Flush.outline)
    (h_quiet : ∀ key, standings key fs = []) : UseChange cfg env s m s' fs := by
  refine .still (fun x => by rw [h_store]) (fun x artifact h => by rw [h_store, h]) ?_ h_quiet
  intro f' h_f'
  obtain ⟨f, h_f, h_same⟩ := exists_flush_of_outline_eq h_outline h_f'
  exact ⟨f, h_f, congrArg (fun g => g.number) h_same, congrArg (fun g => g.keys) h_same⟩

theorem standings_of_request (f : Flush C) (r : Record C) (e : Event C) (key : TaskId) :
    standings key ((f.collision r).map (.collided · r.key) ++ [e]) = (e.standing? key).toList := by
  have h_collided :
      standings key ((f.collision r).map fun first => .collided (C := C) first r.key) = [] := by
    refine List.filterMap_eq_nil_iff.2 fun e h_e => ?_
    obtain ⟨_, -, rfl⟩ := List.mem_map.1 h_e
    rfl
  rw [standings_append, h_collided, List.nil_append]
  cases h : e.standing? key <;> simp [standings, h]

theorem CallerStep.useChange (h_f : s.current = some f) (h : CallerStep cfg env s f s' fs) :
    UseChange cfg env s .caller s' fs := by
  have h_one (answer : Standing) (r : Record C) (key : TaskId) :
      (if r.key = key then some answer else none).toList =
        if r.key = key then [answer] else [] := by
    split <;> rfl
  cases h with
  | schedules _ h_new =>
    refine .requests h_f rfl rfl rfl rfl fun key => ?_
    rw [standings_of_request, (ArtifactStore.request_eq_scheduled_iff ..).2 h_new]
    exact h_one ..
  | shares _ _ h_answer | reuses _ _ h_answer =>
    refine .requests h_f rfl rfl rfl rfl fun key => ?_
    rw [standings_of_request, h_answer]
    exact h_one ..
  | @polls found =>
    refine .still (fun x => ?_) (fun x artifact h => ?_) (fun f' h_f' => ?_) fun _ => rfl
    · unfold storeAfter
      split
      · exact ArtifactStore.user?_rejectPending _ _ _
      · rfl
    · unfold storeAfter
      split
      · exact ArtifactStore.ready_rejectPending h _
      · exact h
    · cases h_f'
      exact ⟨f, h_f, rfl, rfl⟩
  | abandons | succeeds | fails => exact .ends h_f rfl rfl fun _ => rfl
  | unwinds => exact .still (fun _ => rfl) (fun _ _ h => h) (by simp) fun _ => rfl
  | _ =>
    refine .still (fun _ => rfl) (fun _ _ h => h) (fun f' h_f' => ?_) fun _ => rfl
    cases h_f'
    exact ⟨f, h_f, rfl, rfl⟩

theorem WorkerStep.useChange {worker : Nat} {job : CompileJob C}
    (h : WorkerStep cfg env s worker job s' fs) : UseChange cfg env s m s' fs := by
  have h_outline := h.samePlan.current
  cases h with
  | settles =>
    refine .still (ArtifactStore.user?_settle _ _ _)
      (fun x artifact h => ArtifactStore.ready_settle h _ _) (fun f' h_f' => ?_) fun _ => rfl
    exact ⟨f', h_f', rfl, rfl⟩
  | _ => exact .of_outline rfl h_outline fun _ => rfl

theorem LauncherStep.useChange {job : LaunchJob C} {rest : List (LaunchJob C)}
    (h : LauncherStep cfg env s job rest s' fs) : UseChange cfg env s m s' fs := by
  have h_outline := h.plan.2.2
  cases h <;> exact .of_outline rfl h_outline fun _ => rfl

theorem Transition.useChange (h : Transition cfg env s m s' fs) :
    UseChange cfg env s m s' fs := by
  cases h with
  | dropArtifacts h_idle => exact .empties rfl h_idle rfl fun _ => rfl
  | begins h_idle => exact .begins h_idle rfl rfl fun _ => rfl
  | caller h_current h_step => exact h_step.useChange h_current
  | worker _ _ h_step => exact h_step.useChange
  | launcher _ h_step => exact h_step.useChange
  | enqueue | returns | pick | tick => exact .of_outline rfl rfl fun _ => rfl

/-! ## The last uses in a run -/

/-- The stamps of the entries: none is from a flush to come, and the flush in progress has stamped
the tasks that it has requested. -/
structure LastUses (s : State C) : Prop where
  begun : ∀ x n, s.store.user? x = some n → n ≤ s.flushes
  requested : ∀ f, s.current = some f → ∀ x n, s.store.user? x = some n →
    (n = f.number ↔ x ∈ f.keys)

theorem Transition.lastUses (h : LastUses s) (h_layout : Layout cfg s)
    (h_step : Transition cfg env s m s' fs) : LastUses s' := by
  have h_le := h_step.flushes_le
  cases h_step.useChange with
  | still h_uses _ h_keys =>
    constructor
    · intro x n h_x
      rw [h_uses] at h_x
      exact Nat.le_trans (h.begun x n h_x) h_le
    · intro f' h_f' x n h_x
      obtain ⟨f, h_f, h_number, h_same⟩ := h_keys f' h_f'
      rw [h_uses] at h_x
      rw [h_number, h_same]
      exact h.requested f h_f x n h_x
  | begins _ h_store h_first =>
    constructor
    · intro x n h_x
      rw [h_store] at h_x
      exact Nat.le_trans (h.begun x n h_x) h_le
    · intro f' h_f' x n h_x
      obtain rfl := Option.some.inj (h_first.symm.trans h_f')
      rw [h_store] at h_x
      have h_old := h.begun x n h_x
      refine iff_of_false (fun h_n => ?_) (List.not_mem_nil)
      rw [h_n] at h_old
      exact Nat.not_succ_le_self _ h_old
  | @requests f _ r h_f h_now h_number h_keys h_store =>
    have h_last := (h_layout.inFlush f h_f).number
    constructor
    · intro x n h_x
      rw [h_store, ArtifactStore.user?_request] at h_x
      split at h_x
      · rw [← Option.some.inj h_x, h_last]
        exact h_le
      · exact Nat.le_trans (h.begun x n h_x) h_le
    · intro f' h_f' x n h_x
      obtain rfl := Option.some.inj (h_now.symm.trans h_f')
      rw [h_store, ArtifactStore.user?_request] at h_x
      rw [h_number, h_keys, List.mem_append, List.mem_singleton]
      split at h_x
      · next h_r => exact iff_of_true (Option.some.inj h_x).symm (.inr h_r)
      · next h_r => rw [h.requested f h_f x n h_x, or_iff_left h_r]
  | ends _ h_idle h_store =>
    constructor
    · intro x n h_x
      rw [h_store] at h_x
      exact Nat.le_trans (h.begun x n (ArtifactStore.user?_of_retain h_x)) h_le
    · simp [h_idle]
  | empties _ h_idle h_store =>
    constructor
    · intro x n h_x
      rw [h_store] at h_x
      cases h_x
    · simp [h_idle]

theorem lastUses_of_run {threads : Nat} {now : Moment}
    (h_run : run cfg env (start threads now) ms = some (t, es)) : LastUses t := by
  refine run_induction (P := fun _ t _ => LastUses t) ⟨?_, ?_⟩
    (fun _ _ _ _ _ _ h_run _ h_before h_step => h_step.lastUses h_before (layout_of_run h_run))
    h_run
  · intro x n h_x
    cases h_x
  · intro f h_f
    cases h_f

/-! ## An artifact that stays -/

/-- What the flush in progress has requested belongs to its records. -/
theorem FlushLayout.keys_subset (h : FlushLayout cfg s f) : f.keys ⊆ f.batch.map Record.key := by
  have h_stage := h.stage
  unfold StageLayout at h_stage
  split at h_stage
  · rw [← h_stage.2.2]
    exact List.subset_append_left _ _
  all_goals
    rw [h_stage.1]
    exact List.Subset.refl _

/-- The store holds this artifact, which flush `n` or a later one has used, and all tasks used since
then are among the recent ones. -/
structure Remembered (recent : Finset TaskId) (n : Nat) (key : TaskId) (artifact : Artifact C)
    (s : State C) : Prop where
  slot : s.store.slot? key = some (.ready artifact)
  user : ∃ m, s.store.user? key = some m ∧ n ≤ m
  since : ∀ x m, s.store.user? x = some m → n ≤ m → x ∈ recent
  begun : n ≤ s.flushes
  batch : ∀ f, s.current = some f → ∀ r ∈ f.batch, r.key ∈ recent

/-- An artifact stays at the end of a flush if the tasks used since its last use are few. -/
theorem Remembered.retain {recent : Finset TaskId} {n : Nat} {key : TaskId}
    {artifact : Artifact C} (h : Remembered recent n key artifact s)
    (h_few : recent.card ≤ cfg.retention.limit) (rank : TaskId → Nat) :
    (s.store.retain cfg.retention rank).2.find? key = s.store.find? key := by
  obtain ⟨e, h_find, h_slot⟩ := Option.map_eq_some_iff.1 h.slot
  obtain ⟨m, h_user, h_le⟩ := h.user
  rw [ArtifactStore.user?, h_find, Option.map_some, Option.some.injEq] at h_user
  subst h_user
  rw [h_find]
  exact ArtifactStore.find?_retain_of_recent h_find (by rw [h_slot]; rfl) h_le h.since h_few

/-- Unless the caller empties the store, no move forgets an artifact while the recent tasks fit into
the limit of the retention. -/
theorem Transition.remembered {recent : Finset TaskId} {n : Nat} {key : TaskId}
    {artifact : Artifact C} (h : Remembered recent n key artifact s) (h_layout : Layout cfg s)
    (h_few : recent.card ≤ cfg.retention.limit) (h_keeps : m ≠ .dropArtifacts)
    (h_step : Transition cfg env s m s' fs) (h_recent : ∀ r ∈ recordsBegun fs, r.key ∈ recent) :
    Remembered recent n key artifact s' := by
  have h_begun := Nat.le_trans h.begun h_step.flushes_le
  have h_batch : ∀ f', s'.current = some f' → ∀ r ∈ f'.batch, r.key ∈ recent := by
    intro f' h_f' r h_r
    rcases h_step.flush_origin h_f' with ⟨-, f, h_f, -, h_same⟩ | ⟨-, -, rfl, rfl⟩
    · exact h.batch f h_f r (h_same ▸ h_r)
    · exact h_recent r (by simpa [recordsBegun, Event.batch, firstFlush] using h_r)
  obtain ⟨m, h_user, h_le⟩ := h.user
  cases h_step.useChange with
  | still h_uses h_ready =>
    refine ⟨h_ready key artifact h.slot, ⟨m, by rw [h_uses, h_user], h_le⟩, ?_, h_begun, h_batch⟩
    intro x l h_x
    rw [h_uses] at h_x
    exact h.since x l h_x
  | begins _ h_store =>
    refine ⟨by rw [h_store, h.slot], ⟨m, by rw [h_store, h_user], h_le⟩, ?_, h_begun, h_batch⟩
    rw [h_store]
    exact h.since
  | @requests f f' r h_f h_f' _ h_keys h_store =>
    have h_last := (h_layout.inFlush f h_f).number
    refine ⟨?_, ?_, ?_, h_begun, h_batch⟩
    · rw [h_store]
      exact ArtifactStore.ready_request h.slot _ _
    · rw [h_store, ArtifactStore.user?_request]
      split
      · exact ⟨f.number, rfl, h_last ▸ h.begun⟩
      · exact ⟨m, h_user, h_le⟩
    · intro x l h_x h_l
      rw [h_store, ArtifactStore.user?_request] at h_x
      split at h_x
      · next h_r =>
        -- The flush requests the task of one of its records.
        have h_mem : r.key ∈ f'.keys := by simp [h_keys]
        have h_layout' := (h_step.layout h_layout).inFlush f' h_f'
        obtain ⟨r', h_r', h_key⟩ := List.mem_map.1 (h_layout'.keys_subset h_mem)
        rw [h_r, ← h_key]
        exact h_batch f' h_f' r' h_r'
      · exact h.since x l h_x h_l
  | ends _ _ h_store =>
    have h_find := h.retain h_few
    refine ⟨?_, ⟨m, ?_, h_le⟩, ?_, h_begun, h_batch⟩
    · rw [h_store, ArtifactStore.slot?, h_find]
      exact h.slot
    · rw [h_store, ArtifactStore.user?, h_find]
      exact h_user
    · intro x l h_x
      rw [h_store] at h_x
      exact h.since x l (ArtifactStore.user?_of_retain h_x)
  | empties h_m => exact absurd h_m h_keeps

theorem remembered_of_run {recent : Finset TaskId} {n : Nat} {key : TaskId}
    {artifact : Artifact C} (h : Remembered recent n key artifact s) (h_layout : Layout cfg s)
    (h_few : recent.card ≤ cfg.retention.limit) (h_run : run cfg env s ms = some (t, es))
    (h_keeps : .dropArtifacts ∉ ms) (h_recent : ∀ r ∈ recordsBegun (history es), r.key ∈ recent) :
    Remembered recent n key artifact t := by
  refine history_induction (P := fun ms t es => .dropArtifacts ∉ ms →
    (∀ r ∈ recordsBegun es, r.key ∈ recent) → Remembered recent n key artifact t)
    (fun _ _ => h) ?_ h_run h_keeps h_recent
  intro ms m t es u fs h_prefix _ h_before h_step h_keeps h_recent
  rw [recordsBegun_append] at h_recent
  simp only [List.mem_append, or_imp, forall_and] at h_recent
  simp only [List.mem_append, List.mem_singleton, not_or] at h_keeps
  exact h_step.remembered (h_before h_keeps.1 h_recent.1) (h_layout.of_run h_prefix) h_few
    (Ne.symm h_keeps.2) h_recent.2

/-! ## A call that reuses it -/

/-- The tasks that a call begun in the state `s₀` has requested: all of its records once its flush
is over. -/
def requestedBy (s₀ t : State C) : List TaskId :=
  match t.current with
  | some f => f.keys
  | none => s₀.backlog.map Record.key

/-- A move that leaves no flush in progress requests nothing. -/
theorem Transition.standings_of_idle (h_step : Transition cfg env s m s' fs)
    (h_idle : s'.current = none) (key : TaskId) : standings key fs = [] := by
  cases h_step.useChange with
  | still _ _ _ h_quiet | begins _ _ _ h_quiet | ends _ _ _ h_quiet | empties _ _ _ h_quiet =>
    exact h_quiet key
  | requests _ h_f' => simp [h_idle] at h_f'

/-- A compile job for a task shows in how the task stood when it was requested. -/
theorem jobsFor_eq_nil {key : TaskId} {es : List (Event C)} {n : Nat}
    (h : standings key es = List.replicate n .reused) : jobsFor key es = [] := by
  refine List.filterMap_eq_nil_iff.2 fun e h_e => ?_
  cases e with
  | scheduled _ _ k =>
    rw [Event.jobFor?, if_neg]
    rintro rfl
    have h_standing : Standing.scheduled ∈ standings k es :=
      List.mem_filterMap.2 ⟨_, h_e, if_pos rfl⟩
    rw [h] at h_standing
    cases List.eq_of_mem_replicate h_standing
  | _ => rfl

/-- A launch job that comes to an outcome has found no artifact, or it has run the one that it
holds. -/
theorem Transition.of_recordEnded (h_step : Transition cfg env s m s' fs) {n seq : Nat}
    {key : TaskId} {waited : Nat} {outcome : Outcome}
    (h_e : Event.recordEnded n seq key waited outcome ∈ fs) :
    ∃ job rest, s.lane = job :: rest ∧ job.key = key ∧
      ((∀ artifact, s.store.slot? key ≠ some (.ready artifact)) ∨
        ∃ since artifact result, job.phase = .holding since artifact ∧
          Event.ran n seq job.record artifact result ∈ fs) := by
  have h_loud : (Event.recordEnded (C := C) n seq key waited outcome).isLaunch = true := rfl
  cases h_step with
  | @launcher job rest _ _ h_lane h_step =>
    cases h_step with
    | misses _ h_slot =>
      obtain ⟨-, -, rfl, -⟩ := Event.recordEnded.inj (List.mem_singleton.1 h_e)
      exact ⟨job, rest, h_lane, rfl, .inl h_slot⟩
    | completes h_phase | panics h_phase =>
      simp only [List.mem_cons, reduceCtorEq, List.not_mem_nil, or_false, false_or,
        Event.recordEnded.injEq] at h_e
      obtain ⟨rfl, rfl, rfl, -⟩ := h_e
      exact ⟨job, rest, h_lane, rfl, .inr ⟨_, _, _, h_phase, List.mem_cons_self ..⟩⟩
    | _ => simp at h_e
  | caller _ h_step => simp [h_step.quiet _ h_e] at h_loud
  | worker _ _ h_step => simp [h_step.quiet _ h_e] at h_loud
  | _ => simp at h_e

/-- What a call of `flush` that began in the state `s₀` and stands at `u` has done about a task
whose artifact it has found in the store. -/
structure Hit (key : TaskId) (artifact : Artifact C) (s₀ u : State C) (es : List (Event C)) :
    Prop where
  /-- Each record with the task reuses the artifact. -/
  reused : standings key es = List.replicate ((requestedBy s₀ u).count key) .reused
  /-- The flush submits no compile job for the task. -/
  noJob : jobsFor key es = []
  /-- No compile job of the flush hands the task over to the code generator. -/
  noCall : ∀ worker call, Event.codegenCalled (s₀.flushes + 1) worker key call ∉ es
  /-- A record with the task that comes to an outcome has run the artifact. -/
  served : ∀ n seq waited outcome, Event.recordEnded n seq key waited outcome ∈ es →
    ∃ r result, Event.ran n seq r artifact result ∈ es ∧ r.key = key

namespace ReadyCall

variable {key : TaskId} {artifact : Artifact C}

theorem standings_eq (h : ReadyCall cfg env s₀ ms t es)
    (h_old : ∀ key n, s₀.store.scheduler? key = some n → n ≤ s₀.flushes)
    (h_artifact : s₀.store.contains key = true) :
    standings key (history es) = List.replicate ((requestedBy s₀ t).count key) .reused := by
  have h_inFlush {ms : List (Move C)} {t : State C} {es : List (Stamped C)} {f : Flush C}
      (h : ReadyCall cfg env s₀ ms t es) (h_f : t.current = some f) :
      standings key (history es) = List.replicate (f.keys.count key) .reused := by
    refine h.inFlush_induction (P := fun _ es f =>
      standings key (history es) = List.replicate (f.keys.count key) .reused) h_f rfl ?_
    intro ms m t es u fs f f' h_call _ _ h_f h_f' h_before h_step _
    rw [history_append, history_stamp, standings_append, h_before]
    cases h_step.useChange with
    | still _ _ h_keys h_quiet =>
      obtain ⟨f₁, h_f₁, -, h_same⟩ := h_keys f' h_f'
      obtain rfl := Option.some.inj (h_f₁.symm.trans h_f)
      rw [h_quiet, h_same, List.append_nil]
    | @requests f₁ f₁' r h_f₁ h_f₁' _ h_keys _ h_answer =>
      obtain rfl := Option.some.inj (h_f₁.symm.trans h_f)
      obtain rfl := Option.some.inj (h_f₁'.symm.trans h_f')
      rw [h_answer, h_keys, List.count_append, List.count_singleton,
        ← List.replicate_append_replicate]
      by_cases h_r : r.key = key
      · rw [if_pos h_r, h_call.standing_eq h_f h_old, h_r, if_pos h_artifact]
        simp
      · simp [h_r]
    | begins h_idle => simp [h_idle] at h_f
    | ends _ h_idle | empties _ h_idle => simp [h_idle] at h_f'
  cases h_current : t.current with
  | some f =>
    rw [requestedBy, h_current]
    exact h_inFlush h h_current
  | none =>
    rw [requestedBy, h_current]
    refine h.induction (P := fun t es => t.current = none → standings key (history es) =
      List.replicate ((s₀.backlog.map Record.key).count key) .reused) ?_ ?_ h_current
    · intro u fs h_flush h_idle
      rw [history_stamp, h_flush.standings_of_idle h_idle]
      cases h_flush with
      | returns _ h_empty => simp [h_empty]
      | begins => cases h_idle
    · intro ms m t es u fs h_call _ _ h_before h_step h_idle
      rw [history_append, history_stamp, standings_append, h_step.standings_of_idle h_idle,
        List.append_nil]
      cases h_f : t.current with
      | none => exact h_before h_f
      | some f =>
        have h_layout := (h_call.layout.of_run h_call.reached).inFlush f h_f
        have h_keys := (h_step.caller_of_leaves h_f h_idle).keys_of_leaves h_layout h_idle
        rw [h_inFlush h_call h_f, h_keys, (h_call.number h_f).2]

/-- Launch jobs hold the artifact that was in the store when the flush began, and those that have
come to an outcome have run it. -/
theorem served (h : ReadyCall cfg env s₀ ms t es)
    (h_slot : s₀.store.slot? key = some (.ready artifact)) :
    (∀ job ∈ t.lane, job.key = key → ∀ since a, job.phase = .holding since a → a = artifact) ∧
    ∀ n seq waited outcome, Event.recordEnded n seq key waited outcome ∈ history es →
      ∃ r result, Event.ran n seq r artifact result ∈ history es ∧ r.key = key := by
  refine h.induction (P := fun t es =>
    (∀ job ∈ t.lane, job.key = key → ∀ since a, job.phase = .holding since a → a = artifact) ∧
    ∀ n seq waited outcome, Event.recordEnded n seq key waited outcome ∈ history es →
      ∃ r result, Event.ran n seq r artifact result ∈ history es ∧ r.key = key) ?_ ?_
  · intro u fs h_flush
    rw [history_stamp]
    cases h_flush with
    | returns h_idle | begins h_idle =>
      exact ⟨fun job h_job => by simp [h.layout.idle h_idle] at h_job, by simp⟩
  · intro ms m t es u fs h_call h_after _ h_before h_step
    have h_layout := h_call.layout.of_run h_call.reached
    have h_same {f : Flush C} (h_f : t.current = some f) {a : Artifact C}
        (h_a : t.store.slot? key = some (.ready a)) : a = artifact := by
      rw [h_call.slot?_kept h_f h_slot] at h_a
      cases h_a
      rfl
    obtain ⟨h_holding, h_served⟩ := h_before
    constructor
    · rintro job h_job rfl since a h_phase
      rcases h_step.holding h_job h_phase with h_old | h_found
      · exact h_holding job h_old rfl since a h_phase
      · obtain ⟨first, rest, h_lane⟩ := List.exists_cons_of_ne_nil (List.ne_nil_of_mem h_job)
        obtain ⟨f', h_f'⟩ := (h_after.layout.of_run h_after.reached).exists_flush h_lane
        obtain ⟨f, h_f⟩ := h_after.inProgress h_step h_f'
        exact h_same h_f h_found
    · intro n seq waited outcome h_e
      rw [history_append, history_stamp] at h_e ⊢
      rcases List.mem_append.1 h_e with h_old | h_new
      · obtain ⟨r, result, h_ran, h_key⟩ := h_served n seq waited outcome h_old
        exact ⟨r, result, List.mem_append_left _ h_ran, h_key⟩
      · obtain ⟨job, rest, h_lane, rfl, h_how⟩ := h_step.of_recordEnded h_new
        obtain ⟨f, h_f⟩ := h_layout.exists_flush h_lane
        have h_job : job ∈ t.lane := by simp [h_lane]
        rcases h_how with h_none | ⟨since, a, result, h_phase, h_ran⟩
        · exact absurd (h_call.slot?_kept h_f h_slot) (h_none artifact)
        · obtain rfl := h_holding job h_job rfl since a h_phase
          exact ⟨job.record, result, List.mem_append_right _ h_ran,
            ((h_layout.inFlush f h_f).own job h_job).2.symm⟩

end ReadyCall

/-- A caller that leaves its flush begins none. -/
theorem CallerStep.beginsNothing (h : CallerStep cfg env s f s' fs) (h_idle : s'.current = none) :
    recordsBegun fs = [] := by
  cases h with
  | unwinds | abandons | succeeds | fails => rfl
  | _ => cases h_idle

/-- The store keeps `max` entries across flushes. Flush `f` has a record with some text, and when
its caller leaves it the text has an artifact, whatever else is in the store and whatever the order
in which entries of equal age leave it. As long as the records of this flush and those begun since
then have at most `max` different texts and the caller does not empty the store, the artifact stays.
If no call of `flush` has panicked, then in the next call each record with this text reuses the
artifact, and the flush neither submits a compile job for it nor calls the code generator. -/
theorem recently_used_artifact_is_reused {threads max : Nat} {now : Moment}
    {ms₀ : List (Move C)} {es₀ es₁ : List (Stamped C)} {s₁ : State C} {r : Record C}
    {artifact : Artifact C} (h_retention : cfg.retention = .acrossFlushes max)
    (h_before : run cfg env (start threads now) ms₀ = some (s, es₀))
    (h_f : s.current = some f) (h_r : r ∈ f.batch)
    (h_ready : s.store.slot? r.key = some (.ready artifact))
    (h_leaves : step cfg env s .caller = some (s₁, es₁)) (h_over : s₁.current = none)
    (h_since : run cfg env s₁ ms = some (t, es)) (h_keeps : .dropArtifacts ∉ ms)
    (h_few : (textsOf (f.batch ++ recordsBegun (history es))).card ≤ max) :
    t.store.slot? r.key = some (.ready artifact) ∧
    (Calm (history (es₀ ++ es₁ ++ es)) → ∀ {ms' : List (Move C)} {u : State C}
      {es' : List (Stamped C)}, run cfg env t (.flush :: ms') = some (u, es') →
        (∀ m ∈ ms', m.isCall = false) → Hit r.key artifact t u (history es')) := by
  obtain ⟨h_alive, fs, h_step, rfl⟩ := step_eq_some_iff.1 h_leaves
  have h_layout := layout_of_run h_before
  have h_uses := lastUses_of_run h_before
  have h_caller := h_step.caller_of_leaves h_f h_over
  have h_keys := h_caller.keys_of_leaves (h_layout.inFlush f h_f) h_over
  have h_number := (h_layout.inFlush f h_f).number
  let recent := (textsOf (f.batch ++ recordsBegun (history es))).image TaskId.ofText
  have h_recent : ∀ x ∈ f.batch ++ recordsBegun (history es), x.key ∈ recent := fun x h_x =>
    Finset.mem_image_of_mem _ (mem_textsOf.2 ⟨x, h_x, rfl⟩)
  have h_limit : recent.card ≤ cfg.retention.limit := by
    rw [h_retention]
    exact Nat.le_trans Finset.card_image_le h_few
  -- The flush has stamped the tasks of its records, and so far nothing is stamped later.
  have h_remembered : Remembered recent f.number r.key artifact s := by
    refine ⟨h_ready, ?_, ?_, Nat.le_of_eq h_number, ?_⟩
    · obtain ⟨e, h_find, -⟩ := Option.map_eq_some_iff.1 h_ready
      have h_user : s.store.user? r.key = some e.usedBy := by
        rw [ArtifactStore.user?, h_find, Option.map_some]
      have h_stamp := (h_uses.requested f h_f r.key e.usedBy h_user).2
        (h_keys ▸ List.mem_map_of_mem h_r)
      exact ⟨e.usedBy, h_user, Nat.le_of_eq h_stamp.symm⟩
    · intro x n h_user h_le
      have h_stamp : n = f.number :=
        Nat.le_antisymm (h_number ▸ h_uses.begun x n h_user) h_le
      have h_x := (h_uses.requested f h_f x n h_user).1 h_stamp
      rw [h_keys] at h_x
      obtain ⟨r', h_r', rfl⟩ := List.mem_map.1 h_x
      exact h_recent r' (List.mem_append_left _ h_r')
    · intro f' h_f' r' h_r'
      obtain rfl := Option.some.inj (h_f'.symm.trans h_f)
      exact h_recent r' (List.mem_append_left _ h_r')
  have h_left := h_step.remembered h_remembered h_layout h_limit (by simp)
    (by simp [h_caller.beginsNothing h_over])
  have h_kept := remembered_of_run h_left (h_step.layout h_layout) h_limit h_since h_keeps
    fun x h_x => h_recent x (List.mem_append_right _ h_x)
  refine ⟨h_kept.slot, fun h_calm ms' u es' h_call h_noCall => ?_⟩
  have h_run : run cfg env (start threads now) ((ms₀ ++ [.caller]) ++ ms) =
      some (t, es₀ ++ stamp s.now fs ++ es) :=
    run_append.2 ⟨s₁, _, es, run_concat.2 ⟨s, es₀, fs, h_before, h_alive, h_step, rfl⟩, h_since,
      rfl⟩
  have h_next := readyCall_of_calm h_run h_calm h_call h_noCall
  have h_contains := ArtifactStore.contains_iff.2 ⟨artifact, h_kept.slot⟩
  have h_reused := h_next.standings_eq (scheduler?_le_of_run h_run) h_contains
  have h_noJob := jobsFor_eq_nil h_reused
  refine ⟨h_reused, h_noJob, fun worker call h_e => ?_, (h_next.served h_kept.slot).2⟩
  have h_whole := run_append.2 ⟨t, _, es', h_run, h_call, rfl⟩
  obtain ⟨j, h_scheduled⟩ := called_scheduled_of_run h_whole
    (by rw [history_append]; exact List.mem_append_right _ h_e)
  rw [history_append] at h_scheduled
  rcases List.mem_append.1 h_scheduled with h_old | h_new
  · exact Nat.not_succ_le_self _ (scheduled_le_of_run h_run h_old)
  · have h_j : j ∈ jobsFor r.key (history es') := List.mem_filterMap.2 ⟨_, h_new, if_pos rfl⟩
    rw [h_noJob] at h_j
    cases h_j

/-- The store keeps two artifacts across flushes. -/
def keepingTwo : Settings where
  retention := .acrossFlushes 2

/-- A flush of one record with a new task, as far as its last move. -/
def compiledFlush (task : String) : List (Move Nat) :=
  [[.enqueue ⟨0, "k", task⟩, .flush], List.replicate 2 .caller, [.pick (.takeShared 0 0)],
    List.replicate 4 (.worker 0), List.replicate 4 .caller, List.replicate 3 .launcher].flatten

/-- One flush uses the task `a`, the next one uses `b`, and then there are two records with `a`. -/
theorem two_records_reuse_an_artifact :
    ∃ s es₀ f s₁ es₁ t es u es' artifact,
      run keepingTwo counted (start 1 0) (compiledFlush "a") = some (s, es₀) ∧
      s.current = some f ∧ f.batch = [⟨0, "k", "a"⟩] ∧
      s.store.slot? (.ofText "a") = some (.ready artifact) ∧
      step keepingTwo counted s .caller = some (s₁, es₁) ∧ s₁.current = none ∧
      run keepingTwo counted s₁ (compiledFlush "b" ++
        [.caller, .enqueue ⟨1, "k", "a"⟩, .enqueue ⟨2, "k", "a"⟩]) = some (t, es) ∧
      textsOf (f.batch ++ recordsBegun (history es)) = {"a", "b"} ∧
      t.store.slot? (.ofText "a") = some (.ready artifact) ∧
      run keepingTwo counted t (.flush :: List.replicate 2 .caller) = some (u, es') ∧
      standings (.ofText "a") (history es') = [.reused, .reused] ∧
      Hit (.ofText "a") artifact t u (history es') := by
  have h_summary : ((run keepingTwo counted (start 1 0) (compiledFlush "a")).bind fun r₀ =>
      (step keepingTwo counted r₀.1 .caller).bind fun r₁ =>
        (run keepingTwo counted r₁.1 (compiledFlush "b" ++
          [.caller, .enqueue ⟨1, "k", "a"⟩, .enqueue ⟨2, "k", "a"⟩])).bind fun r =>
          (run keepingTwo counted r.1 (.flush :: List.replicate 2 .caller)).map fun r' =>
            ((r₀.1.current.map Flush.batch, r₀.1.store.contains (.ofText "a"),
                r₁.1.current.isNone),
              (recordsBegun (history r.2), answers (history (r₀.2 ++ r₁.2 ++ r.2))),
              standings (.ofText "a") (history r'.2))) =
      some ((some [⟨0, "k", "a"⟩], true, true),
        ([⟨0, "k", "b"⟩], [.returned (.ok { flush := 1, records := 1, compiled := 1 }),
          .returned (.ok { flush := 2, records := 1, compiled := 1 })]),
        [.reused, .reused]) := rfl
  obtain ⟨⟨s, es₀⟩, h_before, h_summary⟩ := Option.bind_eq_some_iff.1 h_summary
  obtain ⟨⟨s₁, es₁⟩, h_leaves, h_summary⟩ := Option.bind_eq_some_iff.1 h_summary
  obtain ⟨⟨t, es⟩, h_since, h_summary⟩ := Option.bind_eq_some_iff.1 h_summary
  obtain ⟨⟨u, es'⟩, h_call, h_eq⟩ := Option.map_eq_some_iff.1 h_summary
  simp only [Prod.mk.injEq] at h_eq
  obtain ⟨⟨h_batch, h_contains, h_over⟩, ⟨h_begun, h_answers⟩, h_standings⟩ := h_eq
  obtain ⟨f, h_f, h_batch⟩ := Option.map_eq_some_iff.1 h_batch
  obtain ⟨artifact, h_ready⟩ := ArtifactStore.contains_iff.1 h_contains
  have h_texts : textsOf (f.batch ++ recordsBegun (history es)) = {"a", "b"} := by
    rw [h_batch, h_begun]
    rfl
  have h_calm : Calm (history (es₀ ++ es₁ ++ es)) := by
    intro message h_unwound
    have h_answer := mem_answers.2 ⟨h_unwound, rfl⟩
    rw [h_answers] at h_answer
    simp at h_answer
  have h_keeps : Move.dropArtifacts ∉ compiledFlush "b" ++
      [.caller, .enqueue ⟨1, "k", "a"⟩, .enqueue ⟨2, "k", "a"⟩] := by
    simp [compiledFlush]
  have h_retention : keepingTwo.retention = .acrossFlushes 2 := rfl
  have h_r : ⟨0, "k", "a"⟩ ∈ f.batch := by
    rw [h_batch]
    exact List.mem_singleton_self _
  obtain ⟨h_kept, h_reuse⟩ := recently_used_artifact_is_reused h_retention h_before h_f h_r h_ready
    h_leaves (Option.isNone_iff_eq_none.1 h_over) h_since h_keeps (by rw [h_texts]; decide)
  exact ⟨s, es₀, f, s₁, es₁, t, es, u, es', artifact, h_before, h_f, h_batch, h_ready, h_leaves,
    Option.isNone_iff_eq_none.1 h_over, h_since, h_texts, h_kept, h_call, h_standings,
    h_reuse h_calm h_call (by decide)⟩

end State

end KernelDispatch
