/-
  KernelDispatch.Proofs.Flush.Provenance

  Where the contents of slots come from.

  During a flush a slot is what an earlier flush left behind, or it is scheduled
  once and then written once: by a compile job that settles it, or by the caller
  that gives up (`SlotOrigin`, `slotOrigin_of_run`). The compile job need not be
  one of the flush itself. A job that has outlived its own flush settles the slot
  of its task even if a later flush has scheduled the task anew. What a record
  observes is the flush's own exactly if no such job has settled its slot
  (`observes_own_iff_no_stale_job`), and it need not be
  (`observes_artifact_of_earlier_flush`).
-/
import KernelDispatch.Proofs.Flush.Unwinding

namespace KernelDispatch

variable {C : Type} {cfg : Settings} {env : Environment C}

/-! ## Who writes a slot -/

/-- Whether an event writes to the slot of a task if that is pending. -/
def Event.writes (key : TaskId) : Event C → Bool
  | slotSettled _ _ k _ changed => changed && decide (k = key)
  | polled _ found _ => found.slotMessage?.isSome
  | _ => false

/-- What an event writes. -/
def Event.written? : Event C → Option (Slot (Artifact C))
  | slotSettled _ _ _ content _ => some content
  | polled _ found _ => found.slotMessage?.map .failed
  | _ => none

/-- The compile job that is scheduled for a task. -/
def Event.jobFor? (key : TaskId) : Event C → Option Nat
  | scheduled _ job k => if k = key then some job else none
  | _ => none

/-- The first event that writes to the slot of a task. -/
def writer? (key : TaskId) (es : List (Event C)) : Option (Event C) :=
  es.find? (·.writes key)

/-- The compile jobs that are scheduled for a task. -/
def jobsFor (key : TaskId) (es : List (Event C)) : List Nat :=
  es.filterMap (Event.jobFor? key)

/-- No compile job settles the slot of a task. -/
def Unsettled (key : TaskId) (es : List (Event C)) : Prop :=
  ∀ n j content, Event.slotSettled n j key content true ∉ es

/-- How a slot has come to be what it is during a flush with the history `es`, if it was `before`
when the flush began. -/
inductive SlotOrigin (before : Option (Slot (Artifact C))) (key : TaskId) (es : List (Event C)) :
    Option (Slot (Artifact C)) → Prop where
  /-- There is no entry. -/
  | absent (h_before : before = none) (h_jobs : jobsFor key es = [])
      (h_unsettled : Unsettled key es) : SlotOrigin before key es none
  /-- An earlier flush has left an artifact. -/
  | kept {artifact : Artifact C} (h_before : before = some (.ready artifact))
      (h_jobs : jobsFor key es = []) (h_unsettled : Unsettled key es) :
      SlotOrigin before key es (some (.ready artifact))
  /-- The task is scheduled, and nothing has written to its slot. -/
  | awaited {j : Nat} (h_before : before = none) (h_jobs : jobsFor key es = [j])
      (h_writer : writer? key es = none) : SlotOrigin before key es (some .pending)
  /-- The task is scheduled, and its slot has been written. -/
  | written {j : Nat} {e : Event C} {content : Slot (Artifact C)} (h_before : before = none)
      (h_jobs : jobsFor key es = [j]) (h_writer : writer? key es = some e)
      (h_content : e.written? = some content) (h_settled : content.isPending = false)
      (h_once : ∀ n j c, Event.slotSettled n j key c true ∈ es → e = .slotSettled n j key c true) :
      SlotOrigin before key es (some content)

/-! ## Longer histories -/

theorem jobsFor_append (key : TaskId) (es fs : List (Event C)) :
    jobsFor key (es ++ fs) = jobsFor key es ++ jobsFor key fs :=
  List.filterMap_append

theorem writer?_append_of_some {key : TaskId} {es fs : List (Event C)} {e : Event C}
    (h : writer? key es = some e) : writer? key (es ++ fs) = some e := by
  rw [writer?, List.find?_append, show es.find? (·.writes key) = some e from h]
  rfl

theorem writer?_append_of_none {key : TaskId} {es fs : List (Event C)}
    (h : writer? key es = none) : writer? key (es ++ fs) = writer? key fs := by
  rw [writer?, List.find?_append, show es.find? (·.writes key) = none from h]
  rfl

/-- A slot that nothing has written to is not settled by a compile job. -/
theorem unsettled_of_writer?_eq_none {key : TaskId} {es : List (Event C)}
    (h : writer? key es = none) : Unsettled key es := by
  intro n j content h_e
  have h_not := List.find?_eq_none.1 h _ h_e
  simp [Event.writes] at h_not

/-- Before the first poll only a compile job writes to a slot. -/
theorem writer?_eq_none_of_unsettled {key : TaskId} {es : List (Event C)}
    (h : Unsettled key es) (h_unpolled : ∀ e ∈ es, e.isPoll = false) : writer? key es = none := by
  refine List.find?_eq_none.2 fun e h_e => ?_
  have h_not := h_unpolled e h_e
  cases e with
  | slotSettled n j k content changed =>
    simp only [Event.writes, Bool.and_eq_true, decide_eq_true_eq]
    rintro ⟨rfl, rfl⟩
    exact h n j content h_e
  | polled => simp [Event.isPoll] at h_not
  | _ => simp [Event.writes]

/-- The origin of a slot after events that do not settle it and that schedule no job for it. -/
theorem SlotOrigin.extend {before slot : Option (Slot (Artifact C))} {key : TaskId}
    {fs es : List (Event C)} (h : SlotOrigin before key fs slot) (h_jobs : jobsFor key es = [])
    (h_unsettled : Unsettled key es) (h_pending : slot = some .pending → writer? key es = none) :
    SlotOrigin before key (fs ++ es) slot := by
  -- The origin stays the same; only an awaited slot looks at who writes next.
  have h_jobs_same : jobsFor key (fs ++ es) = jobsFor key fs := by
    rw [jobsFor_append, h_jobs, List.append_nil]
  cases h with
  | absent h_before h_none h_old =>
    refine .absent h_before (h_jobs_same.trans h_none) fun n j c h_e => ?_
    rcases List.mem_append.1 h_e with h_e | h_e
    · exact h_old n j c h_e
    · exact h_unsettled n j c h_e
  | kept h_before h_none h_old =>
    refine .kept h_before (h_jobs_same.trans h_none) fun n j c h_e => ?_
    rcases List.mem_append.1 h_e with h_e | h_e
    · exact h_old n j c h_e
    · exact h_unsettled n j c h_e
  | awaited h_before h_one h_writer =>
    refine .awaited h_before (h_jobs_same.trans h_one) ?_
    rw [writer?_append_of_none h_writer]
    exact h_pending rfl
  | written h_before h_one h_writer h_content h_settled h_once =>
    refine .written h_before (h_jobs_same.trans h_one) (writer?_append_of_some h_writer) h_content
      h_settled fun n j c h_e => ?_
    rcases List.mem_append.1 h_e with h_e | h_e
    · exact h_once n j c h_e
    · exact absurd h_e (h_unsettled n j c)

theorem jobsFor_of_quiet (key : TaskId) {es : List (Event C)} (h : ∀ e ∈ es, e.isSlot = false) :
    jobsFor key es = [] := by
  refine List.filterMap_eq_nil_iff.2 fun e h_e => ?_
  have h_quiet := h e h_e
  cases e with
  | scheduled => simp [Event.isSlot] at h_quiet
  | _ => rfl

theorem writer?_of_quiet (key : TaskId) {es : List (Event C)} (h : ∀ e ∈ es, e.isSlot = false) :
    writer? key es = none := by
  refine List.find?_eq_none.2 fun e h_e => ?_
  have h_quiet := h e h_e
  cases e with
  | slotSettled | polled => simp [Event.isSlot] at h_quiet
  | _ => simp [Event.writes]

theorem SlotOrigin.quiet {before slot : Option (Slot (Artifact C))} {key : TaskId}
    {fs es : List (Event C)} (h : SlotOrigin before key fs slot)
    (h_quiet : ∀ e ∈ es, e.isSlot = false) : SlotOrigin before key (fs ++ es) slot :=
  h.extend (jobsFor_of_quiet key h_quiet)
    (unsettled_of_writer?_eq_none (writer?_of_quiet key h_quiet))
    fun _ => writer?_of_quiet key h_quiet

/-! ## Scheduling and writing -/

/-- The first event that writes to a scheduled slot decides what it holds. -/
theorem SlotOrigin.write {before : Option (Slot (Artifact C))} {key : TaskId}
    {fs : List (Event C)} {e : Event C} {content : Slot (Artifact C)}
    (h : SlotOrigin before key fs (some .pending)) (h_writes : e.writes key = true)
    (h_content : e.written? = some content) (h_settled : content.isPending = false) :
    SlotOrigin before key (fs ++ [e]) (some content) := by
  have h_job : e.jobFor? key = none := by
    cases e with
    | scheduled => simp [Event.writes] at h_writes
    | _ => rfl
  -- A pending slot is awaited, so the event is the first writer and stays it.
  cases h with
  | @awaited j h_before h_jobs h_writer =>
    refine .written (j := j) h_before ?_ ?_ h_content h_settled fun n j c h_e => ?_
    · rw [jobsFor_append, h_jobs]
      simp [jobsFor, h_job]
    · rw [writer?_append_of_none h_writer]
      simp [writer?, h_writes]
    · rcases List.mem_append.1 h_e with h_e | h_e
      · exact absurd h_e (unsettled_of_writer?_eq_none h_writer n j c)
      · exact (List.mem_singleton.1 h_e).symm
  | written _ _ _ _ h_settled' => simp [Slot.isPending] at h_settled'

namespace State

variable {s s' t : State C} {f : Flush C} {es fs : List (Event C)}

/-- During flush `n` every slot has an origin, nothing is polled before the tasks are requested, and
only flush `n` schedules and polls. -/
structure Tracked (before : TaskId → Option (Slot (Artifact C))) (n : Nat) (s : State C)
    (es : List (Event C)) : Prop where
  begun : n ≤ s.flushes
  unpolled : ∀ f, s.current = some f → f.number = n → f.Requesting → ∀ e ∈ es, e.isPoll = false
  slots : ∀ f, s.current = some f → f.number = n →
    ∀ key, SlotOrigin (before key) key es (s.store.slot? key)
  own : ∀ f, s.current = some f → f.number = n →
    (∀ n' j key, Event.scheduled n' j key ∈ es → n' = n) ∧
      ∀ n' found join, Event.polled n' found join ∈ es → n' = n

theorem jobContent_settled (job : CompileJob C) (result : Except Failure (Artifact C)) :
    (jobContent job result).isPending = false := by
  cases result <;> rfl

/-- A slot after a move of its flush. -/
theorem SlotChange.slotOrigin {before : Option (Slot (Artifact C))} {key : TaskId}
    (h_change : SlotChange s s' es) (h : SlotOrigin before key fs (s.store.slot? key))
    (h_current : s'.current ≠ none)
    (h_unpolled : ∀ f rest, s.current = some f → f.stage = .requesting rest →
      ∀ e ∈ fs, e.isPoll = false) :
    SlotOrigin before key (fs ++ es) (s'.store.slot? key) := by
  cases h_change with
  | still h_slots h_quiet =>
    rw [h_slots]
    exact h.quiet h_quiet
  | cleared h_idle => exact absurd h_idle h_current
  | @scheduled f r rest quiet h_f h_stage h_new h_slots h_quiet h_es =>
    subst h_es
    rw [h_slots, ← List.append_assoc]
    have h_before := h.quiet h_quiet
    -- The new task was absent, and nothing has been polled: its history holds no writer yet.
    by_cases h_key : key = r.key
    · subst h_key
      rw [if_pos rfl]
      rw [h_new] at h_before
      cases h_before with
      | absent h_none h_jobs h_unsettled =>
        refine .awaited (j := s.submitted) h_none ?_ ?_
        · rw [jobsFor_append, h_jobs]
          simp [jobsFor, Event.jobFor?]
        · rw [writer?_append_of_none (writer?_eq_none_of_unsettled h_unsettled ?_)]
          · simp [writer?, Event.writes]
          · intro e h_e
            rcases List.mem_append.1 h_e with h_e | h_e
            · exact h_unpolled f (r :: rest) h_f h_stage e h_e
            · have h_slot := h_quiet e h_e
              cases e <;> first | rfl | simp [Event.isSlot] at h_slot
    · rw [if_neg h_key]
      refine h_before.extend ?_ ?_ ?_
      · simp [jobsFor, Event.jobFor?, Ne.symm h_key]
      · simp [Unsettled]
      · simp [writer?, Event.writes]
  | @settled job result h_job h_phase h_slots h_es =>
    subst h_es
    rw [h_slots]
    -- The job writes if the slot is its own and still pending, whatever flush it comes from.
    by_cases h_key : key = job.key ∧ s.store.isPending job.key = true
    · rw [if_pos h_key]
      obtain ⟨rfl, h_pending⟩ := h_key
      rw [ArtifactStore.isPending_iff.1 h_pending] at h
      exact h.write (by simp [Event.writes, h_pending]) rfl (jobContent_settled job result)
    · rw [if_neg h_key]
      have h_not : ¬(s.store.isPending job.key = true ∧ job.key = key) :=
        fun h => h_key ⟨h.2.symm, h.1⟩
      have h_writer : writer? key
          [Event.slotSettled job.flush job.id job.key (jobContent job result)
            (s.store.isPending job.key)] = none := by
        simpa [writer?, Event.writes] using h_not
      exact h.extend rfl (unsettled_of_writer?_eq_none h_writer) fun _ => h_writer
  | @polled f found inbox h_f h_stage h_over h_poll h_slots h_es =>
    subst h_es
    rw [h_slots]
    have h_unsettled :
        Unsettled key [Event.polled (C := C) f.number found (f.join.note found)] := by
      simp [Unsettled]
    cases h_message : found.slotMessage? with
    | none => exact h.extend rfl h_unsettled fun _ => by simp [writer?, Event.writes, h_message]
    | some message =>
      cases h_slot : s.store.slot? key with
      | none => exact (h_slot ▸ h).extend rfl h_unsettled (by simp)
      | some slot =>
        rw [h_slot] at h
        cases slot with
        | pending =>
          have h_written : SlotOrigin before key _ (some (.failed message)) :=
            h.write (e := .polled f.number found (f.join.note found))
              (by simp [Event.writes, h_message]) (by simp [Event.written?, h_message]) rfl
          exact h_written
        | ready artifact | failed text => exact h.extend rfl h_unsettled (by simp)

theorem Tracked.step {before : TaskId → Option (Slot (Artifact C))} {n : Nat} {m : Move C}
    (h : Tracked before n s fs) (h_step : Transition cfg env s m s' es) :
    Tracked before n s' (fs ++ es) := by
  -- A flush with this number after the move is the one before it.
  have h_same (f' : Flush C) (h_f' : s'.current = some f') (h_n : f'.number = n) :
      ∃ f, s.current = some f ∧ f.number = n := by
    rcases h_step.flush_origin h_f' with ⟨-, f, h_f, h_number, -⟩ | ⟨-, -, rfl, -⟩
    · exact ⟨f, h_f, h_number ▸ h_n⟩
    · have h_begun := h.begun
      change s.flushes + 1 = n at h_n
      omega
  refine ⟨Nat.le_trans h.begun h_step.flushes_le, ?_, ?_, ?_⟩
  · intro f' h_f' h_n h_requesting e h_e
    obtain ⟨f, h_f, h_number⟩ := h_same f' h_f' h_n
    obtain ⟨h_before, h_quiet⟩ := h_step.requesting h_f' h_requesting
    rcases List.mem_append.1 h_e with h_e | h_e
    · rcases h_before with h_idle | ⟨f₁, h_f₁, h_before⟩
      · simp [h_f] at h_idle
      · obtain rfl : f = f₁ := by simpa [h_f] using h_f₁
        exact h.unpolled f h_f h_number h_before e h_e
    · exact h_quiet e h_e
  · intro f' h_f' h_n key
    obtain ⟨f, h_f, h_number⟩ := h_same f' h_f' h_n
    refine h_step.slotChange.slotOrigin (h.slots f h_f h_number key) (by simp [h_f']) ?_
    intro f₁ rest h_f₁ h_stage
    obtain rfl : f = f₁ := by simpa [h_f] using h_f₁
    exact h.unpolled f h_f h_number ⟨rest, h_stage⟩
  · intro f' h_f' h_n
    obtain ⟨f, h_f, h_number⟩ := h_same f' h_f' h_n
    obtain ⟨h_scheduled, h_polled⟩ := h.own f h_f h_number
    have h_mine (n' : Nat) (h_n' : ∃ f₁, s.current = some f₁ ∧ f₁.number = n') : n' = n := by
      obtain ⟨f₁, h_f₁, rfl⟩ := h_n'
      obtain rfl : f = f₁ := by simpa [h_f] using h_f₁
      exact h_number
    refine ⟨fun n' j key h_e => ?_, fun n' found join h_e => ?_⟩
    · rcases List.mem_append.1 h_e with h_e | h_e
      · exact h_scheduled n' j key h_e
      · exact h_mine n' (h_step.scheduled_current h_e)
    · rcases List.mem_append.1 h_e with h_e | h_e
      · exact h_polled n' found join h_e
      · obtain ⟨f₁, _, h_f₁, h_n', -⟩ := h_step.of_polled h_e
        exact h_mine n' ⟨f₁, h_f₁, h_n'⟩

/-- During a flush every slot has an origin. -/
theorem tracked_of_run {ms : List (Move C)} {es : List (Stamped C)} (h_some : s.backlog ≠ [])
    (h_ready : AllReady s) (h_run : run cfg env s (.flush :: ms) = some (t, es)) :
    Tracked s.store.slot? (s.flushes + 1) t (history es) := by
  obtain ⟨s₁, es₁, es₂, h_step, h_rest, rfl⟩ := run_cons.1 h_run
  obtain ⟨-, fs, h_begins, rfl⟩ := step_eq_some_iff.1 h_step
  rw [history_append, history_stamp]
  have h_first : Tracked s.store.slot? (s.flushes + 1) s₁ fs := by
    cases h_begins with
    | returns h_idle h_empty => exact absurd h_empty h_some
    | begins h_idle h_some =>
      refine ⟨Nat.le_refl _, fun _ _ _ _ => by simp [Event.isPoll], fun _ _ _ key => ?_,
        fun _ _ _ => by simp⟩
      -- Between flushes a slot is absent or an artifact, and both are where origins start.
      cases h_slot : s.store.slot? key with
      | none => exact .absent rfl rfl (by simp [Unsettled])
      | some slot =>
        have h_slot_ready := h_ready key slot h_slot
        cases slot with
        | ready artifact => exact .kept rfl rfl (by simp [Unsettled])
        | pending | failed => simp [Slot.isReady] at h_slot_ready
  refine history_induction (P := fun _ t es => Tracked s.store.slot? (s.flushes + 1) t (fs ++ es))
    (by simpa using h_first) ?_ h_rest
  intro ms m t es u fs' _ _ h_tracked h_step
  rw [← List.append_assoc]
  exact h_tracked.step h_step

/-! ## What a record observes -/

/-- The content of a slot is what a flush may rely on: an artifact that was there when the flush
began, or what the one compile job that the flush has scheduled for the task has put there, or
the message with which the flush itself has given up. -/
inductive Own (before : Option (Slot (Artifact C))) (n : Nat) (key : TaskId) (es : List (Event C))
    (content : Slot (Artifact C)) : Prop where
  | kept {artifact : Artifact C} (h_before : before = some (.ready artifact))
      (h_content : content = .ready artifact)
  | compiled {j : Nat} (h_jobs : jobsFor key es = [j])
      (h_writer : writer? key es = some (.slotSettled n j key content true))
  | givenUp {found : Polled} {join : Join} {message : String}
      (h_writer : writer? key es = some (.polled n found join))
      (h_message : found.slotMessage? = some message) (h_content : content = .failed message)

theorem mem_jobsFor {key : TaskId} {es : List (Event C)} {n j : Nat}
    (h : Event.scheduled n j key ∈ es) : j ∈ jobsFor key es :=
  List.mem_filterMap.2 ⟨_, h, by simp [Event.jobFor?]⟩

theorem scheduled_of_mem_jobsFor {key : TaskId} {es : List (Event C)} {j : Nat}
    (h : j ∈ jobsFor key es) : ∃ n, Event.scheduled n j key ∈ es := by
  obtain ⟨e, h_e, h_job⟩ := List.mem_filterMap.1 h
  cases e with
  | scheduled n id k =>
    obtain ⟨rfl, h_id⟩ := Option.ite_none_right_eq_some.1 h_job
    exact ⟨n, Option.some.inj h_id ▸ h_e⟩
  | _ => cases h_job

/-- A settled slot is the flush's own exactly if no compile job of another flush has settled it. -/
theorem own_iff_of_origin {before : Option (Slot (Artifact C))} {n : Nat} {key : TaskId}
    {content : Slot (Artifact C)} (h : SlotOrigin before key es (some content))
    (h_settled : content.isPending = false)
    (h_scheduled : ∀ j c, Event.slotSettled n j key c true ∈ es → Event.scheduled n j key ∈ es)
    (h_polled : ∀ n' found join, Event.polled n' found join ∈ es → n' = n) :
    Own before n key es content ↔
      ∀ n' j c, Event.slotSettled n' j key c true ∈ es → n' = n := by
  cases h with
  | kept h_before h_jobs h_unsettled =>
    exact ⟨fun _ n' j c h_e => absurd h_e (h_unsettled n' j c), fun _ => .kept h_before rfl⟩
  | awaited => simp [Slot.isPending] at h_settled
  | @written j e content h_before h_jobs h_writer h_content _ h_once =>
    -- All settling events of the slot are the one that was written first.
    have h_e : e ∈ es := List.mem_of_find?_eq_some h_writer
    have h_writes : e.writes key = true := List.find?_some h_writer
    constructor
    · rintro h_own n' j' c h_e'
      obtain rfl := h_once n' j' c h_e'
      cases h_own with
      | kept h_kept => simp [h_before] at h_kept
      | compiled _ h_first =>
        rw [h_writer] at h_first
        simp only [Option.some.injEq, Event.slotSettled.injEq] at h_first
        exact h_first.1
      | givenUp h_first => simp [h_writer] at h_first
    · intro h_mine
      cases e with
      | slotSettled n' j' k c changed =>
        simp only [Event.writes, Bool.and_eq_true, decide_eq_true_eq] at h_writes
        obtain ⟨rfl, rfl⟩ := h_writes
        obtain rfl : c = content := by simpa [Event.written?] using h_content
        obtain rfl := h_mine n' j' c h_e
        have h_job := mem_jobsFor (h_scheduled j' c h_e)
        rw [h_jobs, List.mem_singleton] at h_job
        subst h_job
        exact .compiled h_jobs h_writer
      | polled n' found join =>
        obtain rfl := h_polled n' found join h_e
        obtain ⟨message, h_message, rfl⟩ := Option.map_eq_some_iff.1 h_content
        exact .givenUp h_writer h_message rfl
      | _ => simp [Event.writes] at h_writes

/-- What a launch job of a flush finds in its slot is the flush's own exactly if no compile job of
another flush has settled that slot since the flush began. Such a job comes from an earlier
flush. -/
theorem observes_own_iff_no_stale_job {threads : Nat} {now : Moment} {ms₀ ms : List (Move C)}
    {s₀ : State C} {es₀ es : List (Stamped C)} {job : LaunchJob C}
    {content : Slot (Artifact C)}
    (h_before : run cfg env (start threads now) ms₀ = some (s₀, es₀)) (h_some : s₀.backlog ≠ [])
    (h_run : run cfg env s₀ (.flush :: ms) = some (s, es)) (h_current : s.current = some f)
    (h_number : f.number = s₀.flushes + 1) (h_job : job ∈ s.lane)
    (h_slot : s.store.slot? job.key = some content) (h_settled : content.isPending = false) :
    (Own (s₀.store.slot? job.key) f.number job.key (history es) content ↔
      ∀ n j c, Event.slotSettled n j job.key c true ∈ history es → n = f.number) ∧
    ∀ n j c, Event.slotSettled n j job.key c true ∈ history es → n ≠ f.number →
      n < f.number ∧ Event.scheduled n j job.key ∈ history es₀ := by
  have h_whole : run cfg env (start threads now) (ms₀ ++ .flush :: ms) = some (s, es₀ ++ es) :=
    run_append.2 ⟨s₀, es₀, es, h_before, h_run, rfl⟩
  -- A flush with launch jobs has got past its deadline, so no flush before it has panicked.
  have h_calm (message : String) : Event.unwound message ∉ history es₀ := by
    intro h_unwound
    have h_stuck := stuck_of_run h_whole
      (by rw [history_append]; exact List.mem_append_left _ h_unwound)
    simp [h_stuck.lane] at h_job
  have h_idle : s₀.current = none := by
    obtain ⟨_, _, _, h_step, -, -⟩ := run_cons.1 h_run
    obtain ⟨-, _, h_begins, -⟩ := step_eq_some_iff.1 h_step
    cases h_begins with
    | returns h_idle | begins h_idle => exact h_idle
  have h_ready := ready_when_idle_of_run h_before h_calm h_idle
  have h_tracked := tracked_of_run h_some h_ready h_run
  obtain ⟨h_own_jobs, h_own_polls⟩ := h_tracked.own f h_current h_number
  -- The slot has an origin since the flush began, and its jobs were scheduled then or before.
  have h_origin := h_slot ▸ h_tracked.slots f h_current h_number job.key
  have h_scheduled (n j : Nat) (c : Slot (Artifact C))
      (h_e : Event.slotSettled n j job.key c true ∈ history es) :
      Event.scheduled n j job.key ∈ history es₀ ∨ Event.scheduled n j job.key ∈ history es := by
    have h_e := settled_scheduled_of_run h_whole
      (by rw [history_append]; exact List.mem_append_right _ h_e)
    rwa [history_append, List.mem_append] at h_e
  rw [← h_number] at h_own_jobs h_own_polls
  constructor
  · refine own_iff_of_origin h_origin h_settled (fun j c h_e => ?_) h_own_polls
    rcases h_scheduled f.number j c h_e with h_old | h_new
    · have h_le := scheduled_le_of_run h_before h_old
      omega
    · exact h_new
  · intro n j c h_e h_ne
    rcases h_scheduled n j c h_e with h_old | h_new
    · have h_le := scheduled_le_of_run h_before h_old
      exact ⟨by omega, h_old⟩
    · exact absurd (h_own_jobs n j job.key h_new) h_ne

/-- Every call of the code generator counts how often its text has been handed over, and the
artifact adds that number. -/
def counted : Environment Nat where
  codegen _ call := .code fun _ n => .completed (n + call.build)

/-- The flush and the number of the compile job in an event that settles a slot. -/
def settler? : Event C → Option (Nat × Nat)
  | .slotSettled n j _ _ _ => some (n, j)
  | _ => none

/-- A flush of one record as far as the wait for its artifact. -/
def singleFlush : List (Move Nat) :=
  [List.replicate 2 .caller, [.pick (.takeShared 0 0)], List.replicate 4 (.worker 0),
    List.replicate 4 .caller, [.launcher]].flatten

theorem single_flush_observes_own :
    ∃ s₀ es₀ s es f job content,
      run {} counted (start 1 0) [.enqueue ⟨0, "k", "a"⟩] = some (s₀, es₀) ∧ s₀.backlog ≠ [] ∧
        run {} counted s₀ (.flush :: singleFlush) = some (s, es) ∧ s.current = some f ∧
        f.number = s₀.flushes + 1 ∧ job ∈ s.lane ∧ s.store.slot? job.key = some content ∧
        content.isPending = false ∧
        Own (s₀.store.slot? job.key) f.number job.key (history es) content := by
  have h_summary : ((run {} counted (start 1 0) [.enqueue ⟨0, "k", "a"⟩]).bind fun r₀ =>
      (run {} counted r₀.1 (.flush :: singleFlush)).map fun r =>
        ((r₀.1.backlog.length, r₀.1.flushes),
          (r.1.current.map Flush.number, r.1.lane.map LaunchJob.key,
            (r.1.store.slot? (.ofText "a")).map Slot.isPending),
          (history r.2).filterMap settler?)) =
      some ((1, 0), (some 1, [.ofText "a"], some false), [(1, 0)]) := rfl
  obtain ⟨⟨s₀, es₀⟩, h_before, h_later⟩ := Option.bind_eq_some_iff.1 h_summary
  obtain ⟨⟨s, es⟩, h_run, h_eq⟩ := Option.map_eq_some_iff.1 h_later
  simp only [Prod.mk.injEq] at h_eq
  obtain ⟨⟨h_backlog, h_flushes⟩, ⟨h_number, h_lane, h_slot⟩, h_settlers⟩ := h_eq
  obtain ⟨f, h_current, h_number⟩ := Option.map_eq_some_iff.1 h_number
  obtain ⟨job, h_lane, h_key⟩ := List.map_eq_singleton_iff.1 h_lane
  obtain ⟨content, h_slot, h_settled⟩ := Option.map_eq_some_iff.1 h_slot
  have h_some : s₀.backlog ≠ [] := by
    intro h_empty
    simp [h_empty] at h_backlog
  have h_next : f.number = s₀.flushes + 1 := by rw [h_number, h_flushes]
  have h_job : job ∈ s.lane := by simp [h_lane]
  rw [← h_key] at h_slot
  have h_iff :=
    observes_own_iff_no_stale_job h_before h_some h_run h_current h_next h_job h_slot h_settled
  refine ⟨s₀, es₀, s, es, f, job, content, h_before, h_some, h_run, h_current, h_next, h_job,
    h_slot, h_settled, h_iff.1.2 fun n j c h_e => ?_⟩
  have h_settler : (n, j) ∈ (history es).filterMap settler? :=
    List.mem_filterMap.2 ⟨_, h_e, rfl⟩
  rw [h_settlers, List.mem_singleton, Prod.mk.injEq] at h_settler
  rw [h_settler.1, h_number]

/-- A flush waits for its compile jobs for no longer than a nanosecond. -/
def impatient : Settings where
  compilePatience := .ofNanos 1

/-- A flush whose compile job is still running when the flush gives up and ends. -/
def outlivedFlush : List (Move Nat) :=
  [[.enqueue ⟨0, "k", "a"⟩, .flush], List.replicate 2 .caller,
    [.pick (.takeShared 0 0), .worker 0, .tick 1], List.replicate 4 .caller,
    List.replicate 2 .launcher, [.caller, .enqueue ⟨0, "k", "a"⟩]].flatten

/-- Another flush of the same task: the earlier job settles the slot first. -/
def laterFlush : List (Move Nat) :=
  [List.replicate 2 .caller, List.replicate 3 (.worker 0), [.pick (.takeShared 0 0)],
    List.replicate 4 (.worker 0), List.replicate 4 .caller, [.launcher]].flatten

/-- The number of the call that an artifact in a slot comes from. -/
def buildIn? : Option (Slot (Artifact C)) → Option Nat
  | some (.ready artifact) => some artifact.origin.build
  | _ => none

/-- The record of a later flush waits for its artifact and finds the one that the job of an earlier
flush has made, although its own flush has scheduled a job for the task and that job has called the
code generator too. -/
theorem observes_artifact_of_earlier_flush :
    impatient.Valid ∧ ∃ s₀ es₀ s es f job artifact,
      run impatient counted (start 1 0) outlivedFlush = some (s₀, es₀) ∧ s₀.backlog ≠ [] ∧
        run impatient counted s₀ (.flush :: laterFlush) = some (s, es) ∧
        s.current = some f ∧ f.number = s₀.flushes + 1 ∧ s.lane = [job] ∧
        s.store.slot? job.key = some (.ready artifact) ∧ artifact.origin.build = 1 ∧
        jobsFor job.key (history es) = [1] ∧
        ¬ Own (s₀.store.slot? job.key) f.number job.key (history es) (.ready artifact) := by
  have h_summary : ((run impatient counted (start 1 0) outlivedFlush).bind fun r₀ =>
      (run impatient counted r₀.1 (.flush :: laterFlush)).map fun r =>
        ((r₀.1.backlog.length, r₀.1.flushes, (r₀.1.store.slot? (.ofText "a")).isNone),
          (r.1.current.map Flush.number, r.1.lane.map LaunchJob.key,
            buildIn? (r.1.store.slot? (.ofText "a"))),
          (jobsFor (.ofText "a") (history r.2),
            (writer? (.ofText "a") (history r.2)).map settler?))) =
      some ((1, 1, true), (some 2, [.ofText "a"], some 1), ([1], some (some (1, 0)))) := rfl
  obtain ⟨⟨s₀, es₀⟩, h_before, h_later⟩ := Option.bind_eq_some_iff.1 h_summary
  obtain ⟨⟨s, es⟩, h_run, h_eq⟩ := Option.map_eq_some_iff.1 h_later
  simp only [Prod.mk.injEq] at h_eq
  obtain ⟨⟨h_backlog, h_flushes, h_new⟩, ⟨h_number, h_lane, h_build⟩, h_jobs, h_writer⟩ := h_eq
  obtain ⟨f, h_current, h_number⟩ := Option.map_eq_some_iff.1 h_number
  obtain ⟨job, h_lane, h_key⟩ := List.map_eq_singleton_iff.1 h_lane
  have h_slot : ∃ artifact, s.store.slot? (.ofText "a") = some (.ready artifact) ∧
      artifact.origin.build = 1 := by
    unfold buildIn? at h_build
    split at h_build
    · next artifact h_slot => exact ⟨artifact, h_slot, Option.some.inj h_build⟩
    · contradiction
  obtain ⟨artifact, h_slot, h_build⟩ := h_slot
  refine ⟨by decide, s₀, es₀, s, es, f, job, artifact, h_before, ?_, h_run, h_current, ?_, h_lane,
    h_key ▸ h_slot, h_build, h_key ▸ h_jobs, ?_⟩
  · intro h_empty
    simp [h_empty] at h_backlog
  · rw [h_number, h_flushes]
  · rw [h_key]
    rintro (⟨h_kept, -⟩ | ⟨-, h_mine⟩ | ⟨h_mine, -, -⟩)
    · simp [h_kept] at h_new
    · simp [h_mine, settler?, h_number] at h_writer
    · simp [h_mine, settler?] at h_writer

end State

end KernelDispatch
